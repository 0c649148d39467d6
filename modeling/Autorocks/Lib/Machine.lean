import Mathlib

/-!
# Machines with answers

A stateful component is given as a *machine*: a call takes the state to an answer and a new
state.  The properties proved about them are of two kinds, and both
are reduced here to facts about one step:

* an *invariant* holds in every state that some list of calls reaches
  (`Machine.Reachable.invariant`);
* a machine *meets* a specification whose answer `none` leaves the answer open: wherever the
  specification names an answer, the machine gives that answer, on every list of calls
  (`Machine.IsRefinement.run_meets`).  This is how a specification says "up to the first end
  of the stream" without saying what happens after it.

## Main definitions

* `Machine S I O` : a step function `I → S → O × S`.
* `Machine.run` : the answers to a list of calls and the state after the last one.
* `Machine.Reachable s₀ s` : some list of calls leads from `s₀` to `s`.
* `Machine.Meets` : answers agree with specified answers wherever these are given.
* `Machine.IsRefinement` : a relation between the states of a machine and of a specification
  that one step preserves, and under which the answers meet.
-/

/-- A deterministic machine with states `S`, calls `I` and answers `O`. -/
structure Machine (S : Type*) (I : Type*) (O : Type*) where
  /-- `step i s` : the answer to the call `i` in the state `s`, and the state after it. -/
  step : I → S → O × S

namespace Machine

variable {S T I O : Type*} (M : Machine S I O)

/-- The answers to a list of calls, in order, and the state after the last call. -/
def run : List I → S → List O × S
  | [], s => ([], s)
  | i :: is, s =>
    let r := run is (M.step i s).2
    ((M.step i s).1 :: r.1, r.2)

@[simp] theorem run_nil (s : S) : M.run [] s = ([], s) := rfl

@[simp] theorem run_cons (i : I) (is : List I) (s : S) :
    M.run (i :: is) s =
      ((M.step i s).1 :: (M.run is (M.step i s).2).1, (M.run is (M.step i s).2).2) := rfl

@[simp] theorem length_run (is : List I) (s : S) : (M.run is s).1.length = is.length := by
  induction is generalizing s with
  | nil => rfl
  | cons i is ih => simp [ih]

theorem run_append (is js : List I) (s : S) :
    (M.run (is ++ js) s).2 = (M.run js (M.run is s).2).2 := by
  induction is generalizing s with
  | nil => rfl
  | cons i is ih => exact ih _

/-- `s` is reachable from `s₀` by the calls of `M`. -/
inductive Reachable (s₀ : S) : S → Prop
  | refl : Reachable s₀ s₀
  | step {s : S} (i : I) : Reachable s₀ s → Reachable s₀ (M.step i s).2

variable {M}

theorem reachable_run (s₀ : S) (is : List I) : M.Reachable s₀ (M.run is s₀).2 := by
  -- the first call of the list is the last step of the derivation, so the induction
  -- generalizes over the start state and prepends steps
  suffices h : ∀ s, M.Reachable s₀ s → M.Reachable s₀ (M.run is s).2 from h s₀ .refl
  induction is with
  | nil => exact fun s hs => hs
  | cons i is ih => exact fun s hs => ih _ (hs.step i)

/-- Reachable states satisfy every predicate that holds at the start and that one call
preserves. -/
theorem Reachable.invariant {P : S → Prop} {s₀ s : S} (h : M.Reachable s₀ s) (h₀ : P s₀)
    (hstep : ∀ i s, P s → P (M.step i s).2) : P s := by
  induction h with
  | refl => exact h₀
  | step i _ ih => exact hstep i _ ih

/-! ### Meeting a specification -/

/-- The answers `os` meet the specified answers `as`: the lists have the same length, and
wherever `as` names an answer, `os` gives that answer. -/
def Meets (os : List O) (as : List (Option O)) : Prop :=
  List.Forall₂ (fun o a => ∀ x, a = some x → o = x) os as

@[simp] theorem meets_nil : Meets ([] : List O) [] := List.Forall₂.nil

@[simp] theorem meets_cons {o : O} {a : Option O} {os : List O} {as : List (Option O)} :
    Meets (o :: os) (a :: as) ↔ (∀ x, a = some x → o = x) ∧ Meets os as :=
  List.forall₂_cons

variable (M) in
/-- `R` relates states of `M` to states of the specification `A`: in related states `M` gives
every answer that `A` names, and one call keeps the states related. -/
structure IsRefinement (A : Machine T I (Option O)) (R : S → T → Prop) : Prop where
  answer : ∀ i s t x, R s t → (A.step i t).1 = some x → (M.step i s).1 = x
  step : ∀ i s t, R s t → R (M.step i s).2 (A.step i t).2

/-- **A refinement meets its specification on every list of calls.** -/
theorem IsRefinement.run_meets {A : Machine T I (Option O)} {R : S → T → Prop}
    (hR : M.IsRefinement A R) (is : List I) {s : S} {t : T} (h : R s t) :
    Meets (M.run is s).1 (A.run is t).1 := by
  induction is generalizing s t with
  | nil => exact meets_nil
  | cons i is ih =>
    rw [run_cons, run_cons, meets_cons]
    exact ⟨fun x hx => hR.answer i s t x h hx, ih (hR.step i s t h)⟩

end Machine
