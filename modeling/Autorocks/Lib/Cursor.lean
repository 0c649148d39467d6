import Mathlib

/-!
# Cursors over lists

A cursor stands at an integer position of a list: on an entry when `0 ≤ p < length`, off the
list (before the first entry, or past the last) otherwise.  Walking a cursor one position at a
time, forward or backward, meets the entries of a suffix or of a reversed prefix, up to the
first position off the list (`Cursor.walk`, unfolded one entry at a time by
`Cursor.walk_of_entryAt?_eq_some`).

For a list ordered by a relation, the position of the first entry that satisfies a predicate
closed upward along the relation cuts the list into the entries that fail it and the entries
that satisfy it (`Cursor.drop_findIdx_eq_filter`, `Cursor.take_findIdx_eq_filter`).  This is
what a seek in a sorted source finds.
-/

namespace Cursor

variable {α : Type*}

/-- The entry of `l` at position `p`, if the position is on the list. -/
def entryAt? (l : List α) (p : ℤ) : Option α :=
  if 0 ≤ p then l[p.toNat]? else none

/-- The position one step on: `+1` forward, `-1` backward. -/
def advance (forward : Bool) (p : ℤ) : ℤ := if forward then p + 1 else p - 1

/-- The entries met by a cursor walking from `p`, one position at a time in one direction, up
to the first position off the list. -/
def walk (l : List α) (forward : Bool) (p : ℤ) : List α :=
  if 0 ≤ p ∧ p < l.length then
    if forward then l.drop p.toNat else (l.take (p.toNat + 1)).reverse
  else []

theorem entryAt?_isSome_iff {l : List α} {p : ℤ} :
    (entryAt? l p).isSome ↔ 0 ≤ p ∧ p < l.length := by
  unfold entryAt?
  by_cases hp : 0 ≤ p
  · simp only [hp, ↓reduceIte, isSome_getElem?, true_and]
    omega
  · simp [hp]

theorem entryAt?_eq_some_iff {l : List α} {p : ℤ} {a : α} :
    entryAt? l p = some a ↔ ∃ h : 0 ≤ p ∧ p < l.length, l.get ⟨p.toNat, by omega⟩ = a := by
  unfold entryAt?
  by_cases hp : 0 ≤ p
  · simp only [hp, ↓reduceIte, List.getElem?_eq_some_iff, true_and]
    constructor
    · rintro ⟨h, rfl⟩; exact ⟨by omega, rfl⟩
    · rintro ⟨h, rfl⟩; exact ⟨by omega, rfl⟩
  · simp [hp]

@[simp] theorem entryAt?_natCast (l : List α) (n : ℕ) : entryAt? l n = l[n]? := by
  simp [entryAt?]

theorem walk_of_entryAt?_eq_none {l : List α} {p : ℤ} (h : entryAt? l p = none) (f : Bool) :
    walk l f p = [] := by
  have hoff : ¬ (0 ≤ p ∧ p < l.length) := by
    rw [← entryAt?_isSome_iff, h]; simp
  simp [walk, hoff]

theorem walk_of_onList {l : List α} {p : ℤ} (h : 0 ≤ p ∧ p < l.length) (f : Bool) :
    walk l f p = if f then l.drop p.toNat else (l.take (p.toNat + 1)).reverse :=
  if_pos h

/-- **One step of a walk**: from an entry, the walk meets that entry and then walks on from
the next position. -/
theorem walk_of_entryAt?_eq_some {l : List α} {p : ℤ} {a : α} (h : entryAt? l p = some a)
    (f : Bool) : walk l f p = a :: walk l f (advance f p) := by
  obtain ⟨⟨h0, hlt⟩, rfl⟩ := entryAt?_eq_some_iff.1 h
  have hn : p.toNat < l.length := by omega
  rw [walk_of_onList ⟨h0, hlt⟩]
  cases f with
  | true =>
    -- the next position is either on the list or exactly one past its end
    have hdrop : l.drop (p.toNat + 1) = walk l true (p + 1) := by
      by_cases hnext : p + 1 < l.length
      · rw [walk_of_onList ⟨by omega, hnext⟩, show (p + 1).toNat = p.toNat + 1 by omega]
        rfl
      · rw [List.drop_of_length_le (by omega)]
        simp [walk, hnext]
    rw [if_pos rfl, List.drop_eq_getElem_cons hn, hdrop]
    rfl
  | false =>
    -- the previous position is either on the list or exactly one before its start
    have htake : (l.take p.toNat).reverse = walk l false (p - 1) := by
      by_cases hprev : 0 ≤ p - 1
      · rw [walk_of_onList ⟨hprev, by omega⟩, show (p - 1).toNat + 1 = p.toNat by omega]
        rfl
      · rw [walk, if_neg fun h => hprev h.1, show p.toNat = 0 by omega]
        rfl
    rw [if_neg Bool.false_ne_true, List.take_succ_eq_append_getElem hn, List.reverse_append,
      htake]
    rfl

theorem walk_true_natCast (l : List α) (n : ℕ) : walk l true n = l.drop n := by
  by_cases hn : n < l.length
  · simp [walk, hn]
  · rw [List.drop_of_length_le (by omega)]
    simp [walk, hn]

theorem walk_false_sub_one (l : List α) {n : ℕ} (hn : n ≤ l.length) :
    walk l false ((n : ℤ) - 1) = (l.take n).reverse := by
  by_cases h0 : n = 0
  · subst h0; simp [walk]
  · rw [walk_of_onList ⟨by omega, by omega⟩, if_neg Bool.false_ne_true,
      show ((n : ℤ) - 1).toNat + 1 = n by omega]

/-! ### Seeking in an ordered list -/

variable {R : α → α → Prop} {p : α → Bool}

/-- In a list ordered by `R`, the entries from the first one satisfying `p` on are exactly the
entries satisfying `p`, when `p` is closed upward along `R`. -/
theorem drop_findIdx_eq_filter {l : List α} (hl : l.Pairwise R)
    (hp : ∀ a b, R a b → p a → p b) : l.drop (l.findIdx p) = l.filter p := by
  induction l with
  | nil => rfl
  | cons a l ih =>
    obtain ⟨hab, hl⟩ := List.pairwise_cons.1 hl
    by_cases ha : p a
    · -- every later entry satisfies `p` too
      have hall : l.filter p = l :=
        List.filter_eq_self.2 fun b hb => hp a b (hab b hb) ha
      simp [List.findIdx_cons, ha, hall]
    · simp [List.findIdx_cons, ha, ih hl]

/-- ... and the entries before it are exactly the entries failing `p`. -/
theorem take_findIdx_eq_filter {l : List α} (hl : l.Pairwise R)
    (hp : ∀ a b, R a b → p a → p b) : l.take (l.findIdx p) = l.filter (fun a => !p a) := by
  induction l with
  | nil => rfl
  | cons a l ih =>
    obtain ⟨hab, hl⟩ := List.pairwise_cons.1 hl
    by_cases ha : p a
    · have hnone : l.filter (fun a => !p a) = [] :=
        List.filter_eq_nil_iff.2 fun b hb => by simp [hp a b (hab b hb) ha]
      simp [List.findIdx_cons, ha, hnone]
    · simp [List.findIdx_cons, ha, ih hl]

end Cursor
