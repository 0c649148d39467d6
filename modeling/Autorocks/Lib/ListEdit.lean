import Mathlib.Data.List.Perm.Basic

/-!
# Editing a list where a search stops

Containers built on vectors edit the element a linear search found, in place.

* Removal without shifting: the element is overwritten by the last one, and the last one is
  popped (`*it = *last; pop_back()`).  The order of what remains changes, but as a multiset the
  result is the list with that one position erased (`List.perm_swapRemove`), and so with the
  first element found by the search erased (`List.perm_swapRemove_findIdx`,
  `List.perm_swapRemove_idxOf`), which takes that element out of the list
  (`List.perm_cons_eraseP_of_find?`).
* Writing through the reference the search returned (`List.modify` at `List.findIdx`): a later
  search finds the new element, and a search that the element fails finds what it found before
  (`List.find?_modify_findIdx`, `List.find?_modify_of_not`).
-/

namespace List

variable {α : Type*}

/-- Overwrite position `i` with the last element, then drop the last element. -/
def swapRemove (l : List α) (i : ℕ) : List α :=
  match l.getLast? with
  | none => []
  | some z => if i + 1 < l.length then (l.set i z).dropLast else l.dropLast

theorem swapRemove_append_cons_append_singleton (a m : List α) (x z : α) :
    (a ++ x :: (m ++ [z])).swapRemove a.length = a ++ z :: m := by
  have hlast : (a ++ x :: (m ++ [z])).getLast? = some z := by
    rw [show a ++ x :: (m ++ [z]) = (a ++ x :: m) ++ [z] by simp, getLast?_concat]
  have hlen : a.length + 1 < (a ++ x :: (m ++ [z])).length := by simp
  have hset : (a ++ x :: (m ++ [z])).set a.length z = (a ++ z :: m) ++ [z] := by
    rw [set_append_right _ _ (Nat.le_refl _), Nat.sub_self]
    simp
  rw [swapRemove, hlast]
  dsimp only
  rw [if_pos hlen, hset, dropLast_concat]

theorem swapRemove_append_singleton (a : List α) (x : α) :
    (a ++ [x]).swapRemove a.length = a := by
  simp [swapRemove]

/-- **Swap-removing position `i` erases position `i`**, up to the order of the rest. -/
theorem perm_swapRemove {l : List α} {i : ℕ} (hi : i < l.length) :
    (l.swapRemove i).Perm (l.eraseIdx i) := by
  -- split the list at `i`, then split what follows the element at `i` off its last element
  obtain ⟨a, x, b, rfl, rfl⟩ : ∃ a x b, l = a ++ x :: b ∧ i = a.length :=
    ⟨l.take i, l[i], l.drop (i + 1), by simp, by simp; omega⟩
  rw [eraseIdx_append_of_length_le (Nat.le_refl _), Nat.sub_self, eraseIdx_cons_zero]
  rcases eq_nil_or_concat b with rfl | ⟨m, z, rfl⟩
  · rw [swapRemove_append_singleton]
    simp
  · rw [concat_eq_append, swapRemove_append_cons_append_singleton]
    exact (perm_append_left_iff a).2 (perm_append_singleton z m).symm

theorem perm_swapRemove_findIdx {l : List α} {p : α → Bool} (h : l.findIdx p < l.length) :
    (l.swapRemove (l.findIdx p)).Perm (l.eraseP p) := by
  have hidx : l.findIdx? p = some (l.findIdx p) := findIdx?_eq_some_iff_findIdx_eq.2 ⟨h, rfl⟩
  rw [eraseP_eq_eraseIdx, hidx]
  exact perm_swapRemove h

theorem perm_swapRemove_idxOf [BEq α] [LawfulBEq α] {l : List α} {a : α}
    (h : l.idxOf a < l.length) : (l.swapRemove (l.idxOf a)).Perm (l.erase a) := by
  rw [erase_eq_eraseIdx_of_idxOf rfl]
  exact perm_swapRemove h

theorem perm_cons_eraseP_of_find? {l : List α} {p : α → Bool} {x : α} (h : l.find? p = some x) :
    l.Perm (x :: l.eraseP p) := by
  obtain ⟨hx, as, bs, rfl, has⟩ := find?_eq_some_iff_append.1 h
  rw [eraseP_append_right _ fun a ha => by simpa using has a ha, eraseP_cons_of_pos hx]
  exact perm_middle

theorem find?_modify_findIdx {l : List α} {p : α → Bool} {g : α → α} (hg : ∀ x, p (g x) = p x) :
    (l.modify (l.findIdx p) g).find? p = (l.find? p).map g := by
  induction l with
  | nil => rfl
  | cons a l ih =>
    by_cases ha : p a
    · simp [findIdx_cons, ha, modify_zero_cons, hg]
    · simp [findIdx_cons, ha, modify_succ_cons, ih]

theorem find?_modify_of_not {l : List α} {q : α → Bool} {g : α → α} {i : ℕ}
    (hg : ∀ x, q (g x) = q x) (hi : ∀ x ∈ l[i]?, q x = false) :
    (l.modify i g).find? q = l.find? q := by
  induction l generalizing i with
  | nil => simp
  | cons a l ih =>
    cases i with
    | zero => simp_all [modify_zero_cons]
    | succ i => rw [modify_succ_cons, find?_cons, find?_cons, ih (by simpa using hi)]

end List
