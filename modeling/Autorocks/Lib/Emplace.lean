import Mathlib

/-!
# Maps where the first insertion wins

`std::unordered_map::emplace` inserts a value under a key only when the key is absent, so
that of several values emplaced under one key the first is kept.  Only lookups of such a map
are ever observed here (never its iteration order), so it is modelled by Mathlib's association
list `AList`, and `emplace` by an insertion guarded by membership.

The lemma the rest uses: emplacing the elements of a list, each under its own key, gives the
map whose lookup of a key is the first element of the list with that key
(`lookup_foldl_emplace`).
-/

namespace AList

variable {α β : Type*} [DecidableEq α]

/-- `std::unordered_map::emplace`: insert `b` under `a` unless `a` is already a key. -/
def emplace (a : α) (b : β) (s : AList fun _ : α => β) : AList fun _ : α => β :=
  if a ∈ s then s else s.insert a b

/-- A lookup after `emplace` finds the old value if there is one, and the emplaced one
otherwise. -/
theorem lookup_emplace (a a' : α) (b : β) (s : AList fun _ : α => β) :
    (emplace a b s).lookup a' = (s.lookup a').or (if a' = a then some b else none) := by
  unfold emplace
  by_cases ha : a ∈ s
  · rw [if_pos ha]
    by_cases h : a' = a
    · subst h
      obtain ⟨b', hb'⟩ := Option.isSome_iff_exists.1 (AList.lookup_isSome.2 ha)
      simp [hb']
    · simp [h]
  · rw [if_neg ha]
    by_cases h : a' = a
    · subst h
      simp [AList.lookup_insert, AList.lookup_eq_none.2 ha]
    · simp [AList.lookup_insert_ne h, h]

/-- **Emplacing a list keeps the first element of each key.** -/
theorem lookup_foldl_emplace (key : β → α) (l : List β) (s : AList fun _ : α => β) (a : α) :
    (l.foldl (fun m x => emplace (key x) x m) s).lookup a =
      (s.lookup a).or (l.find? fun x => key x = a) := by
  induction l generalizing s with
  | nil => simp
  | cons x l ih =>
    rw [List.foldl_cons, ih, lookup_emplace, List.find?_cons]
    by_cases h : key x = a
    · simp [h]
    · simp [h, Ne.symm h]

end AList
