import Mathlib
import Autorocks.Lib.ListEdit

/-!
# The hash map of the deadlock detector

`HashMap<K, V, size>` of `util/hash_map.h`, with the transaction ids of the lock manager as
keys: an array of `size` buckets, the bucket of a key being `key % size`, each bucket a vector
of pairs searched from the front.  `Insert` pushes at the back without looking, `Delete`
removes the first pair with the key by moving the last pair into its place, and `Get`
returns a reference to the value of the first pair with the key.

Read through `Get`, the map is a finite partial function:

* `Get` after `Insert` finds the new value when the key was absent, and every other key as
  before (`HashMap.Get_Insert`); writing through `Get`'s reference changes that key's value
  only (`HashMap.Get_modify`);
* in a map where no key is in its bucket twice (`HashMap.WF`, kept by `Insert` of an absent
  key, `Delete` and `modify`), `Get` after `Delete` finds nothing for that key and every other
  key as before (`HashMap.Get_Delete`), although `Delete` reorders the bucket.

`HashMap.entries`, the pairs of all buckets as a multiset, is what sums over the map are
taken of; each operation adds or takes out one pair (`HashMap.entries_Insert`, ...).
-/

namespace Autorocks

/-- `HashMap<TransactionID, V, size>`: `table_`, the buckets of pairs in the order the source
keeps them. -/
structure HashMap (V : Type*) (size : ℕ) where
  table : Fin size → List (ℕ × V)

namespace HashMap

variable {V : Type*} {size : ℕ} [NeZero size]

/-- The map the array's default construction leaves: every bucket empty. -/
def empty : HashMap V size := ⟨fun _ => []⟩

/-- The bucket of `key`: `table_[key % size]`. -/
def slot (size : ℕ) [NeZero size] (key : ℕ) : Fin size := Fin.ofNat size key

/-- The test `p.first == key` of the lookups' `find_if`. -/
def isKey (key : ℕ) (p : ℕ × V) : Bool := p.1 == key

/-- `Contains(key)`: some pair of the key's bucket has the key. -/
def Contains (m : HashMap V size) (key : ℕ) : Bool := (m.table (slot size key)).any (isKey key)

/-- `Insert(key, value)`: push the pair at the back of the key's bucket. -/
def Insert (m : HashMap V size) (key : ℕ) (value : V) : HashMap V size :=
  ⟨Function.update m.table (slot size key) (m.table (slot size key) ++ [(key, value)])⟩

/-- `Delete(key)`: overwrite the first pair with the key by the bucket's last pair, and pop the
last; nothing when the key is absent. -/
def Delete (m : HashMap V size) (key : ℕ) : HashMap V size :=
  let bucket := m.table (slot size key)
  let i := bucket.findIdx (isKey key)
  if i < bucket.length then ⟨Function.update m.table (slot size key) (bucket.swapRemove i)⟩
  else m

/-- `Get(key)`: the value of the first pair with the key.  Where there is none the source
dereferences the bucket's `end()`; the model answers `none`. -/
def Get (m : HashMap V size) (key : ℕ) : Option V :=
  ((m.table (slot size key)).find? (isKey key)).map Prod.snd

/-- A write `Get(key) = f(Get(key))` through the reference `Get` returns: `f` applied to the
value of the first pair with the key.  Where there is none the source writes through the
bucket's `end()`; the model leaves the map as it is. -/
def modify (m : HashMap V size) (key : ℕ) (f : V → V) : HashMap V size :=
  let bucket := m.table (slot size key)
  ⟨Function.update m.table (slot size key)
    (bucket.modify (bucket.findIdx (isKey key)) fun p => (p.1, f p.2))⟩

/-- All pairs of the map.  Irreducible: unfolding the sum over the buckets is never what a
proof about a map of 128 buckets wants. -/
@[irreducible] def entries (m : HashMap V size) : Multiset (ℕ × V) := ∑ i, (m.table i : Multiset (ℕ × V))

/-- What `Insert` of absent keys, `Delete` and `modify` keep: every pair sits in the bucket of
its key, and no key is in a bucket twice. -/
structure WF (m : HashMap V size) : Prop where
  slot_eq : ∀ i, ∀ p ∈ m.table i, slot size p.1 = i
  nodup : ∀ i, ((m.table i).map Prod.fst).Nodup

/-! ### Reading the map through `Get` -/

@[simp] theorem isKey_eq (key : ℕ) (p : ℕ × V) : isKey key p = decide (p.1 = key) :=
  Bool.eq_iff_iff.2 (by simp [isKey])

theorem table_Insert (m : HashMap V size) (key : ℕ) (value : V) :
    (m.Insert key value).table =
      Function.update m.table (slot size key) (m.table (slot size key) ++ [(key, value)]) := rfl

theorem table_modify (m : HashMap V size) (key : ℕ) (f : V → V) :
    (m.modify key f).table = Function.update m.table (slot size key)
      ((m.table (slot size key)).modify ((m.table (slot size key)).findIdx (isKey key))
        fun p => (p.1, f p.2)) := rfl

@[simp] theorem Get_empty (key : ℕ) : (empty : HashMap V size).Get key = none := rfl

theorem Contains_eq (m : HashMap V size) (key : ℕ) : m.Contains key = (m.Get key).isSome := by
  rw [Contains, Get, Option.isSome_map]
  exact Bool.eq_iff_iff.2 (List.any_eq_true.trans List.find?_isSome.symm)

/-- `Get` on one bucket of the map, in terms of the list. -/
theorem Get_of_table (m : HashMap V size) (key : ℕ) {l : List (ℕ × V)}
    (h : m.table (slot size key) = l) : m.Get key = (l.find? (isKey key)).map Prod.snd := by
  rw [Get, h]

/-- **`Insert` then `Get`**: the first pair with a key stays first, so the new value is found
only when the key was absent. -/
theorem Get_Insert (m : HashMap V size) (key key' : ℕ) (value : V) :
    (m.Insert key value).Get key' =
      if key' = key then some ((m.Get key).getD value) else m.Get key' := by
  by_cases hs : slot size key' = slot size key
  · have hb := Get_of_table (m.Insert key value) key'
      (by rw [table_Insert, hs, Function.update_self])
    rw [hb, List.find?_append, ← hs]
    split_ifs with hk
    · subst hk
      rw [Get]
      cases (m.table (slot size key')).find? (isKey key') <;> simp
    · simp [Get, Ne.symm hk]
  · have hk : key' ≠ key := fun h => hs (h ▸ rfl)
    rw [if_neg hk, Get, Get, table_Insert, Function.update_of_ne hs]

theorem Get_Insert_self {m : HashMap V size} {key : ℕ} (h : m.Contains key = false)
    (value : V) : (m.Insert key value).Get key = some value := by
  rw [Contains_eq, Option.isSome_eq_false_iff, Option.isNone_iff_eq_none] at h
  simp [Get_Insert, h]

/-- **Writing through `Get`** changes the value of that key and of no other. -/
theorem Get_modify (m : HashMap V size) (key key' : ℕ) (f : V → V) :
    (m.modify key f).Get key' = if key' = key then (m.Get key).map f else m.Get key' := by
  by_cases hs : slot size key' = slot size key
  · have hb := Get_of_table (m.modify key f) key'
      (by rw [table_modify, hs, Function.update_self])
    rw [hb, ← hs]
    split_ifs with hk
    · subst hk
      rw [List.find?_modify_findIdx (g := fun p => (p.1, f p.2)) fun _ => rfl, Get,
        Option.map_map, Option.map_map]
      rfl
    · -- the pair written through has the key `key`, which the search for `key'` skips
      rw [List.find?_modify_of_not (g := fun p => (p.1, f p.2)) (fun _ => rfl), Get]
      intro p hp
      have := List.findIdx_getElem (w := (List.getElem?_eq_some_iff.1 hp).1)
      simp only [isKey_eq, decide_eq_true_eq] at this ⊢
      rw [(List.getElem?_eq_some_iff.1 hp).2] at this
      simp [this, Ne.symm hk]
  · have hk : key' ≠ key := fun h => hs (h ▸ rfl)
    rw [if_neg hk, Get, Get, table_modify, Function.update_of_ne hs]

/-! ### Maps without repeated keys -/

theorem WF.empty : (empty : HashMap V size).WF :=
  ⟨fun _ _ h => absurd h List.not_mem_nil, fun _ => List.nodup_nil⟩

/-- In a bucket without repeated keys, the value the search finds is the one paired with the
key. -/
theorem find?_isKey_eq_some_iff {l : List (ℕ × V)} (hl : (l.map Prod.fst).Nodup) {key : ℕ}
    {v : V} : (l.find? (isKey key)).map Prod.snd = some v ↔ (key, v) ∈ l := by
  constructor
  · intro h
    obtain ⟨p, hp, rfl⟩ := Option.map_eq_some_iff.1 h
    have hk : p.1 = key := by simpa using List.find?_some hp
    rw [← hk]
    exact List.mem_of_find?_eq_some hp
  · intro h
    obtain ⟨p, hp⟩ := Option.isSome_iff_exists.1
      ((List.find?_isSome (p := isKey key)).2 ⟨_, h, by simp⟩)
    have hk : p.1 = key := by simpa using List.find?_some hp
    rw [hp, List.inj_on_of_nodup_map hl (List.mem_of_find?_eq_some hp) h hk]
    rfl

theorem WF.Get_eq_some_iff {m : HashMap V size} (hwf : m.WF) {key : ℕ} {v : V} :
    m.Get key = some v ↔ (key, v) ∈ m.table (slot size key) :=
  find?_isKey_eq_some_iff (hwf.nodup _)

/-- A pair is in the map exactly when `Get` finds its value under its key. -/
theorem WF.mem_entries_iff {m : HashMap V size} (hwf : m.WF) {p : ℕ × V} :
    p ∈ m.entries ↔ m.Get p.1 = some p.2 := by
  rw [hwf.Get_eq_some_iff, entries, Multiset.mem_sum]
  constructor
  · rintro ⟨i, -, hi⟩
    rwa [hwf.slot_eq i p hi]
  · exact fun h => ⟨_, Finset.mem_univ _, h⟩

/-- Removing the pair with the key from a bucket without repeated keys leaves the other
pairs. -/
theorem mem_swapRemove_isKey_iff {l : List (ℕ × V)} (hl : (l.map Prod.fst).Nodup) {key : ℕ}
    (hi : l.findIdx (isKey key) < l.length) (p : ℕ × V) :
    p ∈ l.swapRemove (l.findIdx (isKey key)) ↔ p ∈ l ∧ p.1 ≠ key := by
  rw [(List.perm_swapRemove_findIdx hi).mem_iff]
  obtain ⟨x, hx⟩ := Option.isSome_iff_exists.1
    (List.find?_isSome.2 ⟨_, List.getElem_mem hi, List.findIdx_getElem⟩)
  have hxk : x.1 = key := by simpa using List.find?_some hx
  -- the key occurs once, in the pair the search found
  have hnd := ((List.perm_cons_eraseP_of_find? hx).map Prod.fst).nodup_iff.1 hl
  rw [List.map_cons, List.nodup_cons, hxk] at hnd
  constructor
  · intro hp
    refine ⟨List.mem_of_mem_eraseP hp, fun hk => hnd.1 ?_⟩
    have hpk := List.mem_map_of_mem (f := Prod.fst) hp
    rwa [hk] at hpk
  · rintro ⟨hp, hk⟩
    exact (List.mem_eraseP_of_neg (by simpa using hk)).2 hp

theorem nodup_swapRemove_isKey {l : List (ℕ × V)} (hl : (l.map Prod.fst).Nodup) {key : ℕ}
    (hi : l.findIdx (isKey key) < l.length) :
    ((l.swapRemove (l.findIdx (isKey key))).map Prod.fst).Nodup :=
  ((List.perm_swapRemove_findIdx hi).map Prod.fst).nodup_iff.2
    (List.eraseP_sublist.map Prod.fst |>.nodup hl)

theorem table_Delete_of_lt (m : HashMap V size) {key : ℕ}
    (hi : (m.table (slot size key)).findIdx (isKey key) < (m.table (slot size key)).length) :
    (m.Delete key).table = Function.update m.table (slot size key)
      ((m.table (slot size key)).swapRemove ((m.table (slot size key)).findIdx (isKey key))) := by
  rw [Delete, if_pos hi]

theorem Delete_of_not_lt (m : HashMap V size) {key : ℕ}
    (hi : ¬ (m.table (slot size key)).findIdx (isKey key) < (m.table (slot size key)).length) :
    m.Delete key = m := by
  rw [Delete, if_neg hi]

/-- **`Delete` then `Get`**: in a map without repeated keys the key is gone and every other key
keeps its value. -/
theorem Get_Delete {m : HashMap V size} (hwf : m.WF) (key key' : ℕ) :
    (m.Delete key).Get key' = if key' = key then none else m.Get key' := by
  by_cases hi : (m.table (slot size key)).findIdx (isKey key) < (m.table (slot size key)).length
  · by_cases hs : slot size key' = slot size key
    · refine Option.ext fun v => ?_
      rw [Get_of_table (m.Delete key) key' (by rw [table_Delete_of_lt m hi, hs, Function.update_self]),
        find?_isKey_eq_some_iff (nodup_swapRemove_isKey (hwf.nodup _) hi),
        mem_swapRemove_isKey_iff (hwf.nodup _) hi]
      split_ifs with hk
      · simp [hk]
      · rw [hwf.Get_eq_some_iff, hs]
        simp [hk]
    · have hk : key' ≠ key := fun h => hs (h ▸ rfl)
      rw [if_neg hk, Get, Get, table_Delete_of_lt m hi, Function.update_of_ne hs]
  · -- no pair has the key: `Delete` changes nothing and `Get` finds nothing under the key
    rw [Delete_of_not_lt m hi]
    split_ifs with hk
    · subst hk
      rw [Get, Option.map_eq_none_iff, List.find?_eq_none]
      intro p hp
      have := (List.findIdx_eq_length (p := isKey key')).1
        (le_antisymm List.findIdx_le_length (not_lt.1 hi)) p hp
      simpa using this
    · rfl

theorem WF.Insert {m : HashMap V size} (hwf : m.WF) {key : ℕ} (h : m.Contains key = false)
    (value : V) : (m.Insert key value).WF := by
  have habs : key ∉ (m.table (slot size key)).map Prod.fst := by
    intro hk
    obtain ⟨p, hp, rfl⟩ := List.mem_map.1 hk
    have : m.Contains p.1 = true := List.any_eq_true.2 ⟨p, hp, by simp⟩
    rw [h] at this
    exact Bool.false_ne_true this
  constructor
  · intro i p hp
    rw [table_Insert] at hp
    by_cases hi : i = slot size key
    · subst hi
      rw [Function.update_self, List.mem_append, List.mem_singleton] at hp
      rcases hp with hp | rfl
      · exact hwf.slot_eq _ p hp
      · rfl
    · rw [Function.update_of_ne hi] at hp
      exact hwf.slot_eq i p hp
  · intro i
    rw [table_Insert]
    by_cases hi : i = slot size key
    · subst hi
      rw [Function.update_self, List.map_append, List.nodup_append]
      refine ⟨hwf.nodup _, by simp, fun a ha b hb => ?_⟩
      simp only [List.map_cons, List.map_nil, List.mem_singleton] at hb
      subst hb
      exact fun h => habs (h ▸ ha)
    · rw [Function.update_of_ne hi]
      exact hwf.nodup i

theorem WF.Delete {m : HashMap V size} (hwf : m.WF) (key : ℕ) : (m.Delete key).WF := by
  by_cases hi : (m.table (slot size key)).findIdx (isKey key) < (m.table (slot size key)).length
  · constructor
    · intro i p hp
      rw [table_Delete_of_lt m hi] at hp
      by_cases hs : i = slot size key
      · subst hs
        rw [Function.update_self, mem_swapRemove_isKey_iff (hwf.nodup _) hi] at hp
        exact hwf.slot_eq _ p hp.1
      · rw [Function.update_of_ne hs] at hp
        exact hwf.slot_eq i p hp
    · intro i
      rw [table_Delete_of_lt m hi]
      by_cases hs : i = slot size key
      · subst hs
        rw [Function.update_self]
        exact nodup_swapRemove_isKey (hwf.nodup _) hi
      · rw [Function.update_of_ne hs]
        exact hwf.nodup i
  · rwa [Delete_of_not_lt m hi]

/-- A write through `Get` keeps every key of the bucket where it was. -/
theorem map_fst_modify (l : List (ℕ × V)) (i : ℕ) (f : V → V) :
    (l.modify i fun p => (p.1, f p.2)).map Prod.fst = l.map Prod.fst := by
  induction l generalizing i with
  | nil => simp
  | cons a l ih =>
    cases i with
    | zero => simp [List.modify_zero_cons]
    | succ i => simp [List.modify_succ_cons, ih]

theorem WF.modify {m : HashMap V size} (hwf : m.WF) (key : ℕ) (f : V → V) :
    (m.modify key f).WF := by
  constructor
  · intro i p hp
    rw [table_modify] at hp
    by_cases hs : i = slot size key
    · subst hs
      rw [Function.update_self] at hp
      -- the key of `p` is the key of a pair of the old bucket
      obtain ⟨q, hq, hqp⟩ := List.mem_map.1
        ((map_fst_modify _ _ f) ▸ List.mem_map_of_mem (f := Prod.fst) hp)
      rw [← hqp]
      exact hwf.slot_eq _ q hq
    · rw [Function.update_of_ne hs] at hp
      exact hwf.slot_eq i p hp
  · intro i
    rw [table_modify]
    by_cases hs : i = slot size key
    · subst hs
      rw [Function.update_self, map_fst_modify]
      exact hwf.nodup _
    · rw [Function.update_of_ne hs]
      exact hwf.nodup i

/-! ### The pairs of the map -/

omit [NeZero size] in
/-- Replacing one bucket replaces its pairs. -/
theorem entries_update (m : HashMap V size) (i : Fin size) (l : List (ℕ × V)) :
    (⟨Function.update m.table i l⟩ : HashMap V size).entries + (m.table i : Multiset (ℕ × V)) =
      m.entries + l := by
  simp only [entries]
  rw [← Finset.add_sum_erase _ _ (Finset.mem_univ i),
    ← Finset.add_sum_erase _ (fun j => (m.table j : Multiset (ℕ × V))) (Finset.mem_univ i),
    Finset.sum_congr rfl fun j hj => by rw [Function.update_of_ne (Finset.ne_of_mem_erase hj)],
    Function.update_self]
  ac_rfl

theorem entries_Insert (m : HashMap V size) (key : ℕ) (value : V) :
    (m.Insert key value).entries = m.entries + {(key, value)} := by
  have h := entries_update m (slot size key) (m.table (slot size key) ++ [(key, value)])
  rw [← Multiset.coe_add, ← add_assoc, add_right_comm] at h
  exact add_right_cancel h

theorem entries_Delete {m : HashMap V size} {key : ℕ} {v : V}
    (h : m.Get key = some v) : (m.Delete key).entries + {(key, v)} = m.entries := by
  obtain ⟨x, hx, hxv⟩ := Option.map_eq_some_iff.1 h
  have hxk : x.1 = key := by simpa using List.find?_some hx
  have hi : (m.table (slot size key)).findIdx (isKey key) < (m.table (slot size key)).length :=
    List.findIdx_lt_length_of_exists ⟨x, List.mem_of_find?_eq_some hx, List.find?_some hx⟩
  -- the bucket is the pair found and the rest, which is what `Delete` leaves
  have hb : (m.table (slot size key) : Multiset (ℕ × V)) =
      (m.table (slot size key)).swapRemove ((m.table (slot size key)).findIdx (isKey key)) +
        {(key, v)} := by
    rw [Multiset.coe_eq_coe.2 (List.perm_cons_eraseP_of_find? hx),
      Multiset.coe_eq_coe.2 (List.perm_swapRemove_findIdx hi), ← Multiset.cons_coe,
      ← Multiset.singleton_add, add_comm, ← hxk, ← hxv]
  have hu := entries_update m (slot size key)
    ((m.table (slot size key)).swapRemove ((m.table (slot size key)).findIdx (isKey key)))
  rw [hb, ← add_assoc, add_right_comm] at hu
  have hd : m.Delete key = ⟨Function.update m.table (slot size key)
      ((m.table (slot size key)).swapRemove ((m.table (slot size key)).findIdx (isKey key)))⟩ := by
    rw [Delete, if_pos hi]
  rw [hd]
  exact add_right_cancel hu

end HashMap

end Autorocks
