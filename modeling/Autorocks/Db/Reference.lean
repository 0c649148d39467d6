import Autorocks.Db.Interface

/-!
# A reference core

An implementation of `DBImpl` that satisfies `DBImpl.Lawful`, so that the assumptions the
wrapper theorems make can all hold at once, and so that their witnesses can run on it.

Its world is the table of the handles allocated so far, numbered in order of allocation, each
with the descriptor of its column family until it is deleted.  Opening allocates one handle
per descriptor, creating a column family allocates one more, destroying or deleting a handle
clears its slot; every call succeeds, except dropping the default column family, which
`DBImpl::DropColumnFamily` refuses with "Can't drop default column family".
-/

namespace Autorocks

/-- The handles allocated so far, by number: the descriptor of each one's column family, or
`none` once it is deleted. -/
structure RefWorld where
  table : List (Option ColumnFamilyDescriptor)
  deriving DecidableEq, Repr

namespace RefWorld

variable (w : RefWorld)

/-- The live handles, with their descriptors. -/
def created (h : ColumnFamilyHandle) : Option ColumnFamilyDescriptor := (w.table[h.id]?).join

/-- One new handle per descriptor, numbered after the existing ones. -/
def alloc (cfs : List ColumnFamilyDescriptor) : List ColumnFamilyHandle × RefWorld :=
  ((List.range cfs.length).map fun i => ⟨w.table.length + i⟩, ⟨w.table ++ cfs.map some⟩)

/-- Deleting a handle clears its slot. -/
def free (h : ColumnFamilyHandle) : RefWorld := ⟨w.table.set h.id none⟩

theorem created_free (h : ColumnFamilyHandle) :
    (w.free h).created = Function.update w.created h none := by
  funext h'
  by_cases hh : h' = h
  · subst hh
    simp [created, free, List.getElem?_set]
    split <;> simp_all
  · have hid : h.id ≠ h'.id := fun e => hh (by cases h; cases h'; simp_all)
    simp [created, free, hid, Function.update_of_ne hh]

/-- Allocating fills the new slots with the descriptors, in order, and leaves the others. -/
theorem created_alloc (cfs : List ColumnFamilyDescriptor) :
    List.Forall₂ (fun h d => (w.alloc cfs).2.created h = some d) (w.alloc cfs).1 cfs := by
  rw [List.forall₂_iff_get]
  refine ⟨by simp [alloc], fun i h₁ h₂ => ?_⟩
  simp [alloc, created, List.getElem?_append_right, List.getElem?_eq_getElem h₂]

theorem nodup_alloc (cfs : List ColumnFamilyDescriptor) : (w.alloc cfs).1.Nodup := by
  refine List.nodup_range.map fun a b hab => ?_
  simpa using hab

/-- Allocating one handle for `d`: the handle numbered after the existing ones. -/
theorem created_push (d : ColumnFamilyDescriptor) :
    (RefWorld.mk (w.table ++ [some d])).created =
      Function.update w.created ⟨w.table.length⟩ (some d) := by
  funext h
  by_cases hh : h = ⟨w.table.length⟩
  · subst hh
    simp [created]
  · have hid : h.id ≠ w.table.length := fun e => hh (by cases h; simp_all)
    rw [Function.update_of_ne hh]
    simp only [created]
    rcases Nat.lt_or_ge h.id w.table.length with hlt | hge
    · rw [List.getElem?_append_left hlt]
    · rw [List.getElem?_append_right hge, List.getElem?_eq_none hge]
      have : h.id - w.table.length ≠ 0 := by omega
      simp [this]

theorem created_length : w.created ⟨w.table.length⟩ = none := by
  simp [created]

end RefWorld

/-- The reference core. -/
def Reference.impl : DBImpl RefWorld where
  created := RefWorld.created
  «open» _ _ cfs _ _ w := (Status.OK, (w.alloc cfs).1, (w.alloc cfs).2)
  openForReadOnly _ _ cfs w := (Status.OK, (w.alloc cfs).1, (w.alloc cfs).2)
  getDescriptor h w := (Status.OK, (w.created h).getD {})
  enableAutoCompaction _ w := (Status.OK, w)
  recoveredTransactions _ := []
  deleteAllRecoveredTransactions w := w
  getOptions h w := ((w.created h).getD {}).options
  dropColumnFamily h w :=
    if (w.created h).map (·.name) = some kDefaultColumnFamilyName then
      (Status.InvalidArgument "Can't drop default column family", w)
    else (Status.OK, w)
  destroyColumnFamilyHandle
    | none, w => (Status.OK, w)
    | some h, w => (Status.OK, w.free h)
  createColumnFamily o n w :=
    (Status.OK, some ⟨w.table.length⟩, ⟨w.table ++ [some { name := n, options := o }]⟩)
  deleteHandle h w := w.free h

/-- **The reference core satisfies every assumption of the wrappers' theorems.** -/
theorem Reference.lawful : Reference.impl.Lawful where
  open_error _ _ _ _ _ _ h := by simp [Reference.impl] at h
  open_ok _ _ cfs _ _ w _ := w.created_alloc cfs
  open_nodup _ _ cfs _ _ w _ := w.nodup_alloc cfs
  openForReadOnly_error _ _ _ _ h := by simp [Reference.impl] at h
  getDescriptor_comparator h w d (hd : w.created h = some d) _ := by simp [Reference.impl, hd]
  getOptions_comparator h w d (hd : w.created h = some d) := by simp [Reference.impl, hd]
  getDescriptor_memtableFactory h w d (hd : w.created h = some d) _ := by
    simp [Reference.impl, hd]
  getOptions_memtableFactory h w d (hd : w.created h = some d) := by simp [Reference.impl, hd]
  enableAutoCompaction_created _ _ := rfl
  deleteAllRecoveredTransactions_created _ := rfl
  dropColumnFamily_created h w := by
    simp only [Reference.impl]
    split <;> rfl
  dropColumnFamily_error h w herr := by
    simp only [Reference.impl] at herr ⊢
    split
    · rfl
    · simp_all
  destroyColumnFamilyHandle_ok h w _ := by
    cases h with
    | none => rfl
    | some h => exact w.created_free h
  destroyColumnFamilyHandle_error h w herr := by
    cases h <;> simp [Reference.impl] at herr
  createColumnFamily_ok o n w _ := ⟨⟨w.table.length⟩, rfl, w.created_length, w.created_push _⟩
  createColumnFamily_error _ _ _ h := by simp [Reference.impl] at h
  deleteHandle_created h w := w.created_free h

theorem Reference.lawfulReadOnly : Reference.impl.LawfulReadOnly where
  openForReadOnly_ok _ _ cfs w _ := w.created_alloc cfs
  openForReadOnly_nodup _ _ cfs w _ := w.nodup_alloc cfs

end Autorocks
