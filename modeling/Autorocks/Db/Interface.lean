import Autorocks.Options.Basic

/-!
# The RocksDB core, as the wrappers call it

The database wrappers (`autorocks-sys/src/db.h`) and the transaction layer they open through
(`utilities/transactions/pessimistic_transaction_db.cc`) call into the core of RocksDB:
`DBImpl` (`db/db_impl/`), the column family handles and their destructor.  That code is not
part of the repository, so it is a parameter here: a `DBImpl W` is the set of calls the
wrappers make, over a world `W` that holds the databases and the allocated handles.

Besides the calls, a `DBImpl` names one ghost observation, `created`: the handles that are
allocated and not yet deleted, each with the descriptor (name and options) its column family
was opened or created with.  A call through a handle that is not `live` is undefined
behaviour, and the wrappers' models return `none` there.

What the wrappers rely on is `DBImpl.Lawful`: how each call moves the ghost table, what a
failed open leaves in its output vector, and that the comparator and the memtable factory a
handle's options report are those its column family was opened with (neither ever changes).
Among its fields are `open_error` and `openForReadOnly_error` (a failed open leaves no handle in
the output vector), and `createColumnFamily_error` (a failed `DBImpl::CreateColumnFamily` writes
null to its output).  What a successful `DB::OpenForReadOnly` returns is assumed apart, in
`DBImpl.LawfulReadOnly`, by the results about the read-only wrapper only.
`Db/Reference.lean` gives an implementation that satisfies both.
-/

namespace Autorocks

/-- `ColumnFamilyHandle*`, by the identity of the object it points to. -/
structure ColumnFamilyHandle where
  id : ℕ
  deriving DecidableEq, Repr

/-- What `Initialize` learns from one recovered transaction (`DBImpl::RecoveredTransaction`):
whether it is `unprepared_`, the status of `SetName` with its name, those of
`RebuildFromWriteBatch` with each of its batches in order (there is at least one), and that of
`RollbackRecoveredTransaction`, which only a write-unprepared database calls. -/
structure RecoveredTransaction where
  unprepared : Bool
  setName : Status
  rebuildFromWriteBatch : List Status
  rebuildFromWriteBatch_ne_nil : rebuildFromWriteBatch ≠ []
  rollback : Status
  deriving DecidableEq

/-- The calls of the wrappers into the RocksDB core, over a world `W`. -/
structure DBImpl (W : Type*) where
  /-- Ghost: the handles that are allocated and not deleted, with the descriptor their column
  family was opened or created with. -/
  created : W → ColumnFamilyHandle → Option ColumnFamilyDescriptor
  /-- `DBImpl::Open` with the column families, `seq_per_batch` and `batch_per_txn`: its status,
  the handles it leaves in `*handles`, and the world after. -/
  «open» : DBOptions → String → List ColumnFamilyDescriptor → Bool → Bool → W →
    Status × List ColumnFamilyHandle × W
  /-- `DB::OpenForReadOnly` with the column families. -/
  openForReadOnly : DBOptions → String → List ColumnFamilyDescriptor → W →
    Status × List ColumnFamilyHandle × W
  /-- `ColumnFamilyHandle::GetDescriptor`. -/
  getDescriptor : ColumnFamilyHandle → W → Status × ColumnFamilyDescriptor
  /-- `DBImpl::EnableAutoCompaction`. -/
  enableAutoCompaction : List ColumnFamilyHandle → W → Status × W
  /-- `DBImpl::recovered_transactions`, in the order of its map. -/
  recoveredTransactions : W → List RecoveredTransaction
  /-- `DBImpl::DeleteAllRecoveredTransactions`. -/
  deleteAllRecoveredTransactions : W → W
  /-- `DB::GetOptions(column_family)`. -/
  getOptions : ColumnFamilyHandle → W → ColumnFamilyOptions
  /-- `DBImpl::DropColumnFamily`. -/
  dropColumnFamily : ColumnFamilyHandle → W → Status × W
  /-- `DB::DestroyColumnFamilyHandle`; `none` is a null handle. -/
  destroyColumnFamilyHandle : Option ColumnFamilyHandle → W → Status × W
  /-- `DBImpl::CreateColumnFamily`: its status, what it writes to `*handle`, the world after. -/
  createColumnFamily : ColumnFamilyOptions → String → W → Status × Option ColumnFamilyHandle × W
  /-- `delete handle`. -/
  deleteHandle : ColumnFamilyHandle → W → W

namespace DBImpl

variable {W : Type*} (impl : DBImpl W)

/-- The handle is allocated and not deleted. -/
def live (w : W) (h : ColumnFamilyHandle) : Bool := (impl.created w h).isSome

/-- The ghost table after destroying a handle: a null handle destroys nothing. -/
def destroyed (w : W) : Option ColumnFamilyHandle → ColumnFamilyHandle → Option ColumnFamilyDescriptor
  | none => impl.created w
  | some h => Function.update (impl.created w) h none

/-- What the wrappers assume of the RocksDB core. -/
structure Lawful : Prop where
  /-- A failed `DBImpl::Open` leaves no handle in its output vector. -/
  open_error : ∀ o n cfs b b' w, (impl.«open» o n cfs b b' w).1.ok = false →
    (impl.«open» o n cfs b b' w).2.1 = []
  /-- A successful `DBImpl::Open` returns one new handle per column family, in order
  (`DB::Open`: "handles[i] will be a handle that you will use to operate on column family
  column_family[i]"). -/
  open_ok : ∀ o n cfs b b' w, (impl.«open» o n cfs b b' w).1.ok = true →
    List.Forall₂ (fun h d => impl.created (impl.«open» o n cfs b b' w).2.2 h = some d)
      (impl.«open» o n cfs b b' w).2.1 cfs
  open_nodup : ∀ o n cfs b b' w, (impl.«open» o n cfs b b' w).1.ok = true →
    (impl.«open» o n cfs b b' w).2.1.Nodup
  /-- A failed `DB::OpenForReadOnly` leaves no handle in its output vector. -/
  openForReadOnly_error : ∀ o n cfs w, (impl.openForReadOnly o n cfs w).1.ok = false →
    (impl.openForReadOnly o n cfs w).2.1 = []
  /-- A handle's options report the comparator its column family was opened with. -/
  getDescriptor_comparator : ∀ h w d, impl.created w h = some d →
    (impl.getDescriptor h w).1.ok = true →
    (impl.getDescriptor h w).2.options.comparator = d.options.comparator
  getOptions_comparator : ∀ h w d, impl.created w h = some d →
    (impl.getOptions h w).comparator = d.options.comparator
  /-- ... and the memtable factory. -/
  getDescriptor_memtableFactory : ∀ h w d, impl.created w h = some d →
    (impl.getDescriptor h w).1.ok = true →
    (impl.getDescriptor h w).2.options.memtableFactory = d.options.memtableFactory
  getOptions_memtableFactory : ∀ h w d, impl.created w h = some d →
    (impl.getOptions h w).memtableFactory = d.options.memtableFactory
  enableAutoCompaction_created : ∀ hs w,
    impl.created (impl.enableAutoCompaction hs w).2 = impl.created w
  deleteAllRecoveredTransactions_created : ∀ w,
    impl.created (impl.deleteAllRecoveredTransactions w) = impl.created w
  /-- Dropping a column family keeps its handles. -/
  dropColumnFamily_created : ∀ h w, impl.created (impl.dropColumnFamily h w).2 = impl.created w
  /-- A failed drop changes nothing. -/
  dropColumnFamily_error : ∀ h w, (impl.dropColumnFamily h w).1.ok = false →
    (impl.dropColumnFamily h w).2 = w
  /-- A successful `DestroyColumnFamilyHandle` deletes the handle; a failed one deletes
  nothing. -/
  destroyColumnFamilyHandle_ok : ∀ h w, (impl.destroyColumnFamilyHandle h w).1.ok = true →
    impl.created (impl.destroyColumnFamilyHandle h w).2 = impl.destroyed w h
  destroyColumnFamilyHandle_error : ∀ h w, (impl.destroyColumnFamilyHandle h w).1.ok = false →
    impl.created (impl.destroyColumnFamilyHandle h w).2 = impl.created w
  /-- A successful `CreateColumnFamily` writes a new handle for the new column family. -/
  createColumnFamily_ok : ∀ o n w, (impl.createColumnFamily o n w).1.ok = true →
    ∃ h, (impl.createColumnFamily o n w).2.1 = some h ∧ impl.created w h = none ∧
      impl.created (impl.createColumnFamily o n w).2.2 =
        Function.update (impl.created w) h (some { name := n, options := o })
  /-- A failed `CreateColumnFamily` writes null to its output and creates nothing. -/
  createColumnFamily_error : ∀ o n w, (impl.createColumnFamily o n w).1.ok = false →
    (impl.createColumnFamily o n w).2.1 = none ∧
      impl.created (impl.createColumnFamily o n w).2.2 = impl.created w
  deleteHandle_created : ∀ h w,
    impl.created (impl.deleteHandle h w) = Function.update (impl.created w) h none

/-- What the read-only wrapper assumes of a successful `DB::OpenForReadOnly`: as of
`DBImpl::Open`, one new handle per column family, in order. -/
structure LawfulReadOnly : Prop where
  openForReadOnly_ok : ∀ o n cfs w, (impl.openForReadOnly o n cfs w).1.ok = true →
    List.Forall₂ (fun h d => impl.created (impl.openForReadOnly o n cfs w).2.2 h = some d)
      (impl.openForReadOnly o n cfs w).2.1 cfs
  openForReadOnly_nodup : ∀ o n cfs w, (impl.openForReadOnly o n cfs w).1.ok = true →
    (impl.openForReadOnly o n cfs w).2.1.Nodup

@[simp] theorem live_eq_true_iff (w : W) (h : ColumnFamilyHandle) :
    impl.live w h = true ↔ ∃ d, impl.created w h = some d := by
  simp [live, Option.isSome_iff_exists]

/-! ### The column family calls of a lawful core, by outcome -/

namespace Lawful

variable {impl} (hl : impl.Lawful)
include hl

end Lawful

end DBImpl

end Autorocks
