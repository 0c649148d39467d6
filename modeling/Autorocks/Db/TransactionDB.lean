import Autorocks.Db.Interface
import Autorocks.Lib.Slots

/-!
# Opening a transaction database

`TransactionDB::Open` with column families (`utilities/transactions/pessimistic_transaction_db.cc`)
and what it runs:

* three checks of the write policy against `unordered_write`, each with its own message;
* `PrepareWrap`, which enables memtable history and disables automatic compactions on a copy of
  the descriptors, remembering the indices of those that had them, and enables two-phase
  commit;
* `DBImpl::Open`, which fills the caller's handle vector;
* `WrapAnotherDBInternal`, which builds the transaction database of the class the write policy
  selects and runs its `Initialize`: it reads and verifies the options of every column family
  (`VerifyCFOptions`), re-enables compactions and rebuilds the recovered transactions.  When
  `Initialize` fails, it deletes every handle of the vector, but leaves the pointers in the
  caller's vector.

The three classes differ where `Initialize` and `VerifyCFOptions` are virtual:
`WriteCommittedTxnDB` inherits both from `PessimisticTransactionDB`; `WritePreparedTxnDB` adds a
check of the memtable factory to `VerifyCFOptions` and runs the `Initialize` of
`PessimisticTransactionDB` after steps of its own that return no status; `WriteUnpreparedTxnDB`
inherits that `VerifyCFOptions` and has an `Initialize` of its own, which rebuilds the prepared
recovered transactions batch by batch and rolls back the unprepared ones before it re-enables
compactions.  The Rust `DbOptions::open` opens with `new_transaction_db_options()`, that is with
`WRITE_COMMITTED`.  The lock manager and the comparator map that these functions also update
are read by no modelled function and are left out.
-/

namespace Autorocks

/-- `TxnDBWritePolicy`. -/
inductive TxnDBWritePolicy where
  | WRITE_COMMITTED | WRITE_PREPARED | WRITE_UNPREPARED
  deriving DecidableEq, Repr

/-- `TransactionDBOptions`, with the fields a modelled function reads, at their defaults. -/
structure TransactionDBOptions where
  numStripes : ℕ := 16
  writePolicy : TxnDBWritePolicy := .WRITE_COMMITTED
  deriving DecidableEq, Repr

/-- `new_transaction_db_options`. -/
def newTransactionDbOptions : TransactionDBOptions := {}

/-- `sizeof(TxnTimestamp)`: a `uint64_t`. -/
def sizeofTxnTimestamp : ℕ := 8

/-- The transaction database built by `WrapAnotherDBInternal`, with the options it keeps.  Its
class, `WriteCommittedTxnDB`, `WritePreparedTxnDB` or `WriteUnpreparedTxnDB`, is the one the
switch of `WrapAnotherDBInternal` picks for the write policy of these options. -/
structure PessimisticTransactionDB where
  txnDbOptions : TransactionDBOptions
  deriving DecidableEq, Repr

namespace PessimisticTransactionDB

/-- `PessimisticTransactionDB::ValidateTxnDBOptions`. -/
def validateTxnDBOptions (txnDbOptions : TransactionDBOptions) : TransactionDBOptions :=
  if txnDbOptions.numStripes = 0 then { txnDbOptions with numStripes := 1 } else txnDbOptions

variable (self : PessimisticTransactionDB)

/-- `PessimisticTransactionDB::VerifyCFOptions`: a comparator without timestamps passes; one
with timestamps must have `sizeof(TxnTimestamp)` bytes of them, and only under the policy
`WRITE_COMMITTED`. -/
def verifyCFOptions (cfOptions : ColumnFamilyOptions) : Status :=
  let ucmp := cfOptions.comparator
  let tsSz := ucmp.timestampSize
  if 0 = tsSz then Status.OK
  else if tsSz ≠ sizeofTxnTimestamp then
    Status.InvalidArgument ("Timestamp of transaction must have " ++ toString sizeofTxnTimestamp ++
      " bytes. CF comparator " ++ ucmp.name ++ " timestamp size is " ++ toString tsSz ++
      " bytes")
  else if self.txnDbOptions.writePolicy ≠ .WRITE_COMMITTED then
    Status.NotSupported "Only WriteCommittedTxn supports timestamp"
  else Status.OK

end PessimisticTransactionDB

/-- `WritePreparedTxnDB::VerifyCFOptions`, which `WriteUnpreparedTxnDB` inherits: the checks of
`PessimisticTransactionDB`, then a memtable that detects duplicated keys. -/
def WritePreparedTxnDB.verifyCFOptions (self : PessimisticTransactionDB)
    (cfOptions : ColumnFamilyOptions) : Status :=
  let s := self.verifyCFOptions cfOptions
  if !s.ok then s
  else if !cfOptions.memtableFactory.canHandleDuplicatedKey then
    Status.InvalidArgument
      "memtable_factory->CanHandleDuplicatedKey() cannot be false with WritePrpeared transactions"
  else Status.OK

namespace PessimisticTransactionDB

variable (self : PessimisticTransactionDB) {W : Type*} (impl : DBImpl W)

/-- The call `VerifyCFOptions(...)` of `Initialize` and `CreateColumnFamily`, resolved by the
class of the database: `WriteCommittedTxnDB` inherits the one of `PessimisticTransactionDB`,
`WriteUnpreparedTxnDB` the one of `WritePreparedTxnDB`. -/
def virtualVerifyCFOptions (cfOptions : ColumnFamilyOptions) : Status :=
  match self.txnDbOptions.writePolicy with
  | .WRITE_COMMITTED => self.verifyCFOptions cfOptions
  | .WRITE_PREPARED | .WRITE_UNPREPARED => WritePreparedTxnDB.verifyCFOptions self cfOptions

/-- The check loop of `Initialize`: the first handle whose descriptor cannot be read, or whose
options `VerifyCFOptions` refuses, stops it with that status. -/
def verifyHandles (w : W) : List ColumnFamilyHandle → Status
  | [] => Status.OK
  | h :: hs =>
    let (s, cfd) := impl.getDescriptor h w
    if !s.ok then s
    else
      let s := self.virtualVerifyCFOptions cfd.options
      if !s.ok then s else verifyHandles w hs

/-- The loop of `PessimisticTransactionDB::Initialize` over the recovered transactions, from the
status `s` that `EnableAutoCompaction` returned: each transaction is named and its one batch
(`batches_.begin()`) rebuilt, the first failure stops the loop, and the status is that of the
last call made. -/
def rebuildRecovered : Status → List RecoveredTransaction → Status
  | s, [] => s
  | _, t :: ts =>
    let rebuilt := t.rebuildFromWriteBatch.head t.rebuildFromWriteBatch_ne_nil
    if !t.setName.ok then t.setName
    else if !rebuilt.ok then rebuilt
    else rebuildRecovered rebuilt ts

/-- `PessimisticTransactionDB::Initialize`: verify every column family, re-enable compactions,
rebuild the recovered transactions. -/
def init (compactionEnabledCfIndices : List ℕ) (handles : List ColumnFamilyHandle)
    (w : W) : Status × W :=
  let s := self.verifyHandles impl w handles
  if !s.ok then (s, w)
  else
    let compactionEnabledCfHandles := compactionEnabledCfIndices.filterMap (handles[·]?)
    let (s, w) := impl.enableAutoCompaction compactionEnabledCfHandles w
    let s := rebuildRecovered s (impl.recoveredTransactions w)
    if s.ok then (s, impl.deleteAllRecoveredTransactions w) else (s, w)

end PessimisticTransactionDB

/-- `WritePreparedTxnDB::Initialize`: its own steps (the prepared heap, the sequence numbers,
the snapshot checker) return no status and touch no handle, and it then runs the `Initialize`
of `PessimisticTransactionDB`. -/
def WritePreparedTxnDB.init {W : Type*} (self : PessimisticTransactionDB) (impl : DBImpl W)
    (compactionEnabledCfIndices : List ℕ) (handles : List ColumnFamilyHandle) (w : W) :
    Status × W :=
  self.init impl compactionEnabledCfIndices handles w

namespace WriteUnpreparedTxnDB

/-- `RebuildFromWriteBatch` over the batches of one transaction: the first failure, or OK. -/
def rebuildBatches : List Status → Status
  | [] => Status.OK
  | s :: ss => if !s.ok then s else rebuildBatches ss

/-- The first loop of `WriteUnpreparedTxnDB::Initialize` over the recovered transactions: each
one that is not `unprepared_` is named and rebuilt batch by batch, and the first failure stops
the loop with its status. -/
def rebuildPrepared : List RecoveredTransaction → Status
  | [] => Status.OK
  | t :: ts =>
    if t.unprepared then rebuildPrepared ts
    else if !t.setName.ok then t.setName
    else
      let s := rebuildBatches t.rebuildFromWriteBatch
      if !s.ok then s else rebuildPrepared ts

/-- The second loop: each `unprepared_` recovered transaction is rolled back, and the first
failure stops the loop with its status. -/
def rollbackUnprepared : List RecoveredTransaction → Status
  | [] => Status.OK
  | t :: ts =>
    if t.unprepared then
      if !t.rollback.ok then t.rollback else rollbackUnprepared ts
    else rollbackUnprepared ts

/-- `WriteUnpreparedTxnDB::Initialize`: verify every column family, rebuild the prepared
recovered transactions and roll back the unprepared ones, and only then delete the recovered
transactions and re-enable compactions. -/
def init {W : Type*} (self : PessimisticTransactionDB) (impl : DBImpl W)
    (compactionEnabledCfIndices : List ℕ) (handles : List ColumnFamilyHandle) (w : W) :
    Status × W :=
  let s := self.verifyHandles impl w handles
  if !s.ok then (s, w)
  else
    let compactionEnabledCfHandles := compactionEnabledCfIndices.filterMap (handles[·]?)
    let rtxns := impl.recoveredTransactions w
    let s := rebuildPrepared rtxns
    if !s.ok then (s, w)
    else
      let s := rollbackUnprepared rtxns
      if s.ok then
        impl.enableAutoCompaction compactionEnabledCfHandles (impl.deleteAllRecoveredTransactions w)
      else (s, w)

end WriteUnpreparedTxnDB

namespace PessimisticTransactionDB

variable (self : PessimisticTransactionDB) {W : Type*} (impl : DBImpl W)

/-- The call `txn_db->Initialize(...)` of `WrapAnotherDBInternal`, resolved by the class of the
database. -/
def virtualInit (compactionEnabledCfIndices : List ℕ) (handles : List ColumnFamilyHandle)
    (w : W) : Status × W :=
  match self.txnDbOptions.writePolicy with
  | .WRITE_COMMITTED => self.init impl compactionEnabledCfIndices handles w
  | .WRITE_PREPARED => WritePreparedTxnDB.init self impl compactionEnabledCfIndices handles w
  | .WRITE_UNPREPARED => WriteUnpreparedTxnDB.init self impl compactionEnabledCfIndices handles w

/-- `PessimisticTransactionDB::CreateColumnFamily`, with the value of the output cell `*handle`
before and after: when `VerifyCFOptions` refuses the options it returns without writing it. -/
def createColumnFamily (options : ColumnFamilyOptions) (columnFamilyName : String)
    (handle : Option ColumnFamilyHandle) (w : W) : Status × Option ColumnFamilyHandle × W :=
  let s := self.virtualVerifyCFOptions options
  if !s.ok then (s, handle, w)
  else impl.createColumnFamily options columnFamilyName w

/-! ### What `VerifyCFOptions` and `Initialize` guarantee -/

/-- The `VerifyCFOptions` of `PessimisticTransactionDB` reads only the comparator. -/
theorem verifyCFOptions_congr {o o' : ColumnFamilyOptions} (h : o.comparator = o'.comparator) :
    self.verifyCFOptions o = self.verifyCFOptions o' := by
  simp only [verifyCFOptions, h]

/-- `VerifyCFOptions` reads only the comparator and the memtable factory. -/
theorem virtualVerifyCFOptions_congr {o o' : ColumnFamilyOptions}
    (hc : o.comparator = o'.comparator) (hm : o.memtableFactory = o'.memtableFactory) :
    self.virtualVerifyCFOptions o = self.virtualVerifyCFOptions o' := by
  unfold virtualVerifyCFOptions WritePreparedTxnDB.verifyCFOptions
  rw [self.verifyCFOptions_congr hc, hm]

/-- The check loop passes exactly when every descriptor is read and its options verified. -/
theorem verifyHandles_ok_iff (w : W) (hs : List ColumnFamilyHandle) :
    (self.verifyHandles impl w hs).ok = true ↔
      ∀ h ∈ hs, (impl.getDescriptor h w).1.ok = true ∧
        (self.virtualVerifyCFOptions (impl.getDescriptor h w).2.options).ok = true := by
  induction hs with
  | nil => simp [verifyHandles]
  | cons h hs ih =>
    rw [List.forall_mem_cons, ← ih, verifyHandles]
    rcases impl.getDescriptor h w with ⟨s, cfd⟩
    cases hs' : s.ok <;> cases hv : (self.virtualVerifyCFOptions cfd.options).ok <;> simp [hs', hv]

/-- Options that `VerifyCFOptions` refuses leave the output cell as it was. -/
theorem createColumnFamily_of_refused {o : ColumnFamilyOptions}
    (h : (self.virtualVerifyCFOptions o).ok = false) (n : String) (cell : Option ColumnFamilyHandle)
    (w : W) :
    self.createColumnFamily impl o n cell w = (self.virtualVerifyCFOptions o, cell, w) := by
  simp [createColumnFamily, h]

variable {impl}

/-- `Initialize` creates and deletes no handle, whatever the class of the database. -/
theorem virtualInit_created (hl : impl.Lawful) (idx : List ℕ) (hs : List ColumnFamilyHandle)
    (w : W) : impl.created (self.virtualInit impl idx hs w).2 = impl.created w := by
  -- the `Initialize` of `PessimisticTransactionDB`, also run by `WritePreparedTxnDB`
  have hbase : impl.created (self.init impl idx hs w).2 = impl.created w := by
    simp only [init]
    split
    · rfl
    · split
      · rw [hl.deleteAllRecoveredTransactions_created, hl.enableAutoCompaction_created]
      · rw [hl.enableAutoCompaction_created]
  unfold virtualInit
  split
  · exact hbase
  · exact hbase
  · simp only [WriteUnpreparedTxnDB.init]
    split
    · rfl
    · split
      · rfl
      · split
        · rw [hl.enableAutoCompaction_created, hl.deleteAllRecoveredTransactions_created]
        · rfl

/-- A successful `Initialize` has verified every column family, whatever the class of the
database. -/
theorem verifyHandles_of_virtualInit (idx : List ℕ) (hs : List ColumnFamilyHandle) (w : W)
    (h : (self.virtualInit impl idx hs w).1.ok = true) :
    (self.verifyHandles impl w hs).ok = true := by
  by_contra hv
  simp only [Bool.not_eq_true] at hv
  -- every class runs the check loop first and returns its failure
  unfold virtualInit at h
  split at h <;>
    simp [init, WritePreparedTxnDB.init, WriteUnpreparedTxnDB.init, hv] at h

end PessimisticTransactionDB

namespace TransactionDB

variable {W : Type*} (impl : DBImpl W)

/-- The loop of `PrepareWrap` over the column families from index `i`: the options with the
memtable history enabled and automatic compactions disabled, and the indices of the column
families that had them enabled. -/
def prepareWrapLoop : ℕ → List ColumnFamilyDescriptor → List ColumnFamilyDescriptor × List ℕ
  | _, [] => ([], [])
  | i, d :: ds =>
    let cfOptions := d.options
    let cfOptions :=
      if cfOptions.maxWriteBufferSizeToMaintain = 0 ∧ cfOptions.maxWriteBufferNumberToMaintain = 0
      then { cfOptions with maxWriteBufferSizeToMaintain := -1 } else cfOptions
    let r := prepareWrapLoop (i + 1) ds
    if !cfOptions.disableAutoCompactions then
      ({ d with options := { cfOptions with disableAutoCompactions := true } } :: r.1, i :: r.2)
    else ({ d with options := cfOptions } :: r.1, r.2)

/-- `TransactionDB::PrepareWrap`. -/
def prepareWrap (dbOptions : DBOptions) (columnFamilies : List ColumnFamilyDescriptor) :
    DBOptions × List ColumnFamilyDescriptor × List ℕ :=
  let r := prepareWrapLoop 0 columnFamilies
  ({ dbOptions with allow2pc := true }, r.1, r.2)

/-- `WrapAnotherDBInternal`, through `TransactionDB::WrapDB`: the status and `*dbptr`.  The
database is of the class its `switch` picks for the write policy, which `virtualInit` and
`virtualVerifyCFOptions` read off its options.  On a failure of `Initialize` every handle is
deleted (and the database with the transaction database, which no modelled function
observes). -/
def wrapAnotherDBInternal (txnDbOptions : TransactionDBOptions)
    (compactionEnabledCfIndices : List ℕ) (handles : List ColumnFamilyHandle) (w : W) :
    Status × Option PessimisticTransactionDB × W :=
  let txnDb : PessimisticTransactionDB :=
    ⟨PessimisticTransactionDB.validateTxnDBOptions txnDbOptions⟩
  let (s, w) := txnDb.virtualInit impl compactionEnabledCfIndices handles w
  if s.ok then (s, some txnDb, w)
  else (s, none, handles.foldl (fun w h => impl.deleteHandle h w) w)

/-- `TransactionDB::Open` with column families, given the contents of the caller's vector
`*handles`: the status, the vector after, `*dbptr` and the world after. -/
def «open» (dbOptions : DBOptions) (txnDbOptions : TransactionDBOptions) (dbname : String)
    (columnFamilies : List ColumnFamilyDescriptor) (handles : List (Option ColumnFamilyHandle))
    (w : W) : Status × List (Option ColumnFamilyHandle) × Option PessimisticTransactionDB × W :=
  if txnDbOptions.writePolicy = .WRITE_COMMITTED ∧ dbOptions.unorderedWrite then
    (Status.NotSupported "WRITE_COMMITTED is incompatible with unordered_writes", handles, none, w)
  else if txnDbOptions.writePolicy = .WRITE_UNPREPARED ∧ dbOptions.unorderedWrite then
    (Status.NotSupported "WRITE_UNPREPARED is currently incompatible with unordered_writes",
      handles, none, w)
  else if txnDbOptions.writePolicy = .WRITE_PREPARED ∧ dbOptions.unorderedWrite ∧
      !dbOptions.twoWriteQueues then
    (Status.NotSupported
      "WRITE_PREPARED is incompatible with unordered_writes if two_write_queues is not enabled.",
      handles, none, w)
  else
    let (dbOptions2pc, columnFamiliesCopy, compactionEnabledCfIndices) :=
      prepareWrap dbOptions columnFamilies
    let useSeqPerBatch := txnDbOptions.writePolicy = .WRITE_PREPARED ∨
      txnDbOptions.writePolicy = .WRITE_UNPREPARED
    let useBatchPerTxn := txnDbOptions.writePolicy = .WRITE_COMMITTED ∨
      txnDbOptions.writePolicy = .WRITE_PREPARED
    let (s, opened, w) :=
      impl.«open» dbOptions2pc dbname columnFamiliesCopy useSeqPerBatch useBatchPerTxn w
    if s.ok then
      let (s, dbptr, w) := wrapAnotherDBInternal impl txnDbOptions compactionEnabledCfIndices
        opened w
      (s, opened.map some, dbptr, w)
    else (s, opened.map some, none, w)

/-! ### What opening leaves behind -/

section Spec

variable {impl}

/-- `PrepareWrap` keeps the name, the comparator and the memtable factory of every column
family. -/
theorem prepareWrapLoop_forall₂ (i : ℕ) (cfs : List ColumnFamilyDescriptor) :
    List.Forall₂ (fun d' d => d'.name = d.name ∧ d'.options.comparator = d.options.comparator ∧
        d'.options.memtableFactory = d.options.memtableFactory)
      (prepareWrapLoop i cfs).1 cfs := by
  induction cfs generalizing i with
  | nil => exact .nil
  | cons d cfs ih =>
    simp only [prepareWrapLoop]
    -- neither option it sets touches the comparator or the memtable factory
    split <;> split <;> exact .cons ⟨rfl, rfl, rfl⟩ (ih (i + 1))

/-- Deleting the handles of a list deletes exactly those. -/
theorem created_foldl_deleteHandle (hl : impl.Lawful) (hs : List ColumnFamilyHandle) (w : W)
    (h : ColumnFamilyHandle) :
    impl.created (hs.foldl (fun w h => impl.deleteHandle h w) w) h =
      if h ∈ hs then none else impl.created w h := by
  induction hs generalizing w with
  | nil => simp
  | cons x hs ih =>
    rw [List.foldl_cons, ih, hl.deleteHandle_created]
    by_cases hx : h = x
    · simp [hx]
    · simp [hx]

/-- A successful `WrapAnotherDBInternal` builds the transaction database from the validated
options, keeps every handle and has verified them. -/
theorem wrapAnotherDBInternal_ok (hl : impl.Lawful) {t : TransactionDBOptions} {idx : List ℕ}
    {hs : List ColumnFamilyHandle} {w w' : W} {s : Status} {p : Option PessimisticTransactionDB}
    (hr : wrapAnotherDBInternal impl t idx hs w = (s, p, w')) (hok : s.ok = true) :
    p = some ⟨PessimisticTransactionDB.validateTxnDBOptions t⟩ ∧
      impl.created w' = impl.created w ∧
      (PessimisticTransactionDB.verifyHandles ⟨PessimisticTransactionDB.validateTxnDBOptions t⟩
        impl w hs).ok = true := by
  simp only [wrapAnotherDBInternal] at hr
  split at hr
  · next hinit =>
    simp only [Prod.mk.injEq] at hr
    obtain ⟨-, rfl, rfl⟩ := hr
    exact ⟨rfl, PessimisticTransactionDB.virtualInit_created _ hl _ _ _,
      PessimisticTransactionDB.verifyHandles_of_virtualInit _ _ _ _ hinit⟩
  · next hinit =>
    simp only [Prod.mk.injEq] at hr
    exact absurd (hr.1 ▸ hok) (by simpa using hinit)

/-- A failed `WrapAnotherDBInternal` sets no database and has deleted every handle. -/
theorem wrapAnotherDBInternal_error (hl : impl.Lawful) {t : TransactionDBOptions} {idx : List ℕ}
    {hs : List ColumnFamilyHandle} {w w' : W} {s : Status} {p : Option PessimisticTransactionDB}
    (hr : wrapAnotherDBInternal impl t idx hs w = (s, p, w')) (herr : s.ok = false) :
    p = none ∧ ∀ h ∈ hs, impl.live w' h = false := by
  simp only [wrapAnotherDBInternal] at hr
  split at hr
  · next hinit =>
    simp only [Prod.mk.injEq] at hr
    exact absurd (hr.1 ▸ hinit) (by simp [herr])
  · simp only [Prod.mk.injEq] at hr
    obtain ⟨-, rfl, rfl⟩ := hr
    refine ⟨rfl, fun h hh => ?_⟩
    simp [DBImpl.live, created_foldl_deleteHandle hl, hh]

variable {dbOptions : DBOptions} {txnDbOptions : TransactionDBOptions} {dbname : String}
  {cfs : List ColumnFamilyDescriptor} {handles hs' : List (Option ColumnFamilyHandle)} {w w' : W}
  {s : Status} {p : Option PessimisticTransactionDB}

/-- **How `TransactionDB::Open` fails.**  No database, and the caller's vector is as it was
(a refused write policy), empty (a failed `DBImpl::Open`), or full of the handles
`DBImpl::Open` made, every one of them deleted (a failed `Initialize`). -/
theorem open_error_cases (hl : impl.Lawful)
    (hr : TransactionDB.«open» impl dbOptions txnDbOptions dbname cfs handles w = (s, hs', p, w'))
    (herr : s.ok = false) :
    p = none ∧ (hs' = handles ∨ hs' = [] ∨
      ∃ opened : List ColumnFamilyHandle, hs' = opened.map some ∧ opened.length = cfs.length ∧
        ∀ h ∈ opened, impl.live w' h = false) := by
  simp only [TransactionDB.«open»] at hr
  split_ifs at hr with h₁ h₂ h₃ hopen
  -- the three refused write policies
  · simp only [Prod.mk.injEq] at hr
    exact ⟨hr.2.2.1.symm, .inl hr.2.1.symm⟩
  · simp only [Prod.mk.injEq] at hr
    exact ⟨hr.2.2.1.symm, .inl hr.2.1.symm⟩
  · simp only [Prod.mk.injEq] at hr
    exact ⟨hr.2.2.1.symm, .inl hr.2.1.symm⟩
  · -- `DBImpl::Open` succeeded, so `Initialize` failed
    simp only [Prod.mk.injEq] at hr
    obtain ⟨rfl, rfl, rfl, rfl⟩ := hr
    obtain ⟨hp, hdead⟩ := wrapAnotherDBInternal_error hl rfl herr
    refine ⟨hp, .inr (.inr ⟨_, rfl, ?_, hdead⟩)⟩
    rw [(hl.open_ok _ _ _ _ _ _ hopen).length_eq]
    exact (prepareWrapLoop_forall₂ 0 cfs).length_eq
  · -- `DBImpl::Open` failed and left no handle
    simp only [Prod.mk.injEq] at hr
    obtain ⟨rfl, rfl, rfl, rfl⟩ := hr
    refine ⟨rfl, .inr (.inl ?_)⟩
    rw [hl.open_error _ _ _ _ _ _ (by simpa using hopen), List.map_nil]

/-- **A successful `TransactionDB::Open`**: the database built from the validated options, and
the vector filled with distinct handles, one per column family in order, each for a column
family of that name, whose options `VerifyCFOptions` has accepted. -/
theorem open_ok_spec (hl : impl.Lawful)
    (hr : TransactionDB.«open» impl dbOptions txnDbOptions dbname cfs handles w = (s, hs', p, w'))
    (hok : s.ok = true) :
    p = some ⟨PessimisticTransactionDB.validateTxnDBOptions txnDbOptions⟩ ∧
      ∃ opened : List ColumnFamilyHandle, hs' = opened.map some ∧ opened.Nodup ∧
        List.Forall₂ (fun h d => ∃ d', impl.created w' h = some d' ∧ d'.name = d.name)
          opened cfs ∧
        ∀ h ∈ opened, ∃ d, impl.created w' h = some d ∧
          (PessimisticTransactionDB.virtualVerifyCFOptions
            ⟨PessimisticTransactionDB.validateTxnDBOptions txnDbOptions⟩ d.options).ok = true := by
  simp only [TransactionDB.«open»] at hr
  split_ifs at hr with h₁ h₂ h₃ hopen
  · simp only [Prod.mk.injEq] at hr
    exact absurd (hr.1 ▸ hok) (by simp)
  · simp only [Prod.mk.injEq] at hr
    exact absurd (hr.1 ▸ hok) (by simp)
  · simp only [Prod.mk.injEq] at hr
    exact absurd (hr.1 ▸ hok) (by simp)
  · simp only [Prod.mk.injEq] at hr
    obtain ⟨rfl, rfl, rfl, rfl⟩ := hr
    obtain ⟨hp, hcreated, hverified⟩ := wrapAnotherDBInternal_ok hl rfl hok
    have hfill := hl.open_ok _ _ _ _ _ _ hopen
    have hv := (PessimisticTransactionDB.verifyHandles_ok_iff _ impl _ _).1 hverified
    refine ⟨hp, _, rfl, hl.open_nodup _ _ _ _ _ _ hopen, ?_, fun h hh => ?_⟩
    · -- the handles are those `DBImpl::Open` made for the prepared copies of `cfs`
      refine (hfill.trans' (prepareWrapLoop_forall₂ 0 cfs)).imp ?_
      rintro h d ⟨d', hd', hname, -⟩
      exact ⟨d', hcreated ▸ hd', hname⟩
    · -- `Initialize` read each handle's descriptor, whose comparator and memtable factory are
      -- its column family's
      obtain ⟨d, -, hd⟩ := hfill.exists_of_mem_left hh
      refine ⟨d, hcreated ▸ hd, ?_⟩
      rw [PessimisticTransactionDB.virtualVerifyCFOptions_congr _
        (hl.getDescriptor_comparator h _ d hd (hv h hh).1).symm
        (hl.getDescriptor_memtableFactory h _ d hd (hv h hh).1).symm]
      exact (hv h hh).2
  · simp only [Prod.mk.injEq] at hr
    exact absurd (hr.1 ▸ hok) (by simpa using hopen)

end Spec

end TransactionDB

end Autorocks
