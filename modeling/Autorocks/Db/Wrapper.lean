import Autorocks.Db.TransactionDB
import Autorocks.Options.Wrapper
import Autorocks.Lib.Machine

/-!
# The database wrappers

`TransactionDBWrapper` and `ReadOnlyDbWrapper` (`autorocks-sys/src/db.h`) hold a database
pointer `db` and the vector `cf_handles` that its open filled, one handle per descriptor of
the options; the Rust `TransactionDb` and `ReadOnlyDb` (`src/db.rs`) hold them in an `Arc`.

* `open` passes `cf_handles` itself as the output vector of the open, and takes the database
  only when the open succeeds.
* The destructors call `db->DestroyColumnFamilyHandle` on every entry of `cf_handles`.  The
  model returns `none` where this is undefined behaviour: a call through a null `db`, or on a
  handle that was deleted.
* `clear_cf` and `drop_cf` drop the column family of a column and destroy its handle;
  `clear_cf` then creates a column family of the same name with the options read before the
  drop, writing the new handle into the same entry, and `drop_cf` nulls the entry.  They too
  return `none` on a call through a null `db` or a deleted handle.
* The Rust `TransactionDb::open` and `ReadOnlyDb::open` drop the wrapper when the open fails,
  which runs its destructor; `TransactionDb::clear_cf` and `drop_cf` refuse with an error when
  the `Arc` is shared.

The other calls of the wrappers (reads, writes, iterators, snapshots, options) forward to
`db` and are not modelled.
-/

namespace Autorocks

/-- One `db->DestroyColumnFamilyHandle(cf)` of a destructor, through a database that is there
(`db`) or not: `none` when the call is undefined, through a null `db` or on a deleted handle. -/
def destroyEntry {W : Type*} (impl : DBImpl W) (db : Bool) (w : W)
    (cf : Option ColumnFamilyHandle) : Option W :=
  if !db then none
  else if cf.all (impl.live w) then some (impl.destroyColumnFamilyHandle cf w).2
  else none

/-- `TransactionDBWrapper`: the transaction database, and one entry per column, null once its
column family is dropped. -/
structure TransactionDBWrapper where
  db : Option PessimisticTransactionDB
  cfHandles : List (Option ColumnFamilyHandle)
  deriving DecidableEq, Repr

namespace TransactionDBWrapper

variable {W : Type*} (impl : DBImpl W) (self : TransactionDBWrapper)

/-- The wrapper `Arc::emplace(TransactionDBWrapper::new())` builds: no database, no handle. -/
def new : TransactionDBWrapper := ⟨none, []⟩

/-- `TransactionDBWrapper::open`. -/
def «open» (options : DbOptionsWrapper) (transactionDbOptions : TransactionDBOptions) (w : W) :
    Status × TransactionDBWrapper × W :=
  let (status, cfHandles, ptr, w) :=
    TransactionDB.«open» impl options.dbOptions transactionDbOptions options.path
      options.cfDescriptors self.cfHandles w
  if status.ok then (status, { db := ptr, cfHandles }, w)
  else (status, { self with cfHandles }, w)

/-- `~TransactionDBWrapper`: the world after it, or `none` where it is undefined. -/
def drop (w : W) : Option W :=
  self.cfHandles.foldlM (destroyEntry impl self.db.isSome) w

/-- `TransactionDBWrapper::get_cf`: null past the end. -/
def getCf (cf : ℕ) : Option ColumnFamilyHandle :=
  if h : cf ≥ self.cfHandles.length then none else self.cfHandles[cf]

/-- `TransactionDBWrapper::default_col`, in `size_t` arithmetic. -/
def defaultCol : ℕ := (self.cfHandles.length + (2 ^ 64 - 1)) % 2 ^ 64

/-- `TransactionDBWrapper::clear_cf`. -/
def clearCf (col : ℕ) (w : W) : Option (Status × TransactionDBWrapper × W) :=
  match self.getCf col with
  | none => some (Status.OK, self, w)
  | some cf =>
    match self.db with
    | none => none
    | some db =>
      -- every call below goes through `cf`, which must not have been deleted
      if impl.live w cf = false then none
      else
        let options := impl.getOptions cf w
        let (status, w) := impl.dropColumnFamily cf w
        if !status.ok then some (status, self, w)
        else
          let (status, w) := impl.destroyColumnFamilyHandle (some cf) w
          if !status.ok then some (status, self, w)
          else
            -- the output cell is `cf_handles[col]`, which still holds `cf`
            let (status, cell, w) := db.createColumnFamily impl options (toString col) (some cf) w
            some (status, { self with cfHandles := self.cfHandles.set col cell }, w)

/-- `TransactionDBWrapper::drop_cf`. -/
def dropCf (col : ℕ) (w : W) : Option (Status × TransactionDBWrapper × W) :=
  match self.getCf col with
  | none => some (Status.OK, self, w)
  | some cf =>
    match self.db with
    | none => none
    | some _ =>
      if impl.live w cf = false then none
      else
        let (status, w) := impl.dropColumnFamily cf w
        if !status.ok then some (status, self, w)
        else
          let (status, w) := impl.destroyColumnFamilyHandle (some cf) w
          if !status.ok then some (status, self, w)
          else some (status, { self with cfHandles := self.cfHandles.set col none }, w)

/-! ### Opening, dropping, default column -/

section Open
variable {options : DbOptionsWrapper} {t : TransactionDBOptions} {w w' : W} {s : Status}
  {hs' : List (Option ColumnFamilyHandle)} {p : Option PessimisticTransactionDB}

theorem open_of_ok
    (hr : TransactionDB.«open» impl options.dbOptions t options.path options.cfDescriptors
      self.cfHandles w = (s, hs', p, w')) (hok : s.ok = true) :
    self.«open» impl options t w = (s, { db := p, cfHandles := hs' }, w') := by
  simp [TransactionDBWrapper.«open», hr, hok]

theorem open_of_not_ok
    (hr : TransactionDB.«open» impl options.dbOptions t options.path options.cfDescriptors
      self.cfHandles w = (s, hs', p, w')) (herr : s.ok = false) :
    self.«open» impl options t w = (s, { self with cfHandles := hs' }, w') := by
  simp [TransactionDBWrapper.«open», hr, herr]

/-- The status of the wrapper's open is that of `TransactionDB::Open`. -/
theorem open_status (hr : TransactionDB.«open» impl options.dbOptions t options.path
      options.cfDescriptors self.cfHandles w = (s, hs', p, w')) :
    (self.«open» impl options t w).1 = s := by
  cases hs : s.ok
  · rw [open_of_not_ok impl self hr hs]
  · rw [open_of_ok impl self hr hs]

end Open

theorem getCf_eq (cf : ℕ) : self.getCf cf = (self.cfHandles[cf]?).join := by
  unfold getCf
  split
  · next h => simp [List.getElem?_eq_none (by omega : self.cfHandles.length ≤ cf)]
  · next h => simp [List.getElem?_eq_getElem (by omega : cf < self.cfHandles.length)]

/-- With `n + 1` handles, the default column is `n`, in `size_t` arithmetic. -/
theorem defaultCol_of_length {n : ℕ} (h : self.cfHandles.length = n + 1) :
    self.defaultCol = n % 2 ^ 64 := by
  rw [defaultCol, h]
  omega

/-! ### The column family calls as a machine -/

/-- The calls of `TransactionDb` that change the handles. -/
inductive Call where
  | clearCf (col : ℕ)
  | dropCf (col : ℕ)
  deriving DecidableEq, Repr

/-- The column a call is about. -/
def Call.col : Call → ℕ
  | .clearCf col => col
  | .dropCf col => col

/-- One call on the wrapper and the world; `none` where it is undefined. -/
def call : Call → TransactionDBWrapper → W → Option (Status × TransactionDBWrapper × W)
  | .clearCf col, self, w => self.clearCf impl col w
  | .dropCf col, self, w => self.dropCf impl col w

/-- The wrapper and the world as a machine: the answer is the status of the call, or `none`
for undefined behaviour, which leaves the state as it was. -/
def machine : Machine (TransactionDBWrapper × W) Call (Option Status) where
  step c s :=
    match call impl c s.1 s.2 with
    | some (status, self, w) => (some status, (self, w))
    | none => (none, s)

end TransactionDBWrapper

/-- `ReadOnlyDbWrapper`: whether `db` is set, and the handles of its open. -/
structure ReadOnlyDbWrapper where
  db : Bool
  cfHandles : List ColumnFamilyHandle
  deriving DecidableEq, Repr

namespace ReadOnlyDbWrapper

variable {W : Type*} (impl : DBImpl W) (self : ReadOnlyDbWrapper)

/-- The wrapper `Arc::emplace(ReadOnlyDbWrapper::new())` builds. -/
def new : ReadOnlyDbWrapper := ⟨false, []⟩

/-- `ReadOnlyDbWrapper::open`. -/
def «open» (options : DbOptionsWrapper) (w : W) : Status × ReadOnlyDbWrapper × W :=
  let (status, cfHandles, w) :=
    impl.openForReadOnly options.dbOptions options.path options.cfDescriptors w
  if status.ok then (status, { db := true, cfHandles }, w)
  else (status, { self with cfHandles }, w)

/-- `~ReadOnlyDbWrapper`: the world after it, or `none` where it is undefined. -/
def drop (w : W) : Option W :=
  self.cfHandles.foldlM (fun w cf => destroyEntry impl self.db w (some cf)) w

/-- `ReadOnlyDbWrapper::get_cf`. -/
def getCf (cf : ℕ) : Option ColumnFamilyHandle :=
  if h : cf ≥ self.cfHandles.length then none else some self.cfHandles[cf]

/-- `ReadOnlyDbWrapper::default_col`, in `size_t` arithmetic. -/
def defaultCol : ℕ := (self.cfHandles.length + (2 ^ 64 - 1)) % 2 ^ 64

/-! ### Opening and dropping -/

theorem open_of_ok {options : DbOptionsWrapper} {w w' : W} {s : Status}
    {hs : List ColumnFamilyHandle}
    (hr : impl.openForReadOnly options.dbOptions options.path options.cfDescriptors w =
      (s, hs, w')) (hok : s.ok = true) :
    self.«open» impl options w = (s, { db := true, cfHandles := hs }, w') := by
  simp [ReadOnlyDbWrapper.«open», hr, hok]

theorem open_of_not_ok {options : DbOptionsWrapper} {w w' : W} {s : Status}
    {hs : List ColumnFamilyHandle}
    (hr : impl.openForReadOnly options.dbOptions options.path options.cfDescriptors w =
      (s, hs, w')) (herr : s.ok = false) :
    self.«open» impl options w = (s, { self with cfHandles := hs }, w') := by
  simp [ReadOnlyDbWrapper.«open», hr, herr]

/-- The status of the wrapper's open is that of `DB::OpenForReadOnly`. -/
theorem open_status {options : DbOptionsWrapper} {w w' : W} {s : Status}
    {hs : List ColumnFamilyHandle}
    (hr : impl.openForReadOnly options.dbOptions options.path options.cfDescriptors w =
      (s, hs, w')) :
    (self.«open» impl options w).1 = s := by
  cases hst : s.ok
  · rw [open_of_not_ok impl self hr hst]
  · rw [open_of_ok impl self hr hst]

end ReadOnlyDbWrapper

/-! ### The Rust handles -/

namespace TransactionDb

variable {W : Type*} (impl : DBImpl W)

/-- `TransactionDb::open`: on an error, `?` drops the `Arc` and with it the wrapper, whose
destructor runs.  `none` where that is undefined. -/
def «open» (options : DbOptionsWrapper) (txnDbOptions : TransactionDBOptions) (w : W) :
    Option (Except RocksDBStatusError TransactionDBWrapper × W) :=
  let (status, db, w) := TransactionDBWrapper.new.«open» impl options txnDbOptions w
  match intoResult status with
  | .error e => (db.drop impl w).map fun w => (.error e, w)
  | .ok () => some (.ok db, w)

/-- The error `TransactionDb::clear_cf` and `drop_cf` return when `Arc::get_mut` fails. -/
def arcGetMutFailed : RocksDBStatusError :=
  { msg := "Arc::get_mut failed", subCode := .kNone, code := .kBusy }

/-- `TransactionDb::clear_cf`; `unique` is whether `Arc::get_mut` succeeds, that is whether
this is the only handle on the database. -/
def clearCf (unique : Bool) (col : ℕ) (inner : TransactionDBWrapper) (w : W) :
    Option (Except RocksDBStatusError Unit × TransactionDBWrapper × W) :=
  if !unique then some (.error arcGetMutFailed, inner, w)
  else (inner.clearCf impl col w).map fun r => (intoResult r.1, r.2)

/-- `TransactionDb::drop_cf`. -/
def dropCf (unique : Bool) (col : ℕ) (inner : TransactionDBWrapper) (w : W) :
    Option (Except RocksDBStatusError Unit × TransactionDBWrapper × W) :=
  if !unique then some (.error arcGetMutFailed, inner, w)
  else (inner.dropCf impl col w).map fun r => (intoResult r.1, r.2)

end TransactionDb

/-- `DbOptions::open`: a transaction database with `new_transaction_db_options()`. -/
def DbOptions.«open» {W : Type*} (impl : DBImpl W) (options : DbOptionsWrapper) (w : W) :
    Option (Except RocksDBStatusError TransactionDBWrapper × W) :=
  TransactionDb.«open» impl options newTransactionDbOptions w

/-- `ReadOnlyDb::open`. -/
def ReadOnlyDb.«open» {W : Type*} (impl : DBImpl W) (options : DbOptionsWrapper) (w : W) :
    Option (Except RocksDBStatusError ReadOnlyDbWrapper × W) :=
  let (status, db, w) := ReadOnlyDbWrapper.new.«open» impl options w
  match intoResult status with
  | .error e => (db.drop impl w).map fun w => (.error e, w)
  | .ok () => some (.ok db, w)

end Autorocks
