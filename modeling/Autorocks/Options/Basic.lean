import Mathlib

/-!
# Statuses, options and column family descriptors

The data the wrapper passes to and receives from RocksDB.

* `Status` (`rocksdb/include/rocksdb/status.h`): a code, a subcode and an optional message;
  `Status.toString` (`rocksdb/util/status.cc`) is what the Rust crate puts in a
  `RocksDBStatusError` (`src/error.rs`, `into_result`).
* `DBOptions` and `ColumnFamilyOptions` (`rocksdb/include/rocksdb/options.h`,
  `advanced_options.h`) with the fields a modelled function reads or writes, at their defaults;
  the other fields of the two records are copied as a whole by every modelled function, and are
  left out.
* `ColumnFamilyDescriptor`: a name and options; its default names the default column family.
* `Comparator`: what `VerifyCFOptions` reads of a column family's comparator.
-/

namespace Autorocks

/-- `Status::Code`. -/
inductive Code where
  | kOk | kNotFound | kCorruption | kNotSupported | kInvalidArgument | kIOError
  | kMergeInProgress | kIncomplete | kShutdownInProgress | kTimedOut | kAborted | kBusy
  | kExpired | kTryAgain | kCompactionTooLarge | kColumnFamilyDropped
  deriving DecidableEq, Repr

/-- `Status::SubCode`. -/
inductive SubCode where
  | kNone | kMutexTimeout | kLockTimeout | kLockLimit | kNoSpace | kDeadlock | kStaleFile
  | kMemoryLimit | kSpaceLimit | kPathNotFound | KMergeOperandsInsufficientCapacity
  | kManualCompactionPaused | kOverwritten | kTxnNotPrepared | kIOFenced
  deriving DecidableEq, Repr

/-- `rocksdb::Status`; `state` is the message, absent in `Status::OK()`. -/
structure Status where
  code : Code
  subcode : SubCode
  state : Option String
  deriving DecidableEq, Repr

namespace Status

/-- `Status::OK()`. -/
def OK : Status := ⟨.kOk, .kNone, none⟩

/-- `Status::NotSupported(msg)`. -/
def NotSupported (msg : String) : Status := ⟨.kNotSupported, .kNone, some msg⟩

/-- `Status::InvalidArgument(msg)`. -/
def InvalidArgument (msg : String) : Status := ⟨.kInvalidArgument, .kNone, some msg⟩

/-- `Status::ok()`. -/
def ok (s : Status) : Bool := s.code == .kOk

@[simp] theorem ok_OK : OK.ok = true := rfl
@[simp] theorem ok_NotSupported (msg : String) : (NotSupported msg).ok = false := rfl
@[simp] theorem ok_InvalidArgument (msg : String) : (InvalidArgument msg).ok = false := rfl

/-- The prefix `Status::ToString` writes for each code. -/
def typeString : Code → String
  | .kOk => "OK"
  | .kNotFound => "NotFound: "
  | .kCorruption => "Corruption: "
  | .kNotSupported => "Not implemented: "
  | .kInvalidArgument => "Invalid argument: "
  | .kIOError => "IO error: "
  | .kMergeInProgress => "Merge in progress: "
  | .kIncomplete => "Result incomplete: "
  | .kShutdownInProgress => "Shutdown in progress: "
  | .kTimedOut => "Operation timed out: "
  | .kAborted => "Operation aborted: "
  | .kBusy => "Resource busy: "
  | .kExpired => "Operation expired: "
  | .kTryAgain => "Operation failed. Try again.: "
  | .kCompactionTooLarge => "Compaction too large: "
  | .kColumnFamilyDropped => "Column family dropped: "

/-- The table `msgs` of `status.cc`, one text per subcode. -/
def subcodeString : SubCode → String
  | .kNone => ""
  | .kMutexTimeout => "Timeout Acquiring Mutex"
  | .kLockTimeout => "Timeout waiting to lock key"
  | .kLockLimit => "Failed to acquire lock due to max_num_locks limit"
  | .kNoSpace => "No space left on device"
  | .kDeadlock => "Deadlock"
  | .kStaleFile => "Stale file handle"
  | .kMemoryLimit => "Memory limit reached"
  | .kSpaceLimit => "Space limit reached"
  | .kPathNotFound => "No such file or directory"
  | .KMergeOperandsInsufficientCapacity => "Insufficient capacity for merge operands"
  | .kManualCompactionPaused => "Manual compaction paused"
  | .kOverwritten => " (overwritten)"
  | .kTxnNotPrepared => "Txn not prepared"
  | .kIOFenced => "IO fenced off"

/-- `Status::ToString`: `"OK"` for the code `kOk`, else the code's prefix, the subcode's text
and the message, the last two separated by `": "` when both are present. -/
def toString (s : Status) : String :=
  match s.code with
  | .kOk => "OK"
  | c =>
    let withSub := typeString c ++ (if s.subcode = .kNone then "" else subcodeString s.subcode)
    match s.state with
    | none => withSub
    | some m => withSub ++ (if s.subcode = .kNone then "" else ": ") ++ m

end Status

/-- `RocksDBStatusError` of `src/error.rs`. -/
structure RocksDBStatusError where
  msg : String
  code : Code
  subCode : SubCode
  deriving DecidableEq, Repr

/-- `into_result` of `src/error.rs`. -/
def intoResult (status : Status) : Except RocksDBStatusError Unit :=
  if status.ok then .ok ()
  else .error { code := status.code, subCode := status.subcode, msg := status.toString }

theorem intoResult_eq_ok_iff (status : Status) : intoResult status = .ok () ↔ status.ok = true := by
  unfold intoResult
  split <;> simp_all

/-- `CompressionType`. -/
inductive CompressionType where
  | kNoCompression | kSnappyCompression | kZlibCompression | kBZip2Compression
  | kLZ4Compression | kLZ4HCCompression | kXpressCompression | kZSTD
  | kZSTDNotFinalCompression | kDisableCompressionOption
  deriving DecidableEq, Repr

/-- What the wrapper reads of a column family's `Comparator`: its name and
`timestamp_size()`. -/
structure Comparator where
  name : String
  timestampSize : ℕ
  deriving DecidableEq, Repr

/-- `BytewiseComparator()`, the default comparator, without timestamps. -/
def BytewiseComparator : Comparator := ⟨"leveldb.BytewiseComparator", 0⟩

/-- `MemTableRepFactory`, by the one question `VerifyCFOptions` asks of it. -/
structure MemTableRepFactory where
  canHandleDuplicatedKey : Bool
  deriving DecidableEq, Repr

/-- `SkipListFactory`, the default memtable factory, which detects duplicated keys. -/
def SkipListFactory : MemTableRepFactory := ⟨true⟩

/-- `ColumnFamilyOptions`, with the fields a modelled function reads or writes at their
defaults (compression is Snappy: the crate builds with its default feature `snappy`). -/
structure ColumnFamilyOptions where
  comparator : Comparator := BytewiseComparator
  memtableFactory : MemTableRepFactory := SkipListFactory
  compression : CompressionType := .kSnappyCompression
  maxWriteBufferNumberToMaintain : ℤ := 0
  maxWriteBufferSizeToMaintain : ℤ := 0
  disableAutoCompactions : Bool := false
  deriving DecidableEq, Repr

/-- `DBOptions`, with the fields a modelled function reads or writes at their defaults. -/
structure DBOptions where
  createIfMissing : Bool := false
  createMissingColumnFamilies : Bool := false
  unorderedWrite : Bool := false
  twoWriteQueues : Bool := false
  allow2pc : Bool := false
  deriving DecidableEq, Repr

/-- `kDefaultColumnFamilyName`. -/
def kDefaultColumnFamilyName : String := "default"

/-- `ColumnFamilyDescriptor`; the default constructor names the default column family. -/
structure ColumnFamilyDescriptor where
  name : String := kDefaultColumnFamilyName
  options : ColumnFamilyOptions := {}
  deriving DecidableEq, Repr

end Autorocks
