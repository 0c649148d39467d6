import Autorocks.Lock.PointLock
import Autorocks.Lib.Machine

/-!
# Threads taking and giving up locks

`PointLockManager::TryLock` runs in the thread of the transaction that asks for a lock, while
other transactions take and give up locks in theirs.  This file models the manager with all its
threads as one machine whose calls are the steps of one thread at a time, in any interleaving:

* the shared state (`LockSystem`): `lock_maps_` (column family to `LockMap`), the `LockMap`s
  themselves, which a thread keeps using after `RemoveColumnFamily` as it keeps its
  `shared_ptr`, the owner of each stripe mutex, the wait maps and deadlock buffer of
  `Lock/Deadlock`, and the clock `NowMicros`;
* each thread's place in `TryLock` or `UnLock` (`Phase`) and its local variables (`Frame`);
* one step of a thread (`stepThread`) runs from one access of shared state to the next:
  taking the stripe mutex, `lock_cnt.load`, the rest of `AcquireLocked`, `IncrementWaiters`,
  reading the clock before the wait, the wait on the condition variable, taking the mutex back,
  and `DecrementWaiters`.  A wait may end at any time, as a spurious wakeup may, and by its
  timeout once its deadline is past; what the environment decides is the input `EnvAnswers`.

The results about runs are in `Lock/Runs`.
-/

namespace Autorocks

/-- The constants of a `PointLockManager`: `default_num_stripes_` (positive, as `GetStripe`
asserts), `max_num_locks_`, and the hash of `GetStripe` (`GetSliceNPHash64`). -/
structure LockConfig where
  defaultNumStripes : ℕ
  numStripes_pos : 0 < defaultNumStripes
  maxNumLocks : ℤ
  hash : String → UInt64

/-- What `TryLock` reads of the transaction: `GetExpirationTime()`, `GetLockTimeout()`,
`IsDeadlockDetect()` and `GetDeadlockDetectDepth()`. -/
structure TxnLockOptions where
  expirationTime : ℕ
  lockTimeout : ℤ
  deadlockDetect : Bool
  deadlockDetectDepth : ℕ
  deriving DecidableEq, Repr

/-- What a thread's call of `TryLock` or `UnLock` works on, fixed for the whole call: the
column family and key, the `LockMap` (by its address) and stripe, the request
`lock_info`, and the transaction's timeout, deadline and deadlock detection. -/
structure LockRequest where
  cfId : ℕ
  key : String
  lockMap : ℕ
  /-- `stripe_num`. -/
  stripe : ℕ
  exclusive : Bool
  expirationTime : ℕ
  timeout : ℤ
  endTime : ℕ
  deadlockDetect : Bool
  depth : ℕ
  deriving DecidableEq, Repr

/-- The local variables of a thread in `TryLock` (`AcquireWithTimeout`) or `UnLock`: its request,
and what the loop of `AcquireWithTimeout` changes. -/
structure Frame extends LockRequest where
  result : Status
  expireTimeHint : ℕ
  waitIds : List TransactionID
  timedOut : Bool
  /-- What the last `lock_cnt.load` of `AcquireLocked` read. -/
  lockCnt : ℤ
  deriving DecidableEq, Repr

/-- The frame of a thread that is in no call. -/
def Frame.empty : Frame :=
  ⟨⟨0, "", 0, 0, false, 0, 0, 0, false, 0⟩, .OK, 0, [], false, 0⟩

/-- `cv_end_time` of the loop of `AcquireWithTimeout`: the earlier of the lock's expiration
and the call's deadline, where they are set; `none` for -1, a wait without timeout. -/
def Frame.cvEndTime (f : Frame) : Option ℕ :=
  if 0 < f.expireTimeHint ∧ 0 < f.endTime then some (min f.expireTimeHint f.endTime)
  else if 0 < f.expireTimeHint then some f.expireTimeHint
  else if 0 < f.endTime then some f.endTime
  else none

/-- The thread waits for transactions with deadlock detection: `wait_ids.size() != 0` and
`txn->IsDeadlockDetect()`. -/
def Frame.detecting (f : Frame) : Bool := !f.waitIds.isEmpty && f.deadlockDetect

/-- Whether `TryLock` goes on after `AcquireLocked` gave `f.result`: before the loop
`!result.ok() && timeout != 0`, in the loop `!result.ok() && !timed_out`. -/
def Frame.retry (f : Frame) (first : Bool) : Bool :=
  !f.result.ok && if first then f.timeout != 0 else !f.timedOut

/-- Where a thread is in `TryLock` or `UnLock`. -/
inductive Phase where
  /-- In no call. -/
  | idle
  /-- `TryLock` returned this status. -/
  | done (result : Status)
  /-- At `Lock()` or `TryLockFor(timeout)` of the stripe mutex. -/
  | lockingMutex
  /-- Holding the stripe mutex, at `AcquireLocked` (`first`: the call before the loop). -/
  | acquire (first : Bool)
  /-- In `AcquireLocked`, after `lock_cnt.load`. -/
  | loaded (first : Bool)
  /-- Holding the stripe mutex, at the top of the loop. -/
  | loopTop
  /-- Holding the stripe mutex, after deadlock detection, before the wait. -/
  | waitDecide
  /-- In `Wait` or `WaitFor` on the stripe's condition variable, the mutex released; with the
  deadline of `WaitFor`. -/
  | waiting (deadline : Option ℕ)
  /-- Woken, taking the stripe mutex back. -/
  | relocking
  /-- Holding the stripe mutex again, after the wait. -/
  | afterWait
  /-- In `UnLock`, at `Lock()` of the stripe mutex. -/
  | unlocking
  deriving DecidableEq, Repr

/-- The phases in which the thread holds its stripe mutex. -/
def Phase.Holding : Phase → Bool
  | .acquire _ | .loaded _ | .loopTop | .waitDecide | .afterWait => true
  | _ => false

/-- The phases between `IncrementWaiters` and `DecrementWaiters`. -/
def Phase.Waiting : Phase → Bool
  | .waitDecide | .waiting _ | .relocking | .afterWait => true
  | _ => false

/-- A thread is in no call. -/
def Phase.Free : Phase → Bool
  | .idle | .done _ => true
  | _ => false

/-- A thread: its phase and its local variables. -/
structure Thread where
  phase : Phase
  frame : Frame

/-- What `wait_txn_map_` records for the transaction `t` while it waits with deadlock
detection: `{wait_ids, cf_id, exclusive, key}`. -/
def Thread.tracked (th : Thread) : Option TrackedTrxInfo :=
  if th.phase.Waiting && th.frame.detecting then
    some ⟨th.frame.waitIds, th.frame.cfId, th.frame.exclusive, th.frame.key⟩
  else none

/-- The manager and its threads. -/
structure LockSystem where
  /-- `lock_maps_`: the address of each column family's `LockMap`. -/
  lockMaps : AList fun _ : ℕ => ℕ
  /-- The `LockMap`s, by address; those from `heapSize` on are not made yet. -/
  heap : ℕ → LockMap
  heapSize : ℕ
  /-- The thread holding each stripe mutex, by the address of its `LockMap` and its index. -/
  owner : ℕ → ℕ → Option TransactionID
  wait : WaitState
  /-- `env->NowMicros()`. -/
  now : ℕ
  /-- The thread of each transaction. -/
  threads : TransactionID → Thread

/-- A manager without column families, with `max_num_deadlocks` unused slots in its deadlock
buffer, and threads in no call. -/
def LockSystem.new (cfg : LockConfig) (maxNumDeadlocks : ℕ) : LockSystem :=
  ⟨∅, fun _ => LockMap.new cfg.defaultNumStripes, 0, fun _ _ => none,
    WaitState.new maxNumDeadlocks, 0, fun _ => ⟨.idle, Frame.empty⟩⟩

/-- What the environment decides at a step: the answers of
`TryStealingExpiredTransactionLocks`, the time `GetCurrentTime` gives, whether a wait ends by
its timeout, and whether `try_lock` fails. -/
structure EnvAnswers where
  trySteal : TransactionID → Bool
  currentTime : ℤ
  waitTimedOut : Bool
  tryLockFails : Bool

/-- The calls of the machine. -/
inductive LockCall where
  /-- `TryLock(txn, cf_id, key, env, exclusive)` starts. -/
  | tryLock (t : TransactionID) (cfId : ℕ) (key : String) (exclusive : Bool)
      (opts : TxnLockOptions)
  /-- `UnLock(txn, cf_id, key, env)` starts. -/
  | unLock (t : TransactionID) (cfId : ℕ) (key : String)
  /-- One step of the thread of `t`. -/
  | step (t : TransactionID) (env : EnvAnswers)
  /-- The clock advances. -/
  | tick
  | addColumnFamily (cfId : ℕ)
  | removeColumnFamily (cfId : ℕ)

namespace LockSystem

variable (cfg : LockConfig)

/-- The thread of `t` goes on in `phase` with the frame `f`. -/
def setThread (s : LockSystem) (t : TransactionID) (phase : Phase) (f : Frame) : LockSystem :=
  { s with threads := Function.update s.threads t ⟨phase, f⟩ }

/-- The owner of the mutex of stripe `i` of the `LockMap` at `a` becomes `o`. -/
def setOwner (s : LockSystem) (a i : ℕ) (o : Option TransactionID) : LockSystem :=
  { s with owner := Function.update s.owner a (Function.update (s.owner a) i o) }

/-- The table of stripe `i` of the `LockMap` at `a` becomes `keys`, and its `lock_cnt` moves by
`d`. -/
def setKeys (s : LockSystem) (a i : ℕ) (keys : LockTable) (d : ℤ) : LockSystem :=
  { s with
    heap := Function.update s.heap a
      ⟨(s.heap a).numStripes, (s.heap a).lockCnt + d,
        Function.update (s.heap a).lockMapStripes i ⟨keys⟩⟩ }

/-- The table of the stripe a frame is at. -/
def keysAt (s : LockSystem) (f : Frame) : LockTable :=
  ((s.heap f.lockMap).lockMapStripes f.stripe).keys

/-- `AcquireLocked` on the stripe of the frame `f`, for the request of `t`. -/
def acquireLockedAt (s : LockSystem) (t : TransactionID) (f : Frame) (env : EnvAnswers) :
    AcquireLockedResult :=
  AcquireLocked cfg.maxNumLocks f.lockCnt (s.keysAt f) f.key s.now env.trySteal
    (.ofTxn t f.expirationTime f.exclusive) f.expireTimeHint f.waitIds

/-- `UnLockKey` on the stripe of the frame `f`, for `t`. -/
def unLockKeyAt (s : LockSystem) (t : TransactionID) (f : Frame) : LockTable × Bool :=
  UnLockKey cfg.maxNumLocks (s.keysAt f) t f.key

/-! ### The steps of a thread -/

/-- `Lock()` or `TryLockFor(timeout)`: take the stripe mutex when it is free.  With a timeout of
0 it is `try_lock`, which fails when the mutex is taken, and may fail spuriously; with any other
timeout the thread blocks until the mutex is free. -/
def stepLockingMutex (s : LockSystem) (t : TransactionID) (f : Frame) (env : EnvAnswers) :
    LockSystem :=
  match s.owner f.lockMap f.stripe with
  | none =>
    if f.timeout = 0 ∧ env.tryLockFails = true then
      s.setThread t (.done (.TimedOut .kMutexTimeout)) f
    else (s.setOwner f.lockMap f.stripe (some t)).setThread t (.acquire true) f
  | some _ =>
    if f.timeout = 0 then s.setThread t (.done (.TimedOut .kMutexTimeout)) f else s

/-- `lock_cnt.load(std::memory_order_acquire)` of `AcquireLocked`. -/
def stepAcquire (s : LockSystem) (t : TransactionID) (f : Frame) (first : Bool) : LockSystem :=
  s.setThread t (.loaded first) { f with lockCnt := (s.heap f.lockMap).lockCnt }

/-- The rest of `AcquireLocked`, and the test after it: before the loop, `!result.ok() &&
timeout != 0` enters the loop; in the loop, `!result.ok() && !timed_out` goes on with it.
Leaving, the thread releases the stripe mutex and `TryLock` returns the result. -/
def stepLoaded (s : LockSystem) (t : TransactionID) (f : Frame) (first : Bool)
    (env : EnvAnswers) : LockSystem :=
  let r := s.acquireLockedAt cfg t f env
  let s := s.setKeys f.lockMap f.stripe r.keys (if r.incr then 1 else 0)
  let f := { f with result := r.status, expireTimeHint := r.expireTime, waitIds := r.txnIds }
  if f.retry first then s.setThread t .loopTop f
  else (s.setOwner f.lockMap f.stripe none).setThread t (.done f.result) f

/-- Deadlock detection at the top of the loop: "We are dependent on a transaction to finish,
so perform deadlock detection."  A deadlock ends `TryLock` with `Busy(kDeadlock)`. -/
def stepLoopTop (s : LockSystem) (t : TransactionID) (f : Frame) (env : EnvAnswers) :
    LockSystem :=
  if f.detecting then
    let r := IncrementWaiters s.wait t f.depth f.waitIds f.key f.cfId f.exclusive env.currentTime
    if r.1 then
      (({ s with wait := r.2 }).setOwner f.lockMap f.stripe none).setThread t
        (.done (.Busy .kDeadlock)) f
    else ({ s with wait := r.2 }).setThread t .waitDecide f
  else s.setThread t .waitDecide f

/-- The wait: `Wait` when `cv_end_time` is -1, `WaitFor` when it is still ahead, and no wait at
all when it has passed. -/
def stepWaitDecide (s : LockSystem) (t : TransactionID) (f : Frame) : LockSystem :=
  match f.cvEndTime with
  | none => (s.setOwner f.lockMap f.stripe none).setThread t (.waiting none) f
  | some d =>
    if s.now < d then (s.setOwner f.lockMap f.stripe none).setThread t (.waiting (some d)) f
    else s.setThread t .afterWait f

/-- The wait ends: `OK` when the thread is notified or wakes spuriously, `TimedOut(kMutexTimeout)`
when the deadline of `WaitFor` has passed. -/
def stepWaiting (s : LockSystem) (t : TransactionID) (f : Frame) (deadline : Option ℕ)
    (env : EnvAnswers) : LockSystem :=
  let timedOut := match deadline with
    | none => false
    | some d => env.waitTimedOut && decide (d ≤ s.now)
  s.setThread t .relocking
    { f with result := if timedOut then .TimedOut .kMutexTimeout else .OK }

/-- The woken thread takes the stripe mutex back when it is free. -/
def stepRelocking (s : LockSystem) (t : TransactionID) (f : Frame) : LockSystem :=
  match s.owner f.lockMap f.stripe with
  | none => (s.setOwner f.lockMap f.stripe (some t)).setThread t .afterWait f
  | some _ => s

/-- `DecrementWaiters(txn, wait_ids)` after the wait, for a thread in deadlock detection. -/
def decrementWaiters (s : LockSystem) (t : TransactionID) (f : Frame) : LockSystem :=
  if f.detecting then { s with wait := DecrementWaitersImpl s.wait t f.waitIds } else s

/-- After the wait: `DecrementWaiters`, a timeout noted in `timed_out`, and `AcquireLocked`
again if the wait ended with `OK` or a timeout; otherwise the test of the loop. -/
def stepAfterWait (s : LockSystem) (t : TransactionID) (f : Frame) : LockSystem :=
  let s := s.decrementWaiters t f
  let f := { f with timedOut := f.timedOut || f.result.IsTimedOut }
  if f.result.ok || f.result.IsTimedOut then s.setThread t (.acquire false) f
  else if !f.result.ok && !f.timedOut then s.setThread t .loopTop f
  else (s.setOwner f.lockMap f.stripe none).setThread t (.done f.result) f

/-- `UnLock` with the stripe mutex free: take it, `UnLockKey`, release it.  Its
`NotifyAll` is not modelled, as every wait may end at any time. -/
def stepUnlocking (s : LockSystem) (t : TransactionID) (f : Frame) : LockSystem :=
  match s.owner f.lockMap f.stripe with
  | none =>
    let r := s.unLockKeyAt cfg t f
    (s.setKeys f.lockMap f.stripe r.1 (if r.2 then -1 else 0)).setThread t .idle f
  | some _ => s

/-- One step of the thread of `t`. -/
def stepThread (s : LockSystem) (t : TransactionID) (env : EnvAnswers) : LockSystem :=
  match (s.threads t).phase with
  | .idle | .done _ => s
  | .lockingMutex => s.stepLockingMutex t (s.threads t).frame env
  | .acquire first => s.stepAcquire t (s.threads t).frame first
  | .loaded first => s.stepLoaded cfg t (s.threads t).frame first env
  | .loopTop => s.stepLoopTop t (s.threads t).frame env
  | .waitDecide => s.stepWaitDecide t (s.threads t).frame
  | .waiting deadline => s.stepWaiting t (s.threads t).frame deadline env
  | .relocking => s.stepRelocking t (s.threads t).frame
  | .afterWait => s.stepAfterWait t (s.threads t).frame
  | .unlocking => s.stepUnlocking cfg t (s.threads t).frame

/-! ### The calls -/

/-- `TryLock(txn, column_family_id, key, env, exclusive)` starts in the thread of `t`:
`GetLockMap`, the stripe of the key, the request `LockInfo(txn->GetID(),
txn->GetExpirationTime(), exclusive)`, and the deadline `start_time + timeout` of a positive
timeout. -/
def TryLock (s : LockSystem) (t : TransactionID) (cfId : ℕ) (key : String) (exclusive : Bool)
    (opts : TxnLockOptions) : LockSystem :=
  if (s.threads t).phase.Free then
    match s.lockMaps.lookup cfId with
    | none =>
      s.setThread t (.done (.InvalidArgument ("Column family id not found: " ++ toString cfId)))
        (s.threads t).frame
    | some a =>
      s.setThread t .lockingMutex
        { cfId, key, lockMap := a, stripe := (s.heap a).GetStripe cfg.hash key, exclusive,
          expirationTime := opts.expirationTime, timeout := opts.lockTimeout,
          endTime := if 0 < opts.lockTimeout then s.now + opts.lockTimeout.toNat else 0,
          result := .OK, expireTimeHint := 0, waitIds := [], timedOut := false,
          deadlockDetect := opts.deadlockDetect, depth := opts.deadlockDetectDepth,
          lockCnt := 0 }
  else s

/-- `UnLock(txn, column_family_id, key, env)` starts in the thread of `t`: nothing happens
when the column family is gone ("Column Family must have been dropped."). -/
def UnLock (s : LockSystem) (t : TransactionID) (cfId : ℕ) (key : String) : LockSystem :=
  if (s.threads t).phase.Free then
    match s.lockMaps.lookup cfId with
    | none => s.setThread t .idle (s.threads t).frame
    | some a =>
      s.setThread t .unlocking
        { (s.threads t).frame with
          cfId, key, lockMap := a, stripe := (s.heap a).GetStripe cfg.hash key }
  else s

/-- `AddColumnFamily(cf)`: a new `LockMap` of `default_num_stripes_` stripes, unless the column
family has one already ("column_family already exists in lock map"). -/
def AddColumnFamily (s : LockSystem) (cfId : ℕ) : LockSystem :=
  if cfId ∈ s.lockMaps then s
  else
    { s with
      lockMaps := s.lockMaps.insert cfId s.heapSize
      heap := Function.update s.heap s.heapSize (LockMap.new cfg.defaultNumStripes)
      heapSize := s.heapSize + 1 }

/-- `RemoveColumnFamily(cf)`: the column family loses its `LockMap`; threads that use it go on
with it. -/
def RemoveColumnFamily (s : LockSystem) (cfId : ℕ) : LockSystem :=
  { s with lockMaps := s.lockMaps.erase cfId }

/-- One call of the machine. -/
def step (c : LockCall) (s : LockSystem) : LockSystem :=
  match c with
  | .tryLock t cfId key exclusive opts => s.TryLock cfg t cfId key exclusive opts
  | .unLock t cfId key => s.UnLock cfg t cfId key
  | .step t env => s.stepThread cfg t env
  | .tick => { s with now := s.now + 1 }
  | .addColumnFamily cfId => s.AddColumnFamily cfg cfId
  | .removeColumnFamily cfId => s.RemoveColumnFamily cfId

/-- The manager and its threads as a machine. -/
def machine : Machine LockSystem LockCall Unit := ⟨fun c s => ((), step cfg c s)⟩


/-! ### Updates of the state -/

section Updates

variable {s : LockSystem} {t : TransactionID} {p : Phase} {f : Frame} {a i : ℕ}
  {o : Option TransactionID} {keys : LockTable} {d : ℤ}

@[simp] theorem threads_setThread :
    (s.setThread t p f).threads = Function.update s.threads t ⟨p, f⟩ := rfl
@[simp] theorem owner_setThread : (s.setThread t p f).owner = s.owner := rfl
@[simp] theorem heap_setThread : (s.setThread t p f).heap = s.heap := rfl
@[simp] theorem wait_setThread : (s.setThread t p f).wait = s.wait := rfl
@[simp] theorem now_setThread : (s.setThread t p f).now = s.now := rfl

@[simp] theorem threads_setOwner : (s.setOwner a i o).threads = s.threads := rfl
@[simp] theorem heap_setOwner : (s.setOwner a i o).heap = s.heap := rfl
@[simp] theorem wait_setOwner : (s.setOwner a i o).wait = s.wait := rfl
@[simp] theorem now_setOwner : (s.setOwner a i o).now = s.now := rfl

@[simp] theorem owner_setOwner (a' i' : ℕ) :
    (s.setOwner a i o).owner a' i' = if a' = a ∧ i' = i then o else s.owner a' i' := by
  by_cases ha : a' = a
  · subst ha
    by_cases hi : i' = i
    · subst hi
      simp [setOwner]
    · simp [setOwner, hi]
  · simp [setOwner, ha]

@[simp] theorem threads_decrementWaiters : (s.decrementWaiters t f).threads = s.threads := by
  unfold decrementWaiters; split <;> rfl
@[simp] theorem owner_decrementWaiters : (s.decrementWaiters t f).owner = s.owner := by
  unfold decrementWaiters; split <;> rfl
@[simp] theorem heap_decrementWaiters : (s.decrementWaiters t f).heap = s.heap := by
  unfold decrementWaiters; split <;> rfl
@[simp] theorem now_decrementWaiters : (s.decrementWaiters t f).now = s.now := by
  unfold decrementWaiters; split <;> rfl

theorem wait_decrementWaiters : (s.decrementWaiters t f).wait =
    if f.detecting then DecrementWaitersImpl s.wait t f.waitIds else s.wait := by
  unfold decrementWaiters; split <;> rfl

@[simp] theorem threads_setKeys : (s.setKeys a i keys d).threads = s.threads := rfl
@[simp] theorem owner_setKeys : (s.setKeys a i keys d).owner = s.owner := rfl
@[simp] theorem wait_setKeys : (s.setKeys a i keys d).wait = s.wait := rfl
@[simp] theorem now_setKeys : (s.setKeys a i keys d).now = s.now := rfl

theorem heap_setKeys (a' : ℕ) :
    (s.setKeys a i keys d).heap a' = if a' = a then
      ⟨(s.heap a).numStripes, (s.heap a).lockCnt + d,
        Function.update (s.heap a).lockMapStripes i ⟨keys⟩⟩ else s.heap a' := by
  by_cases ha : a' = a
  · subst ha
    simp [setKeys]
  · simp [setKeys, ha]

end Updates

/-! ### Mutual exclusion of the stripe mutexes -/

/-- Each stripe mutex is held by at most one thread: a thread in a phase that holds its
stripe's mutex is its owner, and the owner of a mutex is a thread holding it. -/
structure MutexInv (s : LockSystem) : Prop where
  owner_of_holding : ∀ t, (s.threads t).phase.Holding = true →
    s.owner (s.threads t).frame.lockMap (s.threads t).frame.stripe = some t
  holding_of_owner : ∀ a i t, s.owner a i = some t →
    (s.threads t).phase.Holding = true ∧ (s.threads t).frame.lockMap = a ∧
      (s.threads t).frame.stripe = i

section MutexInv

variable {s : LockSystem} {t : TransactionID} {p : Phase} {f : Frame}

theorem MutexInv.new (cfg : LockConfig) (n : ℕ) : MutexInv (LockSystem.new cfg n) :=
  ⟨fun t h => by simp [LockSystem.new, Phase.Holding] at h, fun a i t h => by
    simp [LockSystem.new] at h⟩

/-- Only the owners and the threads matter. -/
theorem MutexInv.of_eq {s' : LockSystem} (h : MutexInv s) (ho : s'.owner = s.owner)
    (ht : s'.threads = s.threads) : MutexInv s' := by
  obtain ⟨h₁, h₂⟩ := h
  exact ⟨ho ▸ ht ▸ h₁, ho ▸ ht ▸ h₂⟩

theorem MutexInv.not_owner (h : MutexInv s) (ht : (s.threads t).phase.Holding = false)
    (a i : ℕ) : s.owner a i ≠ some t := fun ho => by
  simp [(h.holding_of_owner a i t ho).1] at ht

/-- A thread that holds no mutex goes on holding none. -/
theorem MutexInv.setThread_free (h : MutexInv s) (ht : (s.threads t).phase.Holding = false)
    (hp : p.Holding = false) : MutexInv (s.setThread t p f) := by
  constructor
  · intro u hu
    by_cases hut : u = t
    · subst hut
      simp [hp] at hu
    · simp only [threads_setThread, owner_setThread, Function.update_of_ne hut] at hu ⊢
      exact h.owner_of_holding u hu
  · intro a i u hu
    have hut : u ≠ t := fun hut => h.not_owner ht a i (hut ▸ hu)
    simp only [threads_setThread, owner_setThread, Function.update_of_ne hut] at hu ⊢
    exact h.holding_of_owner a i u hu

/-- A thread that holds its mutex and goes on holding it at the same stripe. -/
theorem MutexInv.setThread_holding (h : MutexInv s) (ht : (s.threads t).phase.Holding = true)
    (hp : p.Holding = true) (ha : f.lockMap = (s.threads t).frame.lockMap)
    (hi : f.stripe = (s.threads t).frame.stripe) : MutexInv (s.setThread t p f) := by
  constructor
  · intro u hu
    by_cases hut : u = t
    · subst hut
      simp only [threads_setThread, owner_setThread, Function.update_self] at hu ⊢
      rw [ha, hi]
      exact h.owner_of_holding u ht
    · simp only [threads_setThread, owner_setThread, Function.update_of_ne hut] at hu ⊢
      exact h.owner_of_holding u hu
  · intro a i u hu
    by_cases hut : u = t
    · subst hut
      obtain ⟨-, rfl, rfl⟩ := h.holding_of_owner a i u hu
      simp [hp, ha, hi]
    · simp only [threads_setThread, owner_setThread, Function.update_of_ne hut] at hu ⊢
      exact h.holding_of_owner a i u hu

/-- A thread takes a free mutex. -/
theorem MutexInv.take (h : MutexInv s) (hfree : s.owner f.lockMap f.stripe = none)
    (ht : (s.threads t).phase.Holding = false) (hp : p.Holding = true) :
    MutexInv ((s.setOwner f.lockMap f.stripe (some t)).setThread t p f) := by
  constructor
  · intro u hu
    by_cases hut : u = t
    · subst hut
      simp
    · simp only [threads_setThread, threads_setOwner, owner_setThread,
        Function.update_of_ne hut] at hu ⊢
      have hown := h.owner_of_holding u hu
      -- the mutex `u` holds is not the free one
      have hne : ¬ ((s.threads u).frame.lockMap = f.lockMap ∧
          (s.threads u).frame.stripe = f.stripe) := by
        rintro ⟨ha, hi⟩
        rw [ha, hi, hfree] at hown
        cases hown
      rw [owner_setOwner, if_neg hne]
      exact hown
  · intro a i u hu
    rw [owner_setThread, owner_setOwner] at hu
    split_ifs at hu with hai
    · cases hu
      obtain ⟨rfl, rfl⟩ := hai
      simp [hp]
    · have hut : u ≠ t := fun hut => h.not_owner ht a i (hut ▸ hu)
      simp only [threads_setThread, threads_setOwner, Function.update_of_ne hut]
      exact h.holding_of_owner a i u hu

/-- A thread releases the mutex it holds. -/
theorem MutexInv.release (h : MutexInv s) (ht : (s.threads t).phase.Holding = true) {a i : ℕ}
    (ha : (s.threads t).frame.lockMap = a) (hi : (s.threads t).frame.stripe = i)
    (hp : p.Holding = false) : MutexInv ((s.setOwner a i none).setThread t p f) := by
  subst ha hi
  have hown := h.owner_of_holding t ht
  constructor
  · intro u hu
    by_cases hut : u = t
    · subst hut
      simp [hp] at hu
    · simp only [threads_setThread, threads_setOwner, owner_setThread,
        Function.update_of_ne hut] at hu ⊢
      have hu' := h.owner_of_holding u hu
      -- `u` holds another mutex than the one released
      have hne : ¬ ((s.threads u).frame.lockMap = (s.threads t).frame.lockMap ∧
          (s.threads u).frame.stripe = (s.threads t).frame.stripe) := by
        rintro ⟨ha', hi'⟩
        rw [ha', hi', hown, Option.some_inj] at hu'
        exact hut hu'.symm
      rw [owner_setOwner, if_neg hne]
      exact hu'
  · intro a i u hu
    rw [owner_setThread, owner_setOwner] at hu
    split_ifs at hu with hai
    have hut : u ≠ t := by
      rintro rfl
      obtain ⟨-, ha', hi'⟩ := h.holding_of_owner a i u hu
      exact hai ⟨ha'.symm, hi'.symm⟩
    simp only [threads_setThread, threads_setOwner, Function.update_of_ne hut]
    exact h.holding_of_owner a i u hu

/-- **Every step of a thread keeps each stripe mutex with at most one thread.** -/
theorem MutexInv.stepThread (h : MutexInv s) (t : TransactionID) (env : EnvAnswers) :
    MutexInv (s.stepThread cfg t env) := by
  have hkeys : ∀ a i keys d, MutexInv (s.setKeys a i keys d) := fun _ _ _ _ => h.of_eq rfl rfl
  have hwait : ∀ w, MutexInv { s with wait := w } := fun _ => h.of_eq rfl rfl
  unfold LockSystem.stepThread
  split
  · exact h
  · exact h
  · -- `Lock()` or `TryLockFor`
    rename_i hph
    have ht : (s.threads t).phase.Holding = false := by simp [hph, Phase.Holding]
    unfold stepLockingMutex
    split
    · rename_i hfree
      split_ifs
      · exact h.setThread_free ht rfl
      · exact h.take hfree ht rfl
    · split_ifs
      · exact h.setThread_free ht rfl
      · exact h
  · rename_i first hph
    apply h.setThread_holding (by simp [hph, Phase.Holding]) <;> rfl
  · -- the rest of `AcquireLocked`: on into the loop, or release and return
    rename_i first hph
    have ht : (s.threads t).phase.Holding = true := by simp [hph, Phase.Holding]
    unfold stepLoaded
    dsimp only
    split
    · apply (hkeys _ _ _ _).setThread_holding ht <;> rfl
    · apply (hkeys _ _ _ _).release ht <;> rfl
  · -- deadlock detection
    rename_i hph
    have ht : (s.threads t).phase.Holding = true := by simp [hph, Phase.Holding]
    unfold LockSystem.stepLoopTop
    split
    · dsimp only
      split
      · apply MutexInv.release (hwait _) <;> first | exact ht | rfl
      · apply MutexInv.setThread_holding (hwait _) <;> first | exact ht | rfl
    · apply h.setThread_holding ht <;> rfl
  · -- the wait starts, releasing the mutex, or is skipped
    rename_i hph
    have ht : (s.threads t).phase.Holding = true := by simp [hph, Phase.Holding]
    unfold stepWaitDecide
    split
    · apply h.release ht <;> rfl
    · split_ifs
      · apply h.release ht <;> rfl
      · apply h.setThread_holding ht <;> rfl
  · rename_i deadline hph
    exact h.setThread_free (by simp [hph, Phase.Holding]) rfl
  · -- the mutex is taken back
    rename_i hph
    have ht : (s.threads t).phase.Holding = false := by simp [hph, Phase.Holding]
    unfold stepRelocking
    split
    · rename_i hfree
      exact h.take hfree ht rfl
    · exact h
  · -- after the wait: `AcquireLocked` again, the next round, or release and return
    rename_i hph
    have ht : (s.threads t).phase.Holding = true := by simp [hph, Phase.Holding]
    -- `DecrementWaiters` changes the wait maps only
    have hs : MutexInv (s.decrementWaiters t (s.threads t).frame) :=
      h.of_eq owner_decrementWaiters threads_decrementWaiters
    have ht' : ((s.decrementWaiters t (s.threads t).frame).threads t).phase.Holding = true := by
      simpa using ht
    unfold LockSystem.stepAfterWait
    dsimp only
    split
    · exact hs.setThread_holding ht' rfl (by simp) (by simp)
    · split
      · exact hs.setThread_holding ht' rfl (by simp) (by simp)
      · exact hs.release ht' (by simp) (by simp) rfl
  · -- `UnLock` takes and releases the mutex in one step
    rename_i hph
    have ht : (s.threads t).phase.Holding = false := by simp [hph, Phase.Holding]
    unfold stepUnlocking
    split
    · exact (hkeys _ _ _ _).setThread_free ht rfl
    · exact h

end MutexInv


/-! ### What a step of a thread changes -/

section StepThread

variable {s : LockSystem} {t : TransactionID} {env : EnvAnswers}

/-- A step of a thread changes that thread only, and not the request of its call. -/
theorem threads_stepThread (s : LockSystem) (t : TransactionID) (env : EnvAnswers) :
    ∃ th : Thread, (s.stepThread cfg t env).threads = Function.update s.threads t th ∧
      th.frame.toLockRequest = (s.threads t).frame.toLockRequest := by
  have hsame : ∃ th : Thread, s.threads = Function.update s.threads t th ∧
      th.frame.toLockRequest = (s.threads t).frame.toLockRequest :=
    ⟨s.threads t, (Function.update_eq_self _ _).symm, rfl⟩
  unfold stepThread
  split
  · exact hsame
  · exact hsame
  · unfold stepLockingMutex
    split
    · split_ifs <;> exact ⟨_, rfl, rfl⟩
    · split_ifs
      · exact ⟨_, rfl, rfl⟩
      · exact hsame
  · exact ⟨_, rfl, rfl⟩
  · unfold stepLoaded
    dsimp only
    split <;> exact ⟨_, rfl, rfl⟩
  · unfold stepLoopTop
    split
    · dsimp only
      split <;> exact ⟨_, rfl, rfl⟩
    · exact ⟨_, rfl, rfl⟩
  · unfold stepWaitDecide
    split
    · exact ⟨_, rfl, rfl⟩
    · split_ifs <;> exact ⟨_, rfl, rfl⟩
  · exact ⟨_, rfl, rfl⟩
  · unfold stepRelocking
    split
    · exact ⟨_, rfl, rfl⟩
    · exact hsame
  · unfold stepAfterWait
    dsimp only
    split
    · simp only [threads_setThread, threads_decrementWaiters]
      exact ⟨_, rfl, rfl⟩
    · split <;> simp only [threads_setThread, threads_setOwner, threads_decrementWaiters] <;>
        exact ⟨_, rfl, rfl⟩
  · unfold stepUnlocking
    split
    · exact ⟨_, rfl, rfl⟩
    · exact hsame

/-- A step of a thread changes a `LockMap` only by `AcquireLocked` or `UnLockKey` on the stripe
of its request. -/
theorem heap_stepThread (s : LockSystem) (t : TransactionID) (env : EnvAnswers) :
    (s.stepThread cfg t env).heap = s.heap ∨
    (∃ first, (s.threads t).phase = .loaded first ∧ (s.stepThread cfg t env).heap =
      (s.setKeys (s.threads t).frame.lockMap (s.threads t).frame.stripe
        (s.acquireLockedAt cfg t (s.threads t).frame env).keys
        (if (s.acquireLockedAt cfg t (s.threads t).frame env).incr then 1 else 0)).heap) ∨
    ((s.threads t).phase = .unlocking ∧ (s.stepThread cfg t env).heap =
      (s.setKeys (s.threads t).frame.lockMap (s.threads t).frame.stripe
        (s.unLockKeyAt cfg t (s.threads t).frame).1
        (if (s.unLockKeyAt cfg t (s.threads t).frame).2 then -1 else 0)).heap) := by
  unfold stepThread
  split
  · exact .inl rfl
  · exact .inl rfl
  · unfold stepLockingMutex
    left
    split
    · split_ifs <;> rfl
    · split_ifs <;> rfl
  · exact .inl rfl
  · rename_i first hph
    unfold stepLoaded
    dsimp only
    right; left
    exact ⟨first, hph, by split <;> rfl⟩
  · unfold stepLoopTop
    left
    split
    · dsimp only
      split <;> rfl
    · rfl
  · unfold stepWaitDecide
    left
    split
    · rfl
    · split_ifs <;> rfl
  · exact .inl rfl
  · unfold stepRelocking
    left
    split <;> rfl
  · unfold stepAfterWait
    left
    dsimp only
    split
    · simp
    · split <;> simp
  · rename_i hph
    unfold stepUnlocking
    split
    · exact .inr (.inr ⟨hph, rfl⟩)
    · exact .inl rfl

theorem threads_stepThread_of_ne {u : TransactionID} (hu : u ≠ t) :
    (s.stepThread cfg t env).threads u = s.threads u := by
  obtain ⟨th, hth, -⟩ := threads_stepThread cfg s t env
  rw [hth, Function.update_of_ne hu]

theorem request_stepThread (s : LockSystem) (t : TransactionID) (env : EnvAnswers) :
    ((s.stepThread cfg t env).threads t).frame.toLockRequest =
      (s.threads t).frame.toLockRequest := by
  obtain ⟨th, hth, hreq⟩ := threads_stepThread cfg s t env
  rw [hth, Function.update_self]
  exact hreq

end StepThread


/-! ### The lock tables -/

/-- Every lock of every stripe is well formed. -/
def TableInv (s : LockSystem) : Prop :=
  ∀ a i, LockTable.WF ((s.heap a).lockMapStripes i).keys

theorem TableInv.setKeys {s : LockSystem} (h : TableInv s) {a i : ℕ} {keys : LockTable}
    (hk : LockTable.WF keys) (d : ℤ) : TableInv (s.setKeys a i keys d) := by
  intro a' i'
  rw [heap_setKeys]
  split_ifs with ha
  · subst ha
    by_cases hi : i' = i
    · subst hi
      simpa using hk
    · simpa [Function.update_of_ne hi] using h a' i'
  · exact h a' i'

/-- **Every step of a thread keeps every lock well formed.** -/
theorem TableInv.stepThread {s : LockSystem} (h : TableInv s) (t : TransactionID)
    (env : EnvAnswers) : TableInv (s.stepThread cfg t env) := by
  rcases heap_stepThread cfg s t env with hh | ⟨first, -, hh⟩ | ⟨-, hh⟩ <;>
    intro a i <;> rw [hh]
  · exact h a i
  · exact h.setKeys (h _ _).AcquireLocked _ a i
  · exact h.setKeys (h _ _).UnLockKey _ a i

/-! ### Stripes -/

/-- Every `LockMap` has `default_num_stripes_` stripes, and every thread's stripe is one of
them. -/
structure StripeInv (s : LockSystem) : Prop where
  numStripes : ∀ a, (s.heap a).numStripes = cfg.defaultNumStripes
  stripe_lt : ∀ t, (s.threads t).frame.stripe < cfg.defaultNumStripes

theorem StripeInv.setKeys {s : LockSystem} (h : StripeInv cfg s) (a i : ℕ) (keys : LockTable)
    (d : ℤ) : ∀ a', ((s.setKeys a i keys d).heap a').numStripes = cfg.defaultNumStripes := by
  intro a'
  rw [heap_setKeys]
  split_ifs with ha
  · subst ha
    exact h.numStripes a'
  · exact h.numStripes a'

theorem StripeInv.stepThread {s : LockSystem} (h : StripeInv cfg s) (t : TransactionID)
    (env : EnvAnswers) : StripeInv cfg (s.stepThread cfg t env) := by
  refine ⟨?_, fun u => ?_⟩
  · rcases heap_stepThread cfg s t env with hh | ⟨first, -, hh⟩ | ⟨-, hh⟩ <;> rw [hh]
    · exact h.numStripes
    · exact h.setKeys _ _ _ _ _
    · exact h.setKeys _ _ _ _ _
  · by_cases hu : u = t
    · subst hu
      have := congrArg LockRequest.stripe (request_stepThread cfg s u env)
      exact this ▸ h.stripe_lt u
    · rw [threads_stepThread_of_ne cfg hu]
      exact h.stripe_lt u

/-- `GetStripe` picks one of the stripes. -/
theorem StripeInv.GetStripe_lt {s : LockSystem} (h : StripeInv cfg s) (a : ℕ) (key : String) :
    (s.heap a).GetStripe cfg.hash key < cfg.defaultNumStripes := by
  unfold LockMap.GetStripe
  rw [h.numStripes a]
  exact FastRange64_lt _ cfg.numStripes_pos

/-! ### The lock count -/

/-- The number of keys locked in the stripes of a `LockMap`. -/
def numLocked (m : LockMap) : ℕ :=
  ∑ i ∈ Finset.range m.numStripes, (m.lockMapStripes i).keys.keys.length

theorem numLocked_update (m : LockMap) {i : ℕ} (hi : i < m.numStripes) (keys : LockTable)
    (c : ℤ) :
    numLocked ⟨m.numStripes, c, Function.update m.lockMapStripes i ⟨keys⟩⟩ +
      (m.lockMapStripes i).keys.keys.length = numLocked m + keys.keys.length := by
  have hmem : i ∈ Finset.range m.numStripes := Finset.mem_range.2 hi
  unfold numLocked
  dsimp only
  rw [← Finset.add_sum_erase _ _ hmem, ← Finset.add_sum_erase _ _ hmem, Function.update_self]
  dsimp only
  -- the other stripes keep their keys
  have hrest : ∑ x ∈ (Finset.range m.numStripes).erase i,
      ((Function.update m.lockMapStripes i ⟨keys⟩) x).keys.keys.length =
      ∑ x ∈ (Finset.range m.numStripes).erase i, (m.lockMapStripes x).keys.keys.length :=
    Finset.sum_congr rfl fun j hj => by rw [Function.update_of_ne (Finset.ne_of_mem_erase hj)]
  rw [hrest]
  omega

/-- While `max_num_locks_` is positive, `lock_cnt` counts no more locks than the stripes
hold. -/
def CntInv (s : LockSystem) : Prop :=
  0 < cfg.maxNumLocks → ∀ a, (s.heap a).lockCnt ≤ numLocked (s.heap a)

/-- Writing a stripe's table keeps the count below the locks when it adds no more to the
count than to the table. -/
theorem CntInv.setKeys {s : LockSystem} (h : CntInv cfg s) (hs : StripeInv cfg s) (a i : ℕ)
    (hi : i < cfg.defaultNumStripes) (keys : LockTable) (d : ℤ)
    (hd : 0 < cfg.maxNumLocks → d + ((s.heap a).lockMapStripes i).keys.keys.length ≤
      keys.keys.length) : CntInv cfg (s.setKeys a i keys d) := by
  intro hmax a'
  rw [heap_setKeys]
  split_ifs with ha
  · subst ha
    have hupd := numLocked_update (s.heap a') (hs.numStripes a' ▸ hi) keys
      ((s.heap a').lockCnt + d)
    have hcnt := h hmax a'
    have hd' := hd hmax
    dsimp only at hupd ⊢
    omega
  · exact h hmax a'

/-- **Every step of a thread keeps `lock_cnt` at most the number of locked keys.** -/
theorem CntInv.stepThread {s : LockSystem} (h : CntInv cfg s) (hs : StripeInv cfg s)
    (t : TransactionID) (env : EnvAnswers) : CntInv cfg (s.stepThread cfg t env) := by
  rcases heap_stepThread cfg s t env with hh | ⟨first, -, hh⟩ | ⟨-, hh⟩
  · intro hmax a
    rw [hh]
    exact h hmax a
  · -- a new lock is counted with its key
    have hc := CntInv.setKeys cfg h hs (s.threads t).frame.lockMap _ (hs.stripe_lt t)
      (s.acquireLockedAt cfg t (s.threads t).frame env).keys
      (if (s.acquireLockedAt cfg t (s.threads t).frame env).incr then 1 else 0) (by
        intro _
        unfold acquireLockedAt
        rw [length_AcquireLocked, incr_AcquireLocked]
        unfold keysAt
        split_ifs with hincr hnew hnew
        · push_cast
          omega
        · simp only [decide_eq_true_eq] at hincr
          exact absurd ⟨hincr.1, hincr.2.2⟩ hnew
        · push_cast
          omega
        · push_cast
          omega)
    intro hmax a
    rw [hh]
    exact hc hmax a
  · -- a lock given up is uncounted, and its key erased only if it was the last holder
    have hc := CntInv.setKeys cfg h hs (s.threads t).frame.lockMap _ (hs.stripe_lt t)
      (s.unLockKeyAt cfg t (s.threads t).frame).1
      (if (s.unLockKeyAt cfg t (s.threads t).frame).2 then -1 else 0) (by
        intro hmax
        have hlen := length_UnLockKey cfg.maxNumLocks (s.keysAt (s.threads t).frame) t
          (s.threads t).frame.key
        have hdecr := decr_UnLockKey cfg.maxNumLocks (s.keysAt (s.threads t).frame) t
          (s.threads t).frame.key
        unfold unLockKeyAt
        unfold keysAt at hlen hdecr ⊢
        split_ifs at hlen with hsole
        · -- the last holder leaves: the lock is uncounted
          obtain ⟨l, hl, hl1⟩ := hsole
          rw [if_pos (hdecr.2 ⟨hmax, l, hl, by simp [hl1]⟩)]
          omega
        · split_ifs <;> omega)
    intro hmax a
    rw [hh]
    exact hc hmax a


/-! ### The wait maps -/

theorem Thread.tracked_of_not_waiting {p : Phase} (hp : p.Waiting = false) (f : Frame) :
    Thread.tracked ⟨p, f⟩ = none := by
  simp [Thread.tracked, hp]

/-- Two places between `IncrementWaiters` and `DecrementWaiters` of one call, with the same
waitees, are recorded alike. -/
theorem Thread.tracked_of_waiting {p p' : Phase} (hp : p.Waiting = true) (hp' : p'.Waiting = true)
    {f f' : Frame} (hreq : f'.toLockRequest = f.toLockRequest) (hw : f'.waitIds = f.waitIds) :
    Thread.tracked ⟨p', f'⟩ = Thread.tracked ⟨p, f⟩ := by
  have hd : f'.deadlockDetect = f.deadlockDetect := congrArg LockRequest.deadlockDetect hreq
  have hc : f'.cfId = f.cfId := congrArg LockRequest.cfId hreq
  have he : f'.exclusive = f.exclusive := congrArg LockRequest.exclusive hreq
  have hk : f'.key = f.key := congrArg LockRequest.key hreq
  simp [Thread.tracked, Frame.detecting, hp, hp', hd, hc, he, hk, hw]

/-- `wait_txn_map_` records exactly the threads that wait with deadlock detection, each with
its request and waitees, and the wait-for graph it records has no cycle. -/
structure WaitsInv (s : LockSystem) : Prop where
  waits : WaitInv s.wait
  tracked : ∀ t, s.wait.waitTxnMap.Get t = (s.threads t).tracked

section WaitsInv

variable {s : LockSystem} {t : TransactionID} {p : Phase} {f : Frame}

theorem WaitsInv.new (cfg : LockConfig) (n : ℕ) : WaitsInv (LockSystem.new cfg n) :=
  ⟨WaitInv.new n, fun t => by simp [LockSystem.new, WaitState.new, Thread.tracked, Phase.Waiting]⟩

theorem WaitsInv.of_eq {s' : LockSystem} (h : WaitsInv s) (hw : s'.wait = s.wait)
    (ht : s'.threads = s.threads) : WaitsInv s' := by
  obtain ⟨h₁, h₂⟩ := h
  exact ⟨hw ▸ h₁, hw ▸ ht ▸ h₂⟩

/-- A thread whose record does not change. -/
theorem WaitsInv.setThread (h : WaitsInv s) (htr : Thread.tracked ⟨p, f⟩ = (s.threads t).tracked) :
    WaitsInv (s.setThread t p f) := by
  refine ⟨h.waits, fun u => ?_⟩
  by_cases hu : u = t
  · subst hu
    simp [htr, h.tracked u]
  · simp [Function.update_of_ne hu, h.tracked u]

/-- A thread in no wait goes on in no wait. -/
theorem WaitsInv.setThread_not_waiting (h : WaitsInv s) (ht : (s.threads t).phase.Waiting = false)
    (hp : p.Waiting = false) : WaitsInv (s.setThread t p f) :=
  h.setThread (by rw [Thread.tracked_of_not_waiting hp]; exact
    (Thread.tracked_of_not_waiting ht (s.threads t).frame).symm)

theorem WaitsInv.stepLoopTop (h : WaitsInv s) (hph : (s.threads t).phase = .loopTop)
    (env : EnvAnswers) : WaitsInv (s.stepLoopTop t (s.threads t).frame env) := by
  have hnone : s.wait.waitTxnMap.Get t = none := by
    rw [h.tracked t, Thread.tracked_of_not_waiting (by simp [hph, Phase.Waiting])]
  have ht : (s.threads t).phase.Waiting = false := by simp [hph, Phase.Waiting]
  unfold LockSystem.stepLoopTop
  split
  · rename_i hdet
    dsimp only
    set f := (s.threads t).frame
    have hget := Get_IncrementWaiters h.waits.toCountInv hnone f.depth f.waitIds f.key f.cfId
      f.exclusive env.currentTime
    have hw := waitInv_IncrementWaiters h.waits hnone f.depth f.waitIds f.key f.cfId f.exclusive
      env.currentTime
    split
    · -- a deadlock: the waiter is taken out again
      rename_i hdl
      refine ⟨hw, fun u => ?_⟩
      simp only [threads_setThread, threads_setOwner, wait_setThread, wait_setOwner]
      rw [hget u, if_neg (by simp [hdl])]
      by_cases hu : u = t
      · subst hu
        rw [Function.update_self, Thread.tracked_of_not_waiting rfl, hnone]
      · rw [Function.update_of_ne hu, h.tracked u]
    · -- the waiter is recorded
      rename_i hdl
      refine ⟨hw, fun u => ?_⟩
      simp only [threads_setThread, wait_setThread]
      rw [hget u]
      by_cases hu : u = t
      · subst hu
        simp [hdl, Thread.tracked, Phase.Waiting, hdet]
      · rw [if_neg (by simp [hu]), Function.update_of_ne hu, h.tracked u]
  · rename_i hdet
    refine h.setThread ?_
    simp [Thread.tracked, hdet, hph, Phase.Waiting]

theorem WaitsInv.stepAfterWait (h : WaitsInv s) (hph : (s.threads t).phase = .afterWait) :
    WaitsInv (s.stepAfterWait t (s.threads t).frame) := by
  -- after `DecrementWaiters`, the thread is recorded nowhere
  have hdec : ∀ p f, p.Waiting = false →
      WaitsInv ((s.decrementWaiters t (s.threads t).frame).setThread t p f) := by
    intro p f hp
    refine ⟨?_, fun u => ?_⟩
    · rw [wait_setThread, wait_decrementWaiters]
      split
      · rename_i hdet
        have hget : s.wait.waitTxnMap.Get t = some ⟨(s.threads t).frame.waitIds,
            (s.threads t).frame.cfId, (s.threads t).frame.exclusive, (s.threads t).frame.key⟩ := by
          rw [h.tracked t]
          simp [Thread.tracked, hph, Phase.Waiting, hdet]
        exact waitInv_DecrementWaitersImpl h.waits hget rfl
      · exact h.waits
    · rw [wait_setThread, wait_decrementWaiters, threads_setThread, threads_decrementWaiters]
      by_cases hu : u = t
      · subst hu
        rw [Function.update_self, Thread.tracked_of_not_waiting hp]
        split
        · rw [Get_DecrementWaitersImpl h.waits.wf_waitTxnMap, if_pos rfl]
        · rename_i hdet
          rw [h.tracked u]
          simp [Thread.tracked, hdet]
      · rw [Function.update_of_ne hu]
        split
        · rw [Get_DecrementWaitersImpl h.waits.wf_waitTxnMap, if_neg hu, h.tracked u]
        · exact h.tracked u
  unfold LockSystem.stepAfterWait
  dsimp only
  split
  · exact hdec _ _ rfl
  · split
    · exact hdec _ _ rfl
    · exact WaitsInv.of_eq (hdec (.done _) _ rfl) rfl rfl

/-- **Every step of a thread keeps `wait_txn_map_` exact and the wait-for graph acyclic.** -/
theorem WaitsInv.stepThread (h : WaitsInv s) (t : TransactionID) (env : EnvAnswers) :
    WaitsInv (s.stepThread cfg t env) := by
  have hkeys : ∀ a i keys d, WaitsInv (s.setKeys a i keys d) := fun _ _ _ _ => h.of_eq rfl rfl
  have hown : ∀ a i o, WaitsInv (s.setOwner a i o) := fun _ _ _ => h.of_eq rfl rfl
  unfold LockSystem.stepThread
  split
  · exact h
  · exact h
  · rename_i hph
    have ht : (s.threads t).phase.Waiting = false := by simp [hph, Phase.Waiting]
    unfold stepLockingMutex
    split
    · split_ifs
      · exact h.setThread_not_waiting ht rfl
      · exact (hown _ _ _).setThread_not_waiting ht rfl
    · split_ifs
      · exact h.setThread_not_waiting ht rfl
      · exact h
  · rename_i first hph
    exact h.setThread_not_waiting (by simp [hph, Phase.Waiting]) rfl
  · rename_i first hph
    have ht : (s.threads t).phase.Waiting = false := by simp [hph, Phase.Waiting]
    unfold stepLoaded
    dsimp only
    split
    · exact (hkeys _ _ _ _).setThread_not_waiting ht rfl
    · refine WaitsInv.setThread_not_waiting ?_ ht rfl
      exact h.of_eq rfl rfl
  · rename_i hph
    exact h.stepLoopTop hph env
  · -- the wait starts or is skipped, with the same waitees
    rename_i hph
    have ht : (s.threads t).phase.Waiting = true := by simp [hph, Phase.Waiting]
    unfold stepWaitDecide
    split
    · exact (hown _ _ _).setThread (Thread.tracked_of_waiting ht rfl rfl rfl)
    · split_ifs
      · exact (hown _ _ _).setThread (Thread.tracked_of_waiting ht rfl rfl rfl)
      · exact h.setThread (Thread.tracked_of_waiting ht rfl rfl rfl)
  · rename_i deadline hph
    exact h.setThread (Thread.tracked_of_waiting (by simp [hph, Phase.Waiting]) rfl rfl rfl)
  · rename_i hph
    have ht : (s.threads t).phase.Waiting = true := by simp [hph, Phase.Waiting]
    unfold stepRelocking
    split
    · exact (hown _ _ _).setThread (Thread.tracked_of_waiting ht rfl rfl rfl)
    · exact h
  · rename_i hph
    exact h.stepAfterWait hph
  · rename_i hph
    have ht : (s.threads t).phase.Waiting = false := by simp [hph, Phase.Waiting]
    unfold stepUnlocking
    split
    · exact (hkeys _ _ _ _).setThread_not_waiting ht rfl
    · exact h

end WaitsInv

end LockSystem

end Autorocks
