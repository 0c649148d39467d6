import Autorocks.Lock.Protocol

/-!
# Invariants of every run of the point lock manager

The invariants of `Lock/Protocol`, each kept by every step of a thread, are gathered into one
invariant `LockSystem.Inv` that every call of the machine keeps, so that they hold in every
state that any interleaving of calls reaches from a new manager:

* `reachable_waitsFor_acyclic` : the wait-for graph that `wait_txn_map_` records has no cycle,
  so that a deadlock is always reported by the transaction that would close it;
* `reachable_tracked_iff` : `wait_txn_map_` holds a transaction exactly while its thread is
  between `IncrementWaiters` and `DecrementWaiters` of a call with deadlock detection, with the
  request of that call;
* `reachable_mutex_unique` : no two threads hold one stripe mutex;
* `reachable_lock_holders` : every lock has a holder, an exclusive one exactly one;
* `reachable_lockCnt_le` : while `max_num_locks_` is positive, `lock_cnt` of a `LockMap` is at
  most the number of keys it has locked.  It may be less (`unLock_shared_lockCnt` in
  `Lock/Schedules`), which is how the limit of `max_num_locks_` can be passed.

What this does not say: that a waiting thread ever gets its lock.  A wait ends whenever the
environment says so, and nothing here bounds how often a thread goes round its loop.
-/

namespace Autorocks

theorem Phase.holding_eq_false {p : Phase} (h : p.Free = true) : p.Holding = false := by
  cases p <;> simp_all [Phase.Free, Phase.Holding]

theorem Phase.waiting_eq_false {p : Phase} (h : p.Free = true) : p.Waiting = false := by
  cases p <;> simp_all [Phase.Free, Phase.Waiting]

/-- `TransactionDBOptions` with its default `num_stripes` (16) and `max_num_locks` (-1), and a
hash that puts every key into stripe 0. -/
def LockConfig.sample : LockConfig := ⟨16, by decide, -1, fun _ => 0⟩

/-- Transaction 1 locks `"k"` exclusively; then transaction 2 asks for it with a timeout of
100 and deadlock detection, and goes into the wait for transaction 1. -/
def sampleWait : List LockCall :=
  let e : EnvAnswers := ⟨fun _ => false, 0, false, false⟩
  [.addColumnFamily 0, .tryLock 1 0 "k" true ⟨0, 0, true, 50⟩, .step 1 e, .step 1 e, .step 1 e,
    .tryLock 2 0 "k" true ⟨0, 100, true, 50⟩, .step 2 e, .step 2 e, .step 2 e, .step 2 e]

namespace LockSystem

variable (cfg : LockConfig)

/-- The invariant of the manager and its threads, one field for each concern of
`Lock/Protocol`. -/
structure Inv (s : LockSystem) : Prop where
  mutex : MutexInv s
  table : TableInv s
  stripes : StripeInv cfg s
  cnt : CntInv cfg s
  waits : WaitsInv s

/-! ### Every call keeps the invariant -/

section Calls

variable {cfg} {s : LockSystem} {t : TransactionID}

theorem Inv.new (n : ℕ) : Inv cfg (LockSystem.new cfg n) where
  mutex := MutexInv.new cfg n
  table := fun _ _ => LockTable.wf_empty
  stripes := ⟨fun _ => rfl, fun _ => cfg.numStripes_pos⟩
  cnt := fun _ _ => by simp [LockSystem.new, LockMap.new]
  waits := WaitsInv.new cfg n

/-- A call starts in a thread that was in none, at a stripe of its `LockMap`. -/
theorem Inv.setThread_free (h : Inv cfg s) (ht : (s.threads t).phase.Free = true) {p : Phase}
    {f : Frame} (hh : p.Holding = false) (hw : p.Waiting = false)
    (hi : f.stripe < cfg.defaultNumStripes) : Inv cfg (s.setThread t p f) where
  mutex := h.mutex.setThread_free (Phase.holding_eq_false ht) hh
  table := h.table
  stripes := by
    refine ⟨h.stripes.numStripes, fun u => ?_⟩
    by_cases hu : u = t
    · subst hu
      simpa using hi
    · simpa [Function.update_of_ne hu] using h.stripes.stripe_lt u
  cnt := h.cnt
  waits := h.waits.setThread_not_waiting (Phase.waiting_eq_false ht) hw

/-- The state keeps its `LockMap`s, owners, threads and wait maps. -/
theorem Inv.of_eq {s' : LockSystem} (h : Inv cfg s) (hh : s'.heap = s.heap)
    (ho : s'.owner = s.owner) (ht : s'.threads = s.threads) (hw : s'.wait = s.wait) :
    Inv cfg s' := by
  obtain ⟨h₁, h₂, ⟨h₃, h₄⟩, h₅, h₆⟩ := h
  refine ⟨h₁.of_eq ho ht, fun a i => ?_, ⟨fun a => ?_, fun u => ?_⟩, fun hmax a => ?_,
    h₆.of_eq hw ht⟩
  · rw [hh]
    exact h₂ a i
  · rw [hh]
    exact h₃ a
  · rw [ht]
    exact h₄ u
  · rw [hh]
    exact h₅ hmax a

theorem Inv.TryLock (h : Inv cfg s) (t : TransactionID) (cfId : ℕ) (key : String)
    (exclusive : Bool) (opts : TxnLockOptions) :
    Inv cfg (s.TryLock cfg t cfId key exclusive opts) := by
  unfold LockSystem.TryLock
  split
  · rename_i hfree
    split
    · exact h.setThread_free hfree rfl rfl (h.stripes.stripe_lt t)
    · exact h.setThread_free hfree rfl rfl (h.stripes.GetStripe_lt cfg _ _)
  · exact h

theorem Inv.UnLock (h : Inv cfg s) (t : TransactionID) (cfId : ℕ) (key : String) :
    Inv cfg (s.UnLock cfg t cfId key) := by
  unfold LockSystem.UnLock
  split
  · rename_i hfree
    split
    · exact h.setThread_free hfree rfl rfl (h.stripes.stripe_lt t)
    · exact h.setThread_free hfree rfl rfl (h.stripes.GetStripe_lt cfg _ _)
  · exact h

/-- A new `LockMap` has empty stripes, as many as every other, and a count of 0. -/
theorem Inv.AddColumnFamily (h : Inv cfg s) (cfId : ℕ) :
    Inv cfg (s.AddColumnFamily cfg cfId) := by
  unfold LockSystem.AddColumnFamily
  split
  · exact h
  · refine ⟨h.mutex.of_eq rfl rfl, fun a i => ?_, ⟨fun a => ?_, h.stripes.stripe_lt⟩,
      fun hmax a => ?_, h.waits.of_eq rfl rfl⟩ <;> dsimp only <;>
      by_cases ha : a = s.heapSize
    · subst ha
      simpa [LockMap.new] using LockTable.wf_empty
    · simpa [Function.update_of_ne ha] using h.table a i
    · subst ha
      simp [LockMap.new]
    · simpa [Function.update_of_ne ha] using h.stripes.numStripes a
    · subst ha
      simp [LockMap.new]
    · simpa [Function.update_of_ne ha] using h.cnt hmax a

theorem Inv.stepThread (h : Inv cfg s) (t : TransactionID) (env : EnvAnswers) :
    Inv cfg (s.stepThread cfg t env) :=
  ⟨h.mutex.stepThread cfg t env, h.table.stepThread cfg t env,
    h.stripes.stepThread cfg t env, h.cnt.stepThread cfg h.stripes t env,
    h.waits.stepThread cfg t env⟩

/-- **Every call of the machine keeps the invariant.** -/
theorem Inv.step (h : Inv cfg s) (c : LockCall) : Inv cfg (step cfg c s) := by
  cases c with
  | tryLock t cfId key exclusive opts => exact h.TryLock t cfId key exclusive opts
  | unLock t cfId key => exact h.UnLock t cfId key
  | step t env => exact h.stepThread t env
  | tick => exact h.of_eq rfl rfl rfl rfl
  | addColumnFamily cfId => exact h.AddColumnFamily cfId
  | removeColumnFamily cfId => exact h.of_eq rfl rfl rfl rfl

end Calls

/-! ### Every reachable state -/

section Reachable

variable {cfg} {n : ℕ} {s : LockSystem}

/-- Every state that some interleaving of calls reaches from a new manager satisfies the
invariant. -/
theorem reachable_inv (h : (machine cfg).Reachable (LockSystem.new cfg n) s) : Inv cfg s :=
  h.invariant (Inv.new n) fun c _ hs => hs.step c

/-- **No cycle of waits**: in every reachable state, no transaction waits for itself through
the waits that `wait_txn_map_` records. -/
theorem reachable_waitsFor_acyclic (h : (machine cfg).Reachable (LockSystem.new cfg n) s) :
    Relation.Acyclic (waitsFor s.wait.waitTxnMap) :=
  (reachable_inv h).waits.waits.acyclic

theorem reachable_waitsFor_acyclic_sampleWait :
    Relation.Acyclic (waitsFor ((machine LockConfig.sample).run sampleWait
      (LockSystem.new LockConfig.sample 5)).2.wait.waitTxnMap) :=
  reachable_waitsFor_acyclic (Machine.reachable_run _ _)

theorem Thread.tracked_eq_some {th : Thread} {info : TrackedTrxInfo} :
    th.tracked = some info ↔ th.phase.Waiting = true ∧ th.frame.detecting = true ∧
      info = ⟨th.frame.waitIds, th.frame.cfId, th.frame.exclusive, th.frame.key⟩ := by
  unfold Thread.tracked
  split_ifs with hw
  · simp only [Bool.and_eq_true] at hw
    simp [hw, eq_comm]
  · simp only [Bool.and_eq_true, not_and] at hw
    simp only [false_iff, not_and]
    exact fun h₁ h₂ => absurd h₂ (hw h₁)

/-- **`wait_txn_map_` holds exactly the waiting threads**: in every reachable state, a
transaction has an entry exactly while its thread is between `IncrementWaiters` and
`DecrementWaiters` of a call with deadlock detection, and the entry is that call's waitees,
column family, mode and key. -/
theorem reachable_tracked_iff (h : (machine cfg).Reachable (LockSystem.new cfg n) s)
    (t : TransactionID) (info : TrackedTrxInfo) :
    s.wait.waitTxnMap.Get t = some info ↔
      (s.threads t).phase.Waiting = true ∧ (s.threads t).frame.detecting = true ∧
        info = ⟨(s.threads t).frame.waitIds, (s.threads t).frame.cfId,
          (s.threads t).frame.exclusive, (s.threads t).frame.key⟩ := by
  rw [(reachable_inv h).waits.tracked t]
  exact Thread.tracked_eq_some

theorem reachable_tracked_iff_sampleWait :
    let s := ((machine LockConfig.sample).run sampleWait (LockSystem.new LockConfig.sample 5)).2
    s.wait.waitTxnMap.Get 2 = some ⟨[1], 0, true, "k"⟩ ∧ (s.threads 2).phase.Waiting = true := by
  intro s
  have hget : s.wait.waitTxnMap.Get 2 = some ⟨[1], 0, true, "k"⟩ := by decide
  exact ⟨hget, ((reachable_tracked_iff (Machine.reachable_run _ _) 2 _).1 hget).1⟩

/-- `rev_wait_txn_map_` has an entry for `w` exactly when some thread waits for `w` with
deadlock detection. -/
theorem reachable_rev_contains_iff (h : (machine cfg).Reachable (LockSystem.new cfg n) s)
    (w : TransactionID) :
    s.wait.revWaitTxnMap.Contains w = true ↔
      ∃ t, (s.threads t).phase.Waiting = true ∧ (s.threads t).frame.detecting = true ∧
        w ∈ (s.threads t).frame.waitIds := by
  have hinv := (reachable_inv h).waits
  rw [hinv.waits.rev.contains_iff, Ne, indeg_eq_zero_iff hinv.waits.wf_waitTxnMap]
  push Not
  -- an edge into `w` is an entry of the map whose waitees contain `w`
  constructor
  · rintro ⟨t, info, ht, hw⟩
    rw [hinv.tracked t, Thread.tracked_eq_some] at ht
    obtain ⟨hwait, hdet, rfl⟩ := ht
    exact ⟨t, hwait, hdet, hw⟩
  · rintro ⟨t, hwait, hdet, hw⟩
    exact ⟨t, _, (hinv.tracked t).trans (Thread.tracked_eq_some.2 ⟨hwait, hdet, rfl⟩), hw⟩

theorem reachable_rev_contains_iff_sampleWait :
    let s := ((machine LockConfig.sample).run sampleWait (LockSystem.new LockConfig.sample 5)).2
    s.wait.revWaitTxnMap.Contains 1 = true ∧ ∃ t, (s.threads t).phase.Waiting = true ∧
      (s.threads t).frame.detecting = true ∧ 1 ∈ (s.threads t).frame.waitIds := by
  intro s
  have hc : s.wait.revWaitTxnMap.Contains 1 = true := by decide
  exact ⟨hc, (reachable_rev_contains_iff (Machine.reachable_run _ _) 1).1 hc⟩

/-- **Mutual exclusion of the stripe mutexes**: in every reachable state, two threads in
phases that hold the mutex of their stripe are at different stripes. -/
theorem reachable_mutex_unique (h : (machine cfg).Reachable (LockSystem.new cfg n) s)
    (t u : TransactionID) (ht : (s.threads t).phase.Holding = true)
    (hu : (s.threads u).phase.Holding = true)
    (ha : (s.threads t).frame.lockMap = (s.threads u).frame.lockMap)
    (hi : (s.threads t).frame.stripe = (s.threads u).frame.stripe) : t = u := by
  have hm := (reachable_inv h).mutex
  have hot := hm.owner_of_holding t ht
  rw [ha, hi, hm.owner_of_holding u hu, Option.some_inj] at hot
  exact hot.symm

theorem reachable_mutex_unique_sampleWait :
    let s := ((machine LockConfig.sample).run sampleWait (LockSystem.new LockConfig.sample 5)).2
    (s.threads 2).phase.Holding = true ∧ (2 : TransactionID) = 2 := by
  intro s
  have hh : (s.threads 2).phase.Holding = true := by decide
  exact ⟨hh, reachable_mutex_unique (Machine.reachable_run _ _) 2 2 hh hh rfl rfl⟩

/-- **Every lock has a holder, and an exclusive lock exactly one**, in every reachable
state. -/
theorem reachable_lock_holders (h : (machine cfg).Reachable (LockSystem.new cfg n) s)
    (a i : ℕ) (key : String) (l : LockInfo)
    (hl : ((s.heap a).lockMapStripes i).keys.lookup key = some l) :
    l.txnIds ≠ [] ∧ (l.exclusive = true → l.txnIds.length = 1) :=
  have hwf := (reachable_inv h).table a i key l hl
  ⟨hwf.txnIds_ne_nil, hwf.length_eq_one⟩

theorem reachable_lock_holders_sampleWait :
    let s := ((machine LockConfig.sample).run sampleWait (LockSystem.new LockConfig.sample 5)).2
    ((s.heap 0).lockMapStripes 0).keys.lookup "k" = some ⟨true, [1], 0⟩ ∧ [1] ≠ [] ∧
      (true = true → [1].length = 1) := by
  intro s
  have hl : ((s.heap 0).lockMapStripes 0).keys.lookup "k" = some ⟨true, [1], 0⟩ := by decide
  exact ⟨hl, reachable_lock_holders (Machine.reachable_run _ _) 0 0 "k" _ hl⟩

end Reachable

end LockSystem

end Autorocks
