import Autorocks.Lock.Runs

/-!
# Schedules of the point lock manager

`Lock/Runs` proves what holds in every reachable state.  This file follows particular
schedules of the threads, from any state in which they can start, to show what the code does
on them:

* `run_tryLockCalls_ok`, `run_unLockCalls` : a `TryLock` whose stripe mutex is free and whose
  `AcquireLocked` succeeds returns after three steps with the lock taken, and an `UnLock` with
  its stripe mutex free gives the lock up in one step; nothing else changes;
* `unLock_shared_lockCnt` : the first of several holders of a shared lock to give it up takes
  one off `lock_cnt` although the key stays locked, so that `lock_cnt` falls below the number of
  locked keys;
* `numLocked_gt_maxNumLocks` : hence, for every positive `max_num_locks_`, a run of calls one
  after another locks more keys than the limit allows.
-/

namespace Autorocks

/-- `LockConfig.sample` with a limit on the number of locks. -/
def LockConfig.sampleLimit (maxNumLocks : ℤ) : LockConfig := { LockConfig.sample with maxNumLocks }

/-- No expired lock is stolen, the clock reads 0, no wait ends by its timeout, and `try_lock`
does not fail. -/
def EnvAnswers.calm : EnvAnswers := ⟨fun _ => false, 0, false, false⟩

namespace LockSystem

variable (cfg : LockConfig)

/-- A whole `TryLock` of `t`: the call and the three steps of its thread when it does not
wait. -/
def tryLockCalls (t : TransactionID) (cfId : ℕ) (key : String) (exclusive : Bool)
    (opts : TxnLockOptions) (env : EnvAnswers) : List LockCall :=
  [.tryLock t cfId key exclusive opts, .step t env, .step t env, .step t env]

/-- A whole `UnLock` of `t`: the call and the step of its thread. -/
def unLockCalls (t : TransactionID) (cfId : ℕ) (key : String) (env : EnvAnswers) :
    List LockCall :=
  [.unLock t cfId key, .step t env]

/-- `s'` is `s` after a call of `t` that left the thread in `p` and the `LockMap`s as `heap`,
with the mutexes, the column families, the clock, the wait maps and the other threads as they
were. -/
structure CallEnded (s s' : LockSystem) (t : TransactionID) (p : Phase) (heap : ℕ → LockMap) :
    Prop where
  heap : s'.heap = heap
  owner : s'.owner = s.owner
  lockMaps : s'.lockMaps = s.lockMaps
  heapSize : s'.heapSize = s.heapSize
  now : s'.now = s.now
  wait : s'.wait = s.wait
  phase : (s'.threads t).phase = p
  others : ∀ u, u ≠ t → s'.threads u = s.threads u

/-! ### Calls that do not wait -/

section Calls

variable {cfg} {s : LockSystem} {t : TransactionID} {cfId a i : ℕ} {key : String}
  {env : EnvAnswers}

/-- A `TryLock` that finds its stripe mutex free and whose `AcquireLocked` succeeds takes the
mutex, loads `lock_cnt`, takes the lock and releases the mutex, and returns. -/
theorem run_tryLockCalls_ok (hfree : (s.threads t).phase.Free = true)
    (ha : s.lockMaps.lookup cfId = some a) (hi : (s.heap a).GetStripe cfg.hash key = i)
    (hown : s.owner a i = none) (henv : env.tryLockFails = false) {exclusive : Bool}
    {opts : TxnLockOptions} {r : AcquireLockedResult}
    (hr : AcquireLocked cfg.maxNumLocks (s.heap a).lockCnt ((s.heap a).lockMapStripes i).keys key
      s.now env.trySteal (.ofTxn t opts.expirationTime exclusive) 0 [] = r)
    (hok : r.status.ok = true) :
    CallEnded s ((machine cfg).run (tryLockCalls t cfId key exclusive opts env) s).2 t
      (.done r.status) (s.setKeys a i r.keys (if r.incr then 1 else 0)).heap := by
  simp only [tryLockCalls, Machine.run_cons, Machine.run_nil, machine, step]
  unfold LockSystem.TryLock
  simp only [hfree, ha, if_true, hi]
  simp only [stepThread, threads_setThread, Function.update_self, stepLockingMutex,
    owner_setThread, hown, henv, Bool.false_eq_true, and_false, if_false, stepAcquire,
    threads_setOwner, heap_setOwner, heap_setThread, stepLoaded, acquireLockedAt, keysAt,
    now_setThread, now_setOwner, hr, Frame.retry, hok, Bool.not_true, Bool.false_and]
  refine ⟨rfl, ?_, rfl, rfl, rfl, rfl, by simp, fun u hu => by simp [Function.update_of_ne hu]⟩
  -- the mutex is taken and released again
  funext a' i'
  simp only [owner_setThread, owner_setKeys, owner_setOwner]
  split_ifs <;> simp_all

/-- An `UnLock` that finds its stripe mutex free runs `UnLockKey` and returns. -/
theorem run_unLockCalls (hfree : (s.threads t).phase.Free = true)
    (ha : s.lockMaps.lookup cfId = some a) (hi : (s.heap a).GetStripe cfg.hash key = i)
    (hown : s.owner a i = none) {r : LockTable × Bool}
    (hr : UnLockKey cfg.maxNumLocks ((s.heap a).lockMapStripes i).keys t key = r) :
    CallEnded s ((machine cfg).run (unLockCalls t cfId key env) s).2 t .idle
      (s.setKeys a i r.1 (if r.2 then -1 else 0)).heap := by
  simp only [unLockCalls, Machine.run_cons, Machine.run_nil, machine, step]
  unfold LockSystem.UnLock
  simp only [hfree, ha, if_true, hi]
  simp only [stepThread, threads_setThread, Function.update_self, stepUnlocking,
    owner_setThread, hown, unLockKeyAt, keysAt, heap_setThread, hr]
  exact ⟨rfl, rfl, rfl, rfl, rfl, rfl, by simp, fun u hu => by simp [Function.update_of_ne hu]⟩

end Calls

/-! ### `lock_cnt` and the number of locks -/

section Count

variable {cfg} {s : LockSystem} {t : TransactionID} {cfId a i : ℕ} {key : String}
  {env : EnvAnswers}

/-- The `LockMap` at `a` after its stripe `i` is written. -/
theorem heap_setKeys_self (keys : LockTable) (d : ℤ) :
    (s.setKeys a i keys d).heap a =
      ⟨(s.heap a).numStripes, (s.heap a).lockCnt + d,
        Function.update (s.heap a).lockMapStripes i ⟨keys⟩⟩ := by
  rw [heap_setKeys, if_pos rfl]

@[simp]
theorem numStripes_setKeys_self (keys : LockTable) (d : ℤ) :
    ((s.setKeys a i keys d).heap a).numStripes = (s.heap a).numStripes := by
  rw [heap_setKeys_self]

@[simp]
theorem lockCnt_setKeys_self (keys : LockTable) (d : ℤ) :
    ((s.setKeys a i keys d).heap a).lockCnt = (s.heap a).lockCnt + d := by
  rw [heap_setKeys_self]

@[simp]
theorem keys_setKeys_self (keys : LockTable) (d : ℤ) :
    (((s.setKeys a i keys d).heap a).lockMapStripes i).keys = keys := by
  rw [heap_setKeys_self]
  simp

/-- The stripe of a key depends only on the number of stripes, which a write keeps. -/
@[simp]
theorem GetStripe_setKeys_self (keys : LockTable) (d : ℤ) (hash : String → UInt64)
    (k : String) :
    ((s.setKeys a i keys d).heap a).GetStripe hash k = (s.heap a).GetStripe hash k := by
  rw [LockMap.GetStripe, LockMap.GetStripe, numStripes_setKeys_self]

/-- Writing the table of stripe `i` changes the number of locked keys by the change of the
table's length. -/
theorem numLocked_setKeys (hlt : i < (s.heap a).numStripes) (keys : LockTable) (d : ℤ) :
    numLocked ((s.setKeys a i keys d).heap a) + ((s.heap a).lockMapStripes i).keys.keys.length =
      numLocked (s.heap a) + keys.keys.length := by
  rw [heap_setKeys_self]
  exact numLocked_update _ hlt keys _

theorem StripeInv.GetStripe_lt_numStripes (hs : StripeInv cfg s) (a : ℕ) (key : String) :
    (s.heap a).GetStripe cfg.hash key < (s.heap a).numStripes := by
  rw [hs.numStripes a]
  exact hs.GetStripe_lt cfg a key

/-- An `UnLock` by one of several holders of a lock, with its stripe mutex free, takes one off
`lock_cnt`. -/
theorem run_unLockCalls_shared (hfree : (s.threads t).phase.Free = true)
    (ha : s.lockMaps.lookup cfId = some a) (hi : (s.heap a).GetStripe cfg.hash key = i)
    (hown : s.owner a i = none) (hmax : 0 < cfg.maxNumLocks) {l : LockInfo}
    (hl : ((s.heap a).lockMapStripes i).keys.lookup key = some l) (ht : t ∈ l.txnIds)
    (hlen : l.txnIds.length ≠ 1) :
    CallEnded s ((machine cfg).run (unLockCalls t cfId key env) s).2 t .idle
      (s.setKeys a i (UnLockKey cfg.maxNumLocks ((s.heap a).lockMapStripes i).keys t key).1
        (-1)).heap := by
  have hc : CallEnded s ((machine cfg).run (unLockCalls t cfId key env) s).2 t .idle _ :=
    run_unLockCalls hfree ha hi hown rfl
  rwa [if_pos (UnLockKey_of_shared hl ht hlen hmax).1] at hc

/-- **The first holder of a shared lock to give it up uncounts it while the key stays
locked**: `UnLockKey` takes one off `lock_cnt` for every holder that leaves, but `AcquireLocked`
counts a shared lock once. -/
theorem unLock_shared_lockCnt (hs : StripeInv cfg s) (hfree : (s.threads t).phase.Free = true)
    (ha : s.lockMaps.lookup cfId = some a) (hi : (s.heap a).GetStripe cfg.hash key = i)
    (hown : s.owner a i = none) (hmax : 0 < cfg.maxNumLocks) {l : LockInfo}
    (hl : ((s.heap a).lockMapStripes i).keys.lookup key = some l) (ht : t ∈ l.txnIds)
    (hlen : l.txnIds.length ≠ 1) :
    let s' := ((machine cfg).run (unLockCalls t cfId key env) s).2
    (s'.heap a).lockCnt = (s.heap a).lockCnt - 1 ∧ numLocked (s'.heap a) = numLocked (s.heap a) ∧
      key ∈ ((s'.heap a).lockMapStripes i).keys := by
  intro s'
  obtain ⟨-, hlength, hmem⟩ := UnLockKey_of_shared hl ht hlen hmax
  have hc : CallEnded s s' t .idle _ := run_unLockCalls_shared hfree ha hi hown hmax hl ht hlen
  have hcount := numLocked_setKeys (hi ▸ hs.GetStripe_lt_numStripes a key)
    (UnLockKey cfg.maxNumLocks ((s.heap a).lockMapStripes i).keys t key).1 (-1)
  rw [hc.heap]
  refine ⟨?_, by omega, ?_⟩
  · rw [lockCnt_setKeys_self]
    exact (sub_eq_add_neg _ _).symm
  · rwa [keys_setKeys_self]

/-- Transactions 1 and 2 take a shared lock on `"k"`, one after the other. -/
def sampleShared : List LockCall :=
  .addColumnFamily 0 :: tryLockCalls 1 0 "k" false ⟨0, 0, false, 50⟩ EnvAnswers.calm ++
    tryLockCalls 2 0 "k" false ⟨0, 0, false, 50⟩ EnvAnswers.calm

theorem unLock_shared_lockCnt_sampleShared :
    let s := ((machine (LockConfig.sampleLimit 10)).run sampleShared
      (LockSystem.new (LockConfig.sampleLimit 10) 5)).2
    let s' := ((machine (LockConfig.sampleLimit 10)).run (unLockCalls 1 0 "k" EnvAnswers.calm) s).2
    (s'.heap 0).lockCnt = (s.heap 0).lockCnt - 1 ∧ numLocked (s'.heap 0) = numLocked (s.heap 0) ∧
      "k" ∈ ((s'.heap 0).lockMapStripes 0).keys :=
  unLock_shared_lockCnt (reachable_inv (Machine.reachable_run _ _)).stripes (by decide) (by decide)
    (by decide) (by decide) (by decide) (l := ⟨false, [1, 2], 0⟩) (by decide) (by decide)
    (by decide)

/-- Locking a free key of stripe `i` of the `LockMap` at `a` adds one to its locked keys. -/
theorem numLocked_setKeys_insert (hlt : i < (s.heap a).numStripes) {key : String}
    (hkey : ((s.heap a).lockMapStripes i).keys.lookup key = none) (l : LockInfo) (d : ℤ) :
    numLocked ((s.setKeys a i (((s.heap a).lockMapStripes i).keys.insert key l) d).heap a) =
      numLocked (s.heap a) + 1 := by
  have hcount := numLocked_setKeys hlt (((s.heap a).lockMapStripes i).keys.insert key l) d
  have hnot : key ∉ ((s.heap a).lockMapStripes i).keys := by
    rw [← AList.lookup_eq_none]
    exact hkey
  rw [AList.keys_insert, List.length_cons, List.erase_of_not_mem hnot] at hcount
  omega

/-- Writing one stripe's table with a table that agrees on the keys other than `key` leaves
the locks of those keys as they were, in every stripe. -/
theorem lookup_setKeys_of_ne {keys : LockTable}
    (h : ∀ k, k ≠ key → keys.lookup k = ((s.heap a).lockMapStripes i).keys.lookup k) (d : ℤ)
    (j : ℕ) {k : String} (hk : k ≠ key) :
    (((s.setKeys a i keys d).heap a).lockMapStripes j).keys.lookup k =
      ((s.heap a).lockMapStripes j).keys.lookup k := by
  rw [heap_setKeys_self]
  by_cases hj : j = i
  · subst hj
    simpa using h k hk
  · simp [Function.update_of_ne hj]

theorem lookup_setKeys_insert_of_ne {key' : String} (hne : key' ≠ key) (l : LockInfo)
    (d : ℤ) (j : ℕ) :
    (((s.setKeys a i (((s.heap a).lockMapStripes i).keys.insert key l) d).heap a).lockMapStripes
      j).keys.lookup key' = ((s.heap a).lockMapStripes j).keys.lookup key' :=
  lookup_setKeys_of_ne (fun _ hk => AList.lookup_insert_ne hk) d j hne

/-- A `TryLock` of a free key below the limit, with its stripe mutex free, locks the key and
counts it. -/
theorem run_tryLockCalls_free (hfree : (s.threads t).phase.Free = true)
    (ha : s.lockMaps.lookup cfId = some a) (hi : (s.heap a).GetStripe cfg.hash key = i)
    (hown : s.owner a i = none) (hkey : ((s.heap a).lockMapStripes i).keys.lookup key = none)
    (hlim : ¬ (0 < cfg.maxNumLocks ∧ cfg.maxNumLocks ≤ (s.heap a).lockCnt))
    (hmax : cfg.maxNumLocks ≠ 0) (exclusive : Bool) (opts : TxnLockOptions) :
    CallEnded s ((machine cfg).run (tryLockCalls t cfId key exclusive opts EnvAnswers.calm) s).2
      t (.done .OK) (s.setKeys a i (((s.heap a).lockMapStripes i).keys.insert key
        (.ofTxn t opts.expirationTime exclusive)) 1).heap := by
  have hc : CallEnded s ((machine cfg).run (tryLockCalls t cfId key exclusive opts
      EnvAnswers.calm) s).2 t _ _ :=
    run_tryLockCalls_ok hfree ha hi hown rfl (AcquireLocked_of_lookup_none hkey hlim) rfl
  simpa [hmax] using hc

/-- `t` locks the keys `ks`, one `TryLock` after the other, in a `LockMap` whose mutexes are all
free, none of whose keys is locked yet, and whose count stays below the limit: each lock is
counted, and each is a key more. -/
theorem run_lockKeys (opts : TxnLockOptions) (hmax : cfg.maxNumLocks ≠ 0) (ks : List String)
    (hnd : ks.Nodup) (hfree : (s.threads t).phase.Free = true)
    (ha : s.lockMaps.lookup cfId = some a) (hown : ∀ i, s.owner a i = none)
    (hkeys : ∀ k ∈ ks,
      ((s.heap a).lockMapStripes ((s.heap a).GetStripe cfg.hash k)).keys.lookup k = none)
    (hstripes : ∀ k, (s.heap a).GetStripe cfg.hash k < (s.heap a).numStripes)
    (hlim : 0 < cfg.maxNumLocks → (s.heap a).lockCnt + ks.length ≤ cfg.maxNumLocks) :
    (((machine cfg).run (ks.flatMap fun k => tryLockCalls t cfId k true opts EnvAnswers.calm)
        s).2.heap a).lockCnt = (s.heap a).lockCnt + ks.length ∧
      numLocked (((machine cfg).run (ks.flatMap fun k =>
        tryLockCalls t cfId k true opts EnvAnswers.calm) s).2.heap a) =
        numLocked (s.heap a) + ks.length := by
  -- the induction carries every hypothesis to the state after the first lock
  induction ks generalizing s with
  | nil => simp
  | cons k ks ih =>
    obtain ⟨hk, hnd⟩ := List.nodup_cons.1 hnd
    have hc := run_tryLockCalls_free (i := (s.heap a).GetStripe cfg.hash k) hfree ha rfl
      (hown _) (hkeys k (List.mem_cons_self ..)) (by
        intro h
        have := hlim h.1
        simp only [List.length_cons] at this
        omega) hmax true opts
    set s₁ := ((machine cfg).run (tryLockCalls t cfId k true opts EnvAnswers.calm) s).2
    have hheap : s₁.heap a = _ := congrFun hc.heap a
    obtain ⟨ih₁, ih₂⟩ := ih hnd (s := s₁) (by rw [hc.phase]; rfl) (by rw [hc.lockMaps]; exact ha)
      (fun i => by rw [hc.owner]; exact hown i)
      (fun k' hk' => by
        rw [hheap, GetStripe_setKeys_self,
          lookup_setKeys_insert_of_ne (by rintro rfl; exact hk hk')]
        exact hkeys k' (List.mem_cons_of_mem _ hk'))
      (fun k' => by
        rw [hheap, GetStripe_setKeys_self, numStripes_setKeys_self]
        exact hstripes k')
      (fun h => by
        have := hlim h
        rw [hheap, lockCnt_setKeys_self]
        simp only [List.length_cons] at this
        omega)
    have hcnt : numLocked (s₁.heap a) = numLocked (s.heap a) + 1 := by
      rw [hheap]
      exact numLocked_setKeys_insert (hstripes k) (hkeys k (List.mem_cons_self ..)) _ 1
    rw [List.flatMap_cons, Machine.run_append]
    refine ⟨?_, ?_⟩
    · rw [ih₁, hheap, lockCnt_setKeys_self]
      simp only [List.length_cons]
      push_cast
      ring
    · rw [ih₂, hcnt, List.length_cons]
      ring

/-- A new manager with the `LockMap` of column family 0, at address 0. -/
theorem AddColumnFamily_new (cfg : LockConfig) (n : ℕ) :
    ((LockSystem.new cfg n).AddColumnFamily cfg 0).lockMaps.lookup 0 = some 0 ∧
      ((LockSystem.new cfg n).AddColumnFamily cfg 0).heap 0 = LockMap.new cfg.defaultNumStripes ∧
      (∀ a i, ((LockSystem.new cfg n).AddColumnFamily cfg 0).owner a i = none) ∧
      ∀ u, ((LockSystem.new cfg n).AddColumnFamily cfg 0).threads u = ⟨.idle, Frame.empty⟩ := by
  refine ⟨rfl, ?_⟩
  simp [LockSystem.AddColumnFamily, LockSystem.new]

theorem numLocked_new (numStripes : ℕ) : numLocked (LockMap.new numStripes) = 0 := by
  simp [numLocked, LockMap.new]

/-- Transactions 1 and 2 share a lock on `key`; transaction 1 gives it up; then transaction 3
locks each key of `ks`, one after the other. -/
def limitRun (key : String) (ks : List String) (opts : TxnLockOptions) : List LockCall :=
  .addColumnFamily 0 :: (tryLockCalls 1 0 key false opts EnvAnswers.calm ++
    tryLockCalls 2 0 key false opts EnvAnswers.calm ++ unLockCalls 1 0 key EnvAnswers.calm ++
    ks.flatMap fun k => tryLockCalls 3 0 k true opts EnvAnswers.calm)

/-- Giving a lock to a key that has one already keeps the number of locked keys. -/
theorem numLocked_setKeys_insert_of_mem (hlt : i < (s.heap a).numStripes) {key : String}
    (hkey : key ∈ ((s.heap a).lockMapStripes i).keys) (l : LockInfo) (d : ℤ) :
    numLocked ((s.setKeys a i (((s.heap a).lockMapStripes i).keys.insert key l) d).heap a) =
      numLocked (s.heap a) := by
  have hcount := numLocked_setKeys hlt (((s.heap a).lockMapStripes i).keys.insert key l) d
  have hpos := List.length_pos_of_mem (AList.mem_keys.1 hkey)
  rw [AList.keys_insert, List.length_cons, List.length_erase_of_mem (AList.mem_keys.1 hkey)]
    at hcount
  omega

/-- The start of `limitRun`: transactions 1 and 2 share a lock on `key`, and transaction 1
gives it up.  `key` is still locked, by 2, but `lock_cnt` is back to 0; no other key is
locked, no mutex is held, and transaction 3 is in no call. -/
theorem run_limitPrefix (hmax : 0 < cfg.maxNumLocks) (n : ℕ) (key : String)
    (opts : TxnLockOptions) :
    let s₁ := (LockSystem.new cfg n).AddColumnFamily cfg 0
    let s₂ := ((machine cfg).run (tryLockCalls 1 0 key false opts EnvAnswers.calm) s₁).2
    let s₃ := ((machine cfg).run (tryLockCalls 2 0 key false opts EnvAnswers.calm) s₂).2
    let s₄ := ((machine cfg).run (unLockCalls 1 0 key EnvAnswers.calm) s₃).2
    (s₄.threads 3).phase.Free = true ∧ s₄.lockMaps.lookup 0 = some 0 ∧
      (∀ i, s₄.owner 0 i = none) ∧
      (∀ j k, k ≠ key → ((s₄.heap 0).lockMapStripes j).keys.lookup k = none) ∧
      (s₄.heap 0).numStripes = cfg.defaultNumStripes ∧ (s₄.heap 0).lockCnt = 0 ∧
      numLocked (s₄.heap 0) = 1 := by
  intro s₁ s₂ s₃ s₄
  obtain ⟨ha₁, hh₁, ho₁, ht₁⟩ := AddColumnFamily_new cfg n
  have hn₁ : (s₁.heap 0).numStripes = cfg.defaultNumStripes := by rw [hh₁]; rfl
  have hnone₁ : ∀ j k, ((s₁.heap 0).lockMapStripes j).keys.lookup k = none := by
    intro j k
    rw [hh₁]
    rfl
  set i := (s₁.heap 0).GetStripe cfg.hash key
  have hlt : i < (s₁.heap 0).numStripes := FastRange64_lt _ (hn₁ ▸ cfg.numStripes_pos)
  -- transaction 1 locks the free key, which is counted
  have hc₁ : CallEnded s₁ s₂ 1 (.done .OK) _ := run_tryLockCalls_free (by rw [ht₁]; rfl) ha₁ rfl
    (ho₁ 0 i) (hnone₁ i key) (by rw [hh₁]; simp [LockMap.new]) hmax.ne' false opts
  have hh₂ := congrFun hc₁.heap 0
  -- transaction 2 shares it, which is not counted
  have hc₂ : CallEnded s₂ s₃ 2 (.done .OK) _ := run_tryLockCalls_ok (i := i)
    (by rw [hc₁.others 2 (by decide), ht₁]; rfl) (by rw [hc₁.lockMaps]; exact ha₁)
    (by rw [hh₂, GetStripe_setKeys_self]) (by rw [hc₁.owner]; exact ho₁ 0 i) rfl
    (AcquireLocked_of_shared (by rw [hh₂, keys_setKeys_self, AList.lookup_insert]) rfl) rfl
  have hh₃ := congrFun hc₂.heap 0
  have hlt₃ : i < (s₃.heap 0).numStripes := by
    rw [hh₃, numStripes_setKeys_self, hh₂, numStripes_setKeys_self]
    exact hlt
  have hk₃ : ((s₃.heap 0).lockMapStripes i).keys.lookup key =
      some ⟨false, [1, 2], max opts.expirationTime opts.expirationTime⟩ := by
    rw [hh₃, keys_setKeys_self, AList.lookup_insert]
    rfl
  -- transaction 1 gives it up: one off the count, though 2 still holds it
  have hc₃ : CallEnded s₃ s₄ 1 .idle _ := run_unLockCalls_shared (i := i)
    (by rw [hc₂.others 1 (by decide), hc₁.phase]; rfl)
    (by rw [hc₂.lockMaps, hc₁.lockMaps]; exact ha₁)
    (by rw [hh₃, GetStripe_setKeys_self, hh₂, GetStripe_setKeys_self])
    (by rw [hc₂.owner, hc₁.owner]; exact ho₁ 0 i) hmax hk₃ (by simp) (by simp)
  have hh₄ := congrFun hc₃.heap 0
  have hl₂ : numLocked (s₂.heap 0) = 1 := by
    rw [hh₂, numLocked_setKeys_insert hlt (hnone₁ i key), hh₁, numLocked_new]
  have hl₃ : numLocked (s₃.heap 0) = 1 := by
    rw [hh₃, numLocked_setKeys_insert_of_mem (by rw [hh₂, numStripes_setKeys_self]; exact hlt)
      (by rw [hh₂, keys_setKeys_self]; exact (AList.mem_insert _).2 (Or.inl rfl)), hl₂]
  refine ⟨?_, ?_, ?_, ?_, ?_, ?_, ?_⟩
  · rw [hc₃.others 3 (by decide), hc₂.others 3 (by decide), hc₁.others 3 (by decide), ht₁]
    rfl
  · rw [hc₃.lockMaps, hc₂.lockMaps, hc₁.lockMaps]
    exact ha₁
  · intro j
    rw [hc₃.owner, hc₂.owner, hc₁.owner]
    exact ho₁ 0 j
  · intro j k hk
    rw [hh₄, lookup_setKeys_of_ne (fun _ hk' => lookup_UnLockKey_of_ne hk') _ _ hk, hh₃,
      lookup_setKeys_insert_of_ne hk, hh₂, lookup_setKeys_insert_of_ne hk]
    exact hnone₁ j k
  · rw [hh₄, numStripes_setKeys_self, hh₃, numStripes_setKeys_self, hh₂, numStripes_setKeys_self,
      hn₁]
  · rw [hh₄, lockCnt_setKeys_self, hh₃, lockCnt_setKeys_self, hh₂, lockCnt_setKeys_self, hh₁]
    simp [LockMap.new]
  · have hcount := numLocked_setKeys hlt₃
      (UnLockKey cfg.maxNumLocks ((s₃.heap 0).lockMapStripes i).keys 1 key).1 (-1)
    have hlen := (UnLockKey_of_shared hk₃ (show 1 ∈ [1, 2] by simp) (by simp) hmax).2.1
    rw [hh₄]
    omega

/-- **A `LockMap` ends up with more locked keys than `max_num_locks_`**, for every positive
limit: after the shared lock of `limitRun` leaves `lock_cnt` one below the number of locked
keys, transaction 3 locks `max_num_locks_` more keys, each `TryLock` passing the limit check,
and `lock_cnt` reaches the limit only when one key more than it is locked. -/
theorem numLocked_gt_maxNumLocks (hmax : 0 < cfg.maxNumLocks) (n : ℕ) {key : String}
    {ks : List String} (hnd : (key :: ks).Nodup) (hlen : (ks.length : ℤ) = cfg.maxNumLocks)
    (opts : TxnLockOptions) :
    let s := ((machine cfg).run (limitRun key ks opts) (LockSystem.new cfg n)).2
    (s.heap 0).lockCnt = cfg.maxNumLocks ∧ cfg.maxNumLocks < numLocked (s.heap 0) := by
  intro s
  obtain ⟨hk, hnd⟩ := List.nodup_cons.1 hnd
  obtain ⟨hfree, ha, hown, hkeys, hns, hcnt, hnum⟩ := run_limitPrefix hmax n key opts
  -- the prefix of three calls is the state `run_limitPrefix` describes
  have hs : s = ((machine cfg).run (ks.flatMap fun k => tryLockCalls 3 0 k true opts
      EnvAnswers.calm) ((machine cfg).run (unLockCalls 1 0 key EnvAnswers.calm)
      ((machine cfg).run (tryLockCalls 2 0 key false opts EnvAnswers.calm)
      ((machine cfg).run (tryLockCalls 1 0 key false opts EnvAnswers.calm)
      ((LockSystem.new cfg n).AddColumnFamily cfg 0)).2).2).2).2 := by
    simp only [s, limitRun, Machine.run_cons, Machine.run_append]
    rfl
  obtain ⟨hcnt', hnum'⟩ := run_lockKeys opts hmax.ne' ks hnd hfree ha hown
    (fun k hk' => hkeys _ k (by rintro rfl; exact hk hk'))
    (fun k => FastRange64_lt _ (hns ▸ cfg.numStripes_pos)) (fun _ => by rw [hcnt]; omega)
  rw [hs, hcnt', hnum', hcnt, hnum]
  constructor <;> push_cast <;> omega

theorem numLocked_gt_maxNumLocks_sampleLimit :
    let s := ((machine (LockConfig.sampleLimit 2)).run (limitRun "k" ["a", "b"] ⟨0, 0, false, 50⟩)
      (LockSystem.new (LockConfig.sampleLimit 2) 5)).2
    (s.heap 0).lockCnt = 2 ∧ (2 : ℤ) < numLocked (s.heap 0) :=
  @numLocked_gt_maxNumLocks (LockConfig.sampleLimit 2) (by decide) 5 "k" ["a", "b"] (by decide)
    (by decide) _

end Count

end LockSystem

end Autorocks
