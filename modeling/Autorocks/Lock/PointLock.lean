import Autorocks.Options.Basic
import Autorocks.Lock.Deadlock

/-!
# The lock table of `PointLockManager`

A `TransactionDB` locks keys through its `PointLockManager`
(`utilities/transactions/lock/point/point_lock_manager.cc`).  Each column family has a
`LockMap` of `num_stripes_` stripes; a key lives in the stripe `GetStripe(key)`, whose table
`keys` maps it to a `LockInfo`: shared or exclusive, the transactions holding it, and an
expiration time.  With the stripe's mutex held, `AcquireLocked` grants a lock or says why not,
and `UnLockKey` gives one up.  The stripe mutex, the waits and the threads are in
`Lock/Protocol`; this file has what one call does to the table.

* A lock is held by somebody, and by one transaction when it is exclusive (`LockInfo.WF`, the
  assertion of `AcquireLocked`); both calls keep every lock of a table so
  (`LockTable.WF.AcquireLocked`, `LockTable.WF.UnLockKey`).
* What `AcquireLocked` grants is held as asked for (`AcquireLocked_ok`); when it refuses, the
  table is unchanged (`keys_AcquireLocked_of_not_ok`).
* `lock_cnt`, with which `AcquireLocked` enforces `max_num_locks_`, is counted up once for every
  new key and counted down once for every transaction that gives a lock up, also one of several
  holders of a shared lock, which leaves the key locked (`length_UnLockKey`, `decr_UnLockKey`).
  So the count falls behind the number of locked keys as soon as shared locks are given up.
-/

namespace Autorocks

namespace Status

/-- `Status::TimedOut(msg)`. -/
def TimedOut (subcode : SubCode) : Status := ⟨.kTimedOut, subcode, none⟩

/-- `Status::Busy(msg)`. -/
def Busy (subcode : SubCode) : Status := ⟨.kBusy, subcode, none⟩

/-- `Status::IsTimedOut()`. -/
def IsTimedOut (s : Status) : Bool := s.code == .kTimedOut

@[simp] theorem ok_TimedOut (sc : SubCode) : (TimedOut sc).ok = false := rfl
@[simp] theorem ok_Busy (sc : SubCode) : (Busy sc).ok = false := rfl
@[simp] theorem IsTimedOut_TimedOut (sc : SubCode) : (TimedOut sc).IsTimedOut = true := rfl
@[simp] theorem IsTimedOut_Busy (sc : SubCode) : (Busy sc).IsTimedOut = false := rfl
@[simp] theorem IsTimedOut_OK : OK.IsTimedOut = false := rfl

end Status

/-- `LockInfo`: how a key is locked, by which transactions, and until when. -/
structure LockInfo where
  exclusive : Bool
  txnIds : List TransactionID
  /-- `expiration_time`: the lock is not valid after this time, in microseconds; 0 for
  never. -/
  expirationTime : ℕ
  deriving DecidableEq, Repr

/-- `LockInfo(id, time, ex)`: the lock a transaction asks for. -/
def LockInfo.ofTxn (id : TransactionID) (time : ℕ) (ex : Bool) : LockInfo := ⟨ex, [id], time⟩

/-- `UnorderedMap<std::string, LockInfo>`: only its lookups are observed, never its order. -/
abbrev LockTable := AList fun _ : String => LockInfo

/-- `LockMapStripe`: its table `keys`.  Its mutex and condition variable are in
`Lock/Protocol`. -/
structure LockMapStripe where
  keys : LockTable

/-- `LockMap`: `num_stripes_` stripes and `lock_cnt`, the count of locked keys that is kept
when `max_num_locks_` is positive. -/
structure LockMap where
  numStripes : ℕ
  lockCnt : ℤ
  lockMapStripes : ℕ → LockMapStripe

/-- `LockMap(num_stripes, factory)`: empty stripes, and a count of 0. -/
def LockMap.new (numStripes : ℕ) : LockMap := ⟨numStripes, 0, fun _ => ⟨∅⟩⟩

/-- `FastRange64(hash, range)`: the upper 64 bits of the 128-bit product, a number below
`range`. -/
def FastRange64 (hash : UInt64) (range : ℕ) : ℕ := hash.toNat * range / 2 ^ 64

theorem FastRange64_lt (hash : UInt64) {range : ℕ} (h : 0 < range) : FastRange64 hash range < range :=
  Nat.div_lt_of_lt_mul (Nat.mul_lt_mul_of_pos_right (UInt64.toNat_lt hash) h)

/-- `LockMap::GetStripe(key)`, with `hash` for `GetSliceNPHash64`. -/
def LockMap.GetStripe (hash : String → UInt64) (m : LockMap) (key : String) : ℕ :=
  FastRange64 (hash key) m.numStripes

/-! ### Taking a lock -/

/-- `IsLockExpired(txn_id, lock_info, env, expire_time)` at the time `now` (`NowMicros`):
whether `txnId` may take the lock, and `*expire_time` after it, `expireTime` before.
`trySteal id` is the answer of `TryStealingExpiredTransactionLocks(id)`. -/
def IsLockExpired (txnId : TransactionID) (lockInfo : LockInfo) (now : ℕ)
    (trySteal : TransactionID → Bool) (expireTime : ℕ) : Bool × ℕ :=
  if lockInfo.expirationTime = 0 then (false, 0)
  else if lockInfo.expirationTime ≤ now then
    -- the locks of every other holder must be stolen; the loop stops at the first that
    -- cannot be, and then returns "not expired" with no expiration time
    if lockInfo.txnIds.all fun id => id == txnId || trySteal id then (true, expireTime)
    else (false, 0)
  else (false, lockInfo.expirationTime)

/-- What `AcquireLocked` gives back: its status, the stripe's table after it, whether it
counted a new lock (`lock_cnt++`), and `*expire_time` and `*txn_ids`, which it writes on some
paths only. -/
structure AcquireLockedResult where
  status : Status
  keys : LockTable
  incr : Bool
  expireTime : ℕ
  txnIds : List TransactionID

/-- `AcquireLocked(lock_map, stripe, key, env, txn_lock_info, expire_time, txn_ids)`, with the
stripe mutex held, for `max_num_locks_` = `maxNumLocks`: `lockCnt` is what its
`lock_cnt.load` reads, `now` what `NowMicros` gives, and `expireTime`, `txnIds` the values of
`*expire_time` and `*txn_ids` before the call. -/
def AcquireLocked (maxNumLocks lockCnt : ℤ) (keys : LockTable) (key : String) (now : ℕ)
    (trySteal : TransactionID → Bool) (txnLockInfo : LockInfo) (expireTime : ℕ)
    (txnIds : List TransactionID) : AcquireLockedResult :=
  match keys.lookup key with
  | some lockInfo =>
    if lockInfo.exclusive || txnLockInfo.exclusive then
      -- `txn_lock_info.txn_ids[0]` is the request's only entry
      if lockInfo.txnIds = [txnLockInfo.txnIds.headD 0] then
        -- "The list contains one txn and we're it, so just take it."
        ⟨.OK, keys.insert key { lockInfo with
            exclusive := txnLockInfo.exclusive
            expirationTime := txnLockInfo.expirationTime }, false, expireTime, txnIds⟩
      else
        match IsLockExpired (txnLockInfo.txnIds.headD 0) lockInfo now trySteal expireTime with
        | (true, expireTime) =>
          -- "lock is expired, can steal it"
          ⟨.OK, keys.insert key { lockInfo with
              txnIds := txnLockInfo.txnIds
              exclusive := txnLockInfo.exclusive
              expirationTime := txnLockInfo.expirationTime }, false, expireTime, txnIds⟩
        | (false, expireTime) =>
          ⟨.TimedOut .kLockTimeout, keys, false, expireTime, lockInfo.txnIds⟩
    else
      -- "We are requesting shared access to a shared lock, so just grant it."
      ⟨.OK, keys.insert key { lockInfo with
          txnIds := lockInfo.txnIds ++ [txnLockInfo.txnIds.headD 0]
          expirationTime := max lockInfo.expirationTime txnLockInfo.expirationTime },
        false, expireTime, txnIds⟩
  | none =>
    if 0 < maxNumLocks ∧ maxNumLocks ≤ lockCnt then
      ⟨.Busy .kLockLimit, keys, false, expireTime, txnIds⟩
    else
      -- "Maintain lock count if there is a limit on the number of locks"
      ⟨.OK, keys.insert key txnLockInfo, decide (maxNumLocks ≠ 0), expireTime, txnIds⟩

/-! ### Giving a lock up -/

/-- `UnLockKey(txn, key, stripe, lock_map, env)` for the transaction `txnId`, with the stripe
mutex held: the stripe's table after it, and whether it counted a lock less
(`lock_cnt--`).  Of several holders of a shared lock, the transaction's entry is overwritten
with the last one, which is then popped. -/
def UnLockKey (maxNumLocks : ℤ) (keys : LockTable) (txnId : TransactionID) (key : String) :
    LockTable × Bool :=
  match keys.lookup key with
  | none => (keys, false)
  | some lockInfo =>
    if txnId ∈ lockInfo.txnIds then
      let keys :=
        if lockInfo.txnIds.length = 1 then keys.erase key
        else keys.insert key { lockInfo with
          txnIds := lockInfo.txnIds.swapRemove (lockInfo.txnIds.idxOf txnId) }
      (keys, decide (0 < maxNumLocks))
    else (keys, false)

/-! ### Well-formed locks -/

/-- A lock as `AcquireLocked` asserts it to be: held by somebody, and by one transaction when
exclusive. -/
structure LockInfo.WF (l : LockInfo) : Prop where
  txnIds_ne_nil : l.txnIds ≠ []
  length_eq_one : l.exclusive = true → l.txnIds.length = 1

/-- Every lock of the table is well formed. -/
def LockTable.WF (keys : LockTable) : Prop :=
  ∀ key l, keys.lookup key = some l → l.WF

theorem LockInfo.wf_ofTxn (id : TransactionID) (time : ℕ) (ex : Bool) :
    (LockInfo.ofTxn id time ex).WF :=
  ⟨List.cons_ne_nil _ _, fun _ => rfl⟩

theorem LockTable.wf_empty : LockTable.WF ∅ := by
  intro key l h
  simp at h

theorem LockTable.WF.insert {keys : LockTable} (h : keys.WF) (key : String) {l : LockInfo}
    (hl : l.WF) : LockTable.WF (keys.insert key l) := by
  intro k l' hk
  by_cases hkey : k = key
  · subst hkey
    rw [AList.lookup_insert, Option.some_inj] at hk
    exact hk ▸ hl
  · rw [AList.lookup_insert_ne hkey] at hk
    exact h k l' hk

theorem LockTable.WF.erase {keys : LockTable} (h : keys.WF) (key : String) :
    LockTable.WF (keys.erase key) := by
  intro k l hk
  by_cases hkey : k = key
  · subst hkey
    simp at hk
  · rw [AList.lookup_erase_ne hkey] at hk
    exact h k l hk

section AcquireLocked

variable {maxNumLocks lockCnt : ℤ} {keys : LockTable} {key : String} {now : ℕ}
  {trySteal : TransactionID → Bool} {id : TransactionID} {time : ℕ} {ex : Bool}
  {expireTime : ℕ} {txnIds : List TransactionID}

/-- What `AcquireLocked` can do with the request of the transaction `id`: take again a lock it
holds alone, steal an expired lock, give up with the holders to wait for, share a shared
lock, refuse a new lock at the limit, or grant a new lock. -/
theorem AcquireLocked_cases (maxNumLocks lockCnt : ℤ) (keys : LockTable) (key : String)
    (now : ℕ) (trySteal : TransactionID → Bool) (id : TransactionID) (time : ℕ) (ex : Bool)
    (expireTime : ℕ) (txnIds : List TransactionID) :
    (∃ l, keys.lookup key = some l ∧ (l.exclusive || ex) = true ∧ l.txnIds = [id] ∧
      AcquireLocked maxNumLocks lockCnt keys key now trySteal (.ofTxn id time ex) expireTime
        txnIds = ⟨.OK, keys.insert key { l with exclusive := ex, expirationTime := time },
          false, expireTime, txnIds⟩) ∨
    (∃ l e, keys.lookup key = some l ∧ (l.exclusive || ex) = true ∧ l.txnIds ≠ [id] ∧
      IsLockExpired id l now trySteal expireTime = (true, e) ∧
      AcquireLocked maxNumLocks lockCnt keys key now trySteal (.ofTxn id time ex) expireTime
        txnIds = ⟨.OK, keys.insert key (.ofTxn id time ex), false, e, txnIds⟩) ∨
    (∃ l e, keys.lookup key = some l ∧ (l.exclusive || ex) = true ∧ l.txnIds ≠ [id] ∧
      IsLockExpired id l now trySteal expireTime = (false, e) ∧
      AcquireLocked maxNumLocks lockCnt keys key now trySteal (.ofTxn id time ex) expireTime
        txnIds = ⟨.TimedOut .kLockTimeout, keys, false, e, l.txnIds⟩) ∨
    (∃ l, keys.lookup key = some l ∧ l.exclusive = false ∧ ex = false ∧
      AcquireLocked maxNumLocks lockCnt keys key now trySteal (.ofTxn id time ex) expireTime
        txnIds = ⟨.OK, keys.insert key { l with
          txnIds := l.txnIds ++ [id], expirationTime := max l.expirationTime time },
          false, expireTime, txnIds⟩) ∨
    (keys.lookup key = none ∧ 0 < maxNumLocks ∧ maxNumLocks ≤ lockCnt ∧
      AcquireLocked maxNumLocks lockCnt keys key now trySteal (.ofTxn id time ex) expireTime
        txnIds = ⟨.Busy .kLockLimit, keys, false, expireTime, txnIds⟩) ∨
    (keys.lookup key = none ∧ ¬ (0 < maxNumLocks ∧ maxNumLocks ≤ lockCnt) ∧
      AcquireLocked maxNumLocks lockCnt keys key now trySteal (.ofTxn id time ex) expireTime
        txnIds = ⟨.OK, keys.insert key (.ofTxn id time ex), decide (maxNumLocks ≠ 0), expireTime,
          txnIds⟩) := by
  unfold Autorocks.AcquireLocked
  cases hl : keys.lookup key with
  | some l =>
    simp only [LockInfo.ofTxn, List.headD_cons]
    by_cases hex : (l.exclusive || ex) = true
    · by_cases hsole : l.txnIds = [id]
      · exact .inl ⟨l, rfl, hex, hsole, by simp [hex, hsole]⟩
      · cases hexp : IsLockExpired id l now trySteal expireTime with
        | mk expired e =>
          cases expired
          · exact .inr (.inr (.inl ⟨l, e, rfl, hex, hsole, hexp, by simp [hex, hsole]⟩))
          · exact .inr (.inl ⟨l, e, rfl, hex, hsole, hexp, by simp [hex, hsole]⟩)
    · simp only [Bool.or_eq_true, not_or, Bool.not_eq_true] at hex
      exact .inr (.inr (.inr (.inl ⟨l, rfl, hex.1, hex.2, by simp [hex]⟩)))
  | none =>
    by_cases hlim : 0 < maxNumLocks ∧ maxNumLocks ≤ lockCnt
    · exact .inr (.inr (.inr (.inr (.inl ⟨rfl, hlim.1, hlim.2, by simp [hlim]⟩))))
    · exact .inr (.inr (.inr (.inr (.inr ⟨rfl, hlim, by simp only [if_neg hlim]⟩))))

/-- **`AcquireLocked` keeps every lock well formed.** -/
theorem LockTable.WF.AcquireLocked (h : keys.WF) :
    LockTable.WF (AcquireLocked maxNumLocks lockCnt keys key now trySteal (.ofTxn id time ex)
      expireTime txnIds).keys := by
  rcases AcquireLocked_cases maxNumLocks lockCnt keys key now trySteal id time ex expireTime
    txnIds with ⟨l, -, -, hsole, hr⟩ | ⟨l, e, -, -, -, -, hr⟩ | ⟨l, e, -, -, -, -, hr⟩ |
    ⟨l, -, hl, -, hr⟩ | ⟨-, -, -, hr⟩ | ⟨-, -, hr⟩ <;> rw [hr]
  · -- the sole holder, perhaps now exclusive
    exact h.insert key ⟨by simp [hsole], fun _ => by simp [hsole]⟩
  · exact h.insert key (LockInfo.wf_ofTxn id time ex)
  · exact h
  · -- one holder more of a shared lock
    exact h.insert key ⟨by simp, fun hx => by simp [hl] at hx⟩
  · exact h
  · exact h.insert key (LockInfo.wf_ofTxn id time ex)

/-- The other keys of the stripe keep their locks. -/
theorem lookup_AcquireLocked_of_ne {key' : String} (hne : key' ≠ key) :
    (AcquireLocked maxNumLocks lockCnt keys key now trySteal (.ofTxn id time ex) expireTime
      txnIds).keys.lookup key' = keys.lookup key' := by
  rcases AcquireLocked_cases maxNumLocks lockCnt keys key now trySteal id time ex expireTime
    txnIds with ⟨l, -, -, -, hr⟩ | ⟨l, e, -, -, -, -, hr⟩ | ⟨l, e, -, -, -, -, hr⟩ |
    ⟨l, -, -, -, hr⟩ | ⟨-, -, -, hr⟩ | ⟨-, -, hr⟩ <;> rw [hr]
  all_goals first | rfl | exact AList.lookup_insert_ne hne

/-- A free key below the limit is locked for the request and counted. -/
theorem AcquireLocked_of_lookup_none (h : keys.lookup key = none)
    (hlim : ¬ (0 < maxNumLocks ∧ maxNumLocks ≤ lockCnt)) :
    AcquireLocked maxNumLocks lockCnt keys key now trySteal (.ofTxn id time ex) expireTime
      txnIds = ⟨.OK, keys.insert key (.ofTxn id time ex), decide (maxNumLocks ≠ 0), expireTime,
        txnIds⟩ := by
  unfold Autorocks.AcquireLocked
  rw [h, if_neg hlim]

/-- A shared request on a shared lock joins its holders, and is not counted. -/
theorem AcquireLocked_of_shared {l : LockInfo} (h : keys.lookup key = some l)
    (hl : l.exclusive = false) :
    AcquireLocked maxNumLocks lockCnt keys key now trySteal (.ofTxn id time false) expireTime
      txnIds = ⟨.OK, keys.insert key { l with
        txnIds := l.txnIds ++ [id], expirationTime := max l.expirationTime time },
        false, expireTime, txnIds⟩ := by
  unfold Autorocks.AcquireLocked
  simp [h, hl, LockInfo.ofTxn]

/-- **What `AcquireLocked` grants is held as asked for**: the transaction is among the
holders, and the lock is exclusive if it asked for that. -/
theorem AcquireLocked_ok
    (h : (AcquireLocked maxNumLocks lockCnt keys key now trySteal (.ofTxn id time ex) expireTime
      txnIds).status.ok = true) :
    ∃ l, (AcquireLocked maxNumLocks lockCnt keys key now trySteal (.ofTxn id time ex)
        expireTime txnIds).keys.lookup key = some l ∧
      id ∈ l.txnIds ∧ (ex = true → l.exclusive = true) := by
  rcases AcquireLocked_cases maxNumLocks lockCnt keys key now trySteal id time ex expireTime
    txnIds with ⟨l, -, -, hsole, hr⟩ | ⟨l, e, -, -, -, -, hr⟩ | ⟨l, e, -, -, -, -, hr⟩ |
    ⟨l, -, -, hex, hr⟩ | ⟨-, -, -, hr⟩ | ⟨-, -, hr⟩ <;> rw [hr] at h ⊢
  · exact ⟨_, AList.lookup_insert _, by simp [hsole], fun hx => hx⟩
  · exact ⟨_, AList.lookup_insert _, by simp [LockInfo.ofTxn], fun hx => hx⟩
  · simp at h
  · exact ⟨_, AList.lookup_insert _, by simp, fun hx => by simp [hex] at hx⟩
  · simp at h
  · exact ⟨_, AList.lookup_insert _, by simp [LockInfo.ofTxn], fun hx => hx⟩

/-- A refused request leaves the table as it was. -/
theorem keys_AcquireLocked_of_not_ok
    (h : (AcquireLocked maxNumLocks lockCnt keys key now trySteal (.ofTxn id time ex) expireTime
      txnIds).status.ok = false) :
    (AcquireLocked maxNumLocks lockCnt keys key now trySteal (.ofTxn id time ex) expireTime
      txnIds).keys = keys := by
  rcases AcquireLocked_cases maxNumLocks lockCnt keys key now trySteal id time ex expireTime
    txnIds with ⟨l, -, -, -, hr⟩ | ⟨l, e, -, -, -, -, hr⟩ | ⟨l, e, -, -, -, -, hr⟩ |
    ⟨l, -, -, -, hr⟩ | ⟨-, -, -, hr⟩ | ⟨-, -, hr⟩ <;> rw [hr] at h ⊢ <;> simp_all [Status.ok, Status.OK]

/-- Only a key that was free is counted, and only when `max_num_locks_` is not 0. -/
theorem incr_AcquireLocked :
    (AcquireLocked maxNumLocks lockCnt keys key now trySteal (.ofTxn id time ex) expireTime
      txnIds).incr = (keys.lookup key = none ∧ maxNumLocks ≠ 0 ∧
        (AcquireLocked maxNumLocks lockCnt keys key now trySteal (.ofTxn id time ex) expireTime
          txnIds).status.ok = true : Bool) := by
  rcases AcquireLocked_cases maxNumLocks lockCnt keys key now trySteal id time ex expireTime
    txnIds with ⟨l, hl, -, -, hr⟩ | ⟨l, e, hl, -, -, -, hr⟩ | ⟨l, e, hl, -, -, -, hr⟩ |
    ⟨l, hl, -, -, hr⟩ | ⟨hl, -, -, hr⟩ | ⟨hl, -, hr⟩ <;> rw [hr] <;> simp [hl]

/-- The table gains a key exactly when `AcquireLocked` grants a free one. -/
theorem length_AcquireLocked :
    (AcquireLocked maxNumLocks lockCnt keys key now trySteal (.ofTxn id time ex) expireTime
      txnIds).keys.keys.length =
      keys.keys.length + if keys.lookup key = none ∧
        (AcquireLocked maxNumLocks lockCnt keys key now trySteal (.ofTxn id time ex) expireTime
          txnIds).status.ok = true then 1 else 0 := by
  -- a lock given to a key already locked replaces its old one
  have hins : ∀ l : LockInfo, key ∈ keys → (keys.insert key l).keys.length = keys.keys.length :=
    fun l hk => by
      rw [AList.keys_insert, List.length_cons, List.length_erase_of_mem (AList.mem_keys.1 hk)]
      have := List.length_pos_of_mem (AList.mem_keys.1 hk)
      omega
  have hmem : ∀ l, keys.lookup key = some l → key ∈ keys := fun l hl =>
    AList.lookup_isSome.1 (by simp [hl])
  rcases AcquireLocked_cases maxNumLocks lockCnt keys key now trySteal id time ex expireTime
    txnIds with ⟨l, hl, -, -, hr⟩ | ⟨l, e, hl, -, -, -, hr⟩ | ⟨l, e, hl, -, -, -, hr⟩ |
    ⟨l, hl, -, -, hr⟩ | ⟨hl, -, -, hr⟩ | ⟨hl, -, hr⟩ <;> rw [hr]
  · rw [hins _ (hmem l hl)]
    simp [hl]
  · rw [hins _ (hmem l hl)]
    simp [hl]
  · simp [hl]
  · rw [hins _ (hmem l hl)]
    simp [hl]
  · simp
  · simp [hl, AList.keys_insert,
      List.erase_of_not_mem (mt AList.mem_keys.2 (AList.lookup_eq_none.1 hl))]

end AcquireLocked

section UnLockKey

variable {maxNumLocks : ℤ} {keys : LockTable} {txnId : TransactionID} {key : String}

/-- What `UnLockKey` can do: erase a key its last holder leaves, take one of several holders
out of a lock, or nothing, for a transaction that does not hold the key. -/
theorem UnLockKey_cases (maxNumLocks : ℤ) (keys : LockTable) (txnId : TransactionID)
    (key : String) :
    (∃ l, keys.lookup key = some l ∧ l.txnIds = [txnId] ∧
      UnLockKey maxNumLocks keys txnId key = (keys.erase key, decide (0 < maxNumLocks))) ∨
    (∃ l, keys.lookup key = some l ∧ txnId ∈ l.txnIds ∧ l.txnIds.length ≠ 1 ∧
      UnLockKey maxNumLocks keys txnId key = (keys.insert key { l with
        txnIds := l.txnIds.swapRemove (l.txnIds.idxOf txnId) }, decide (0 < maxNumLocks))) ∨
    ((∀ l, keys.lookup key = some l → txnId ∉ l.txnIds) ∧
      UnLockKey maxNumLocks keys txnId key = (keys, false)) := by
  unfold Autorocks.UnLockKey
  cases hl : keys.lookup key with
  | none => exact .inr (.inr ⟨by simp, rfl⟩)
  | some l =>
    by_cases hmem : txnId ∈ l.txnIds
    · by_cases hone : l.txnIds.length = 1
      · -- the only holder
        obtain ⟨a, ha⟩ := List.length_eq_one_iff.1 hone
        rw [ha, List.mem_singleton] at hmem
        subst hmem
        exact .inl ⟨l, rfl, ha, by simp [ha]⟩
      · exact .inr (.inl ⟨l, rfl, hmem, hone, by simp [hmem, hone]⟩)
    · exact .inr (.inr ⟨by simpa using hmem, by simp [hmem]⟩)

/-- Taking one holder out of a list of several leaves the others. -/
theorem length_swapRemove_idxOf {l : List TransactionID} (hmem : txnId ∈ l) :
    (l.swapRemove (l.idxOf txnId)).length = l.length - 1 := by
  have hlt : l.idxOf txnId < l.length := List.idxOf_lt_length_iff.2 hmem
  rw [(List.perm_swapRemove hlt).length_eq, List.length_eraseIdx_of_lt hlt]

theorem LockTable.WF.UnLockKey (h : keys.WF) :
    LockTable.WF (UnLockKey maxNumLocks keys txnId key).1 := by
  rcases UnLockKey_cases maxNumLocks keys txnId key with ⟨l, -, -, hr⟩ |
    ⟨l, hl, hmem, hone, hr⟩ | ⟨-, hr⟩ <;> rw [hr]
  · exact h.erase key
  · -- one of several holders leaves a lock, which is then shared
    have hlen := length_swapRemove_idxOf hmem
    have hpos := List.length_pos_of_mem hmem
    refine h.insert key ⟨fun hnil => ?_, fun hx => absurd ((h key l hl).length_eq_one hx) hone⟩
    change l.txnIds.swapRemove (l.txnIds.idxOf txnId) = [] at hnil
    rw [hnil, List.length_nil] at hlen
    omega
  · exact h

theorem lookup_UnLockKey_of_ne {key' : String} (hne : key' ≠ key) :
    (UnLockKey maxNumLocks keys txnId key).1.lookup key' = keys.lookup key' := by
  rcases UnLockKey_cases maxNumLocks keys txnId key with ⟨l, -, -, hr⟩ |
    ⟨l, -, -, -, hr⟩ | ⟨-, hr⟩ <;> rw [hr]
  · exact AList.lookup_erase_ne hne
  · exact AList.lookup_insert_ne hne

/-- `UnLockKey` counts a lock less for every holder that leaves it, whether or not the key is
left locked. -/
theorem decr_UnLockKey (maxNumLocks : ℤ) (keys : LockTable) (txnId : TransactionID)
    (key : String) :
    (UnLockKey maxNumLocks keys txnId key).2 = true ↔
      0 < maxNumLocks ∧ ∃ l, keys.lookup key = some l ∧ txnId ∈ l.txnIds := by
  rcases UnLockKey_cases maxNumLocks keys txnId key with ⟨l, hl, hsole, hr⟩ |
    ⟨l, hl, hmem, -, hr⟩ | ⟨hnot, hr⟩ <;> rw [hr]
  · simp [hl, hsole]
  · simp [hl, hmem]
  · simp only [Bool.false_eq_true, false_iff, not_and, not_exists]
    exact fun _ l hl => hnot l hl

/-- The table loses a key only when its last holder leaves it. -/
theorem length_UnLockKey (maxNumLocks : ℤ) (keys : LockTable) (txnId : TransactionID)
    (key : String) :
    (UnLockKey maxNumLocks keys txnId key).1.keys.length +
      (if ∃ l, keys.lookup key = some l ∧ l.txnIds = [txnId] then 1 else 0) =
      keys.keys.length := by
  have hmem : ∀ l, keys.lookup key = some l → key ∈ keys.keys := fun l hl =>
    AList.mem_keys.1 (AList.lookup_isSome.1 (by simp [hl]))
  rcases UnLockKey_cases maxNumLocks keys txnId key with ⟨l, hl, hsole, hr⟩ |
    ⟨l, hl, hmem', hone, hr⟩ | ⟨hnot, hr⟩ <;> rw [hr]
  · have hpos := List.length_pos_of_mem (hmem l hl)
    rw [if_pos ⟨l, hl, hsole⟩, AList.keys_erase, List.length_erase_of_mem (hmem l hl)]
    omega
  · have hpos := List.length_pos_of_mem (hmem l hl)
    have hnot : ¬ ∃ l, keys.lookup key = some l ∧ l.txnIds = [txnId] := by
      rintro ⟨l', hl', hsole⟩
      rw [hl, Option.some_inj] at hl'
      subst hl'
      simp [hsole] at hone
    rw [if_neg hnot, AList.keys_insert, List.length_cons, List.length_erase_of_mem (hmem l hl)]
    omega
  · have hnot' : ¬ ∃ l, keys.lookup key = some l ∧ l.txnIds = [txnId] := by
      rintro ⟨l', hl', hsole⟩
      exact hnot l' hl' (by simp [hsole])
    rw [if_neg hnot']
    rfl

/-- One of several holders leaving a lock: the lock is uncounted, the table keeps its length,
and the key stays locked. -/
theorem UnLockKey_of_shared {l : LockInfo} (hl : keys.lookup key = some l)
    (ht : txnId ∈ l.txnIds) (hlen : l.txnIds.length ≠ 1) (hmax : 0 < maxNumLocks) :
    (UnLockKey maxNumLocks keys txnId key).2 = true ∧
      (UnLockKey maxNumLocks keys txnId key).1.keys.length = keys.keys.length ∧
      key ∈ (UnLockKey maxNumLocks keys txnId key).1 := by
  have hsole : ¬ ∃ l', keys.lookup key = some l' ∧ l'.txnIds = [txnId] := by
    rintro ⟨l', hl', h1⟩
    rw [hl, Option.some_inj] at hl'
    subst hl'
    simp [h1] at hlen
  have hlength := length_UnLockKey maxNumLocks keys txnId key
  rw [if_neg hsole, Nat.add_zero] at hlength
  refine ⟨(decr_UnLockKey maxNumLocks keys txnId key).2 ⟨hmax, l, hl, ht⟩, hlength, ?_⟩
  rcases UnLockKey_cases maxNumLocks keys txnId key with ⟨l', hl', h1, -⟩ |
    ⟨l', -, -, -, hr⟩ | ⟨hnot, -⟩
  · exact absurd ⟨l', hl', h1⟩ hsole
  · simp [hr]
  · exact absurd ht (hnot l hl)

end UnLockKey

end Autorocks
