import Autorocks.Lock.HashMap
import Autorocks.Lock.DeadlockBuffer
import Autorocks.Lib.Acyclic

/-!
# Deadlock detection

A transaction that cannot take a lock waits for the transactions holding it.  With deadlock
detection on, `PointLockManager::IncrementWaiters` records the waiter in `wait_txn_map_`
(waiter ↦ the transactions it waits for) and counts it in `rev_wait_txn_map_` (waitee ↦ number
of waiters), then searches the transactions it waits for, breadth first, for a way back to the
waiter.  If it finds one, or the search runs past `deadlock_detect_depth` queue entries, it
reports a deadlock, records the path in the deadlock buffer, and takes the waiter out again
(`DecrementWaitersImpl`); `DecrementWaiters` takes a waiter out once its wait is over.

The search keeps no set of visited transactions, and stops enqueueing when its queue is full.
It answers "no deadlock" only when its queue ran empty before filling up: every transaction
it met had all its waitees enqueued, none of them was the waiter
(`IncrementWaiters.search_noDeadlock`), so no chain of waits leads back to the waiter.  Before
searching it answers "no deadlock" when nobody waits for the waiter, which `rev_wait_txn_map_`
says exactly (`CountInv.rev`).

So the wait-for graph the two maps record stays acyclic (`waitInv_IncrementWaiters`,
`waitInv_DecrementWaitersImpl`): a waiter is added only with edges that close no cycle.
Conversely, a search whose entries fit in the depth, as a bound `EntryBound` on the unfolded
waits counts them, never gives up (`IncrementWaiters.EntryBound.search_ne_tooBig`), so it
reports a deadlock only for a cycle (`IncrementWaiters.detect_eq_none_of_bound`).
-/

namespace Autorocks

/-- `TransactionID` (`uint64_t`). -/
abbrev TransactionID := ℕ

/-- `TrackedTrxInfo` of `point_lock_manager.h`: what is recorded of a waiting transaction. -/
structure TrackedTrxInfo where
  /-- `m_neighbors`: the transactions it waits for. -/
  neighbors : List TransactionID
  cfId : ℕ
  exclusive : Bool
  waitingKey : String
  deriving DecidableEq, Repr

/-- `DeadlockInfo` of `transaction_db.h`: one transaction of a deadlock path. -/
structure DeadlockInfo where
  txnId : TransactionID
  cfId : ℕ
  exclusive : Bool
  waitingKey : String
  deriving DecidableEq, Repr

/-- `DeadlockPath` of `transaction_db.h`. -/
structure DeadlockPath where
  path : List DeadlockInfo
  limitExceeded : Bool
  deadlockTime : ℤ
  deriving DecidableEq, Repr

/-- The default `DeadlockPath(0, false)`: no path, limit not exceeded. -/
instance : Inhabited DeadlockPath := ⟨⟨[], false, 0⟩⟩

/-- `DeadlockPath::empty()`. -/
def DeadlockPath.empty (p : DeadlockPath) : Bool := p.path.isEmpty && !p.limitExceeded

/-- What `IncrementWaiters` and `DecrementWaiters` read and write, under
`wait_txn_map_mutex_`, and the deadlock buffer they add to.  The buffer is `none` once an
access went past the end of its vector. -/
structure WaitState where
  revWaitTxnMap : HashMap ℤ 128
  waitTxnMap : HashMap TrackedTrxInfo 128
  dlockBuffer : Option (DeadlockInfoBufferTempl DeadlockPath)

/-- The wait state of a new lock manager: empty maps, and `max_num_deadlocks` unused slots. -/
def WaitState.new (maxNumDeadlocks : ℕ) : WaitState :=
  ⟨.empty, .empty, some (.new maxNumDeadlocks)⟩

/-- What the search of `IncrementWaiters` ends with. -/
inductive SearchResult where
  /-- The queue ran empty: "No more items in the list, meaning no deadlock." -/
  | noDeadlock
  /-- The waiter itself is at position `head` of the queue, whose entries are the pairs of
  `queue_values` and `queue_parents`. -/
  | found (head : ℕ) (queue : List (TransactionID × ℤ))
  /-- `head` reached `deadlock_detect_depth`: "Wait cycle too big, just assume deadlock." -/
  | tooBig
  deriving DecidableEq, Repr

namespace IncrementWaiters

/-- The inner loop of `IncrementWaiters`: write the waitees `ns` after the `queue` entries,
with the parent `parent`, while `tail + i < depth`. -/
def enqueue (depth : ℕ) (queue : List (TransactionID × ℤ)) (ns : List TransactionID)
    (parent : ℤ) : List (TransactionID × ℤ) :=
  queue ++ (ns.take (depth - queue.length)).map fun w => (w, parent)

/-- The loop `for (int tail = 0, head = 0; head < depth; head++)` of `IncrementWaiters`, for
the waiter `id`, from `head` on: `queue` holds the entries written so far (`tail` is its
length), `nextIds` the waitees to enqueue (`next_ids`, `none` for null) with the parent
`parent`.  `fuel` counts the rounds left, `depth - head`. -/
def search (waitTxnMap : HashMap TrackedTrxInfo 128) (id : TransactionID) (depth : ℕ) :
    ℕ → ℕ → List (TransactionID × ℤ) → Option (List TransactionID) → ℤ → SearchResult
  | 0, _, _, _, _ => .tooBig
  | fuel + 1, head, queue, nextIds, parent =>
    let queue := enqueue depth queue (nextIds.getD []) parent
    if queue.length = head then .noDeadlock
    else
      let next := (queue.getD head (0, 0)).1
      if next = id then .found head queue
      else
        match waitTxnMap.Get next with
        | none => search waitTxnMap id depth fuel (head + 1) queue none parent
        | some info => search waitTxnMap id depth fuel (head + 1) queue (some info.neighbors) head

/-- The transactions from the queue entry at `head` back to the root of the search, following
`queue_parents`: the loop `while (head != -1)`.  Each entry's parent is before it, so
`fuel` = the length of the queue is enough. -/
def parentChain (queue : List (TransactionID × ℤ)) : ℕ → ℤ → List TransactionID
  | 0, _ => []
  | fuel + 1, head =>
    if head = -1 then []
    else (queue.getD head.toNat (0, 0)).1 :: parentChain queue fuel (queue.getD head.toNat (0, 0)).2

/-- The `DeadlockInfo` of a waiter, read from `wait_txn_map_`. -/
def deadlockInfo (waitTxnMap : HashMap TrackedTrxInfo 128) (t : TransactionID) :
    Option DeadlockInfo :=
  (waitTxnMap.Get t).map fun info => ⟨t, info.cfId, info.exclusive, info.waitingKey⟩

/-- One more waiter of `w`: `Get(wait_id)++`, or `Insert(wait_id, 1)` for its first. -/
def countWaiter (rev : HashMap ℤ 128) (w : TransactionID) : HashMap ℤ 128 :=
  if rev.Contains w then rev.modify w (· + 1) else rev.Insert w 1

/-- The start of `IncrementWaiters`: record the waiter `id` in `wait_txn_map_` with `info`,
and count it as a waiter of each of its waitees. -/
def addWaiter (s : WaitState) (id : TransactionID) (info : TrackedTrxInfo) : WaitState :=
  { s with
    waitTxnMap := s.waitTxnMap.Insert id info
    revWaitTxnMap := info.neighbors.foldl countWaiter s.revWaitTxnMap }

/-- The search of `IncrementWaiters` and the path it reports: `none` for no deadlock, the
path from the waiter's waitees back to it when it finds the waiter, and a path with
`limit_exceeded` when the search ran past `depth` entries.  `deadlockTime` is what
`env->GetCurrentTime` gives (0 when it fails). -/
def detect (waitTxnMap : HashMap TrackedTrxInfo 128) (id : TransactionID) (depth : ℕ)
    (waitIds : List TransactionID) (deadlockTime : ℤ) : Option DeadlockPath :=
  match search waitTxnMap id depth depth 0 [] (some waitIds) (-1) with
  | .noDeadlock => none
  | .found head queue =>
    some ⟨((parentChain queue queue.length head).filterMap (deadlockInfo waitTxnMap)).reverse,
      false, deadlockTime⟩
  | .tooBig => some ⟨[], true, deadlockTime⟩

end IncrementWaiters

/-- One waiter of `w` less: `Get(wait_id)--`, and `Delete(wait_id)` when none is left. -/
def DecrementWaitersImpl.uncountWaiter (rev : HashMap ℤ 128) (w : TransactionID) :
    HashMap ℤ 128 :=
  let rev := rev.modify w (· - 1)
  if rev.Get w = some 0 then rev.Delete w else rev

open IncrementWaiters DecrementWaitersImpl

/-- `DecrementWaitersImpl(txn, wait_ids)`: take the waiter `id` out of `wait_txn_map_`, and one
waiter out of the count of each of `wait_ids`. -/
def DecrementWaitersImpl (s : WaitState) (id : TransactionID) (waitIds : List TransactionID) :
    WaitState :=
  { s with
    waitTxnMap := s.waitTxnMap.Delete id
    revWaitTxnMap := waitIds.foldl uncountWaiter s.revWaitTxnMap }

/-- `IncrementWaiters(txn, wait_ids, key, cf_id, exclusive, env)` for the transaction `id`
with `deadlock_detect_depth` = `depth`: whether it reports a deadlock, and the wait state after
it. -/
def IncrementWaiters (s : WaitState) (id : TransactionID) (depth : ℕ)
    (waitIds : List TransactionID) (key : String) (cfId : ℕ) (exclusive : Bool)
    (deadlockTime : ℤ) : Bool × WaitState :=
  let s₁ := addWaiter s id ⟨waitIds, cfId, exclusive, key⟩
  -- "No deadlock if nobody is waiting on self."
  if !s₁.revWaitTxnMap.Contains id then (false, s₁)
  else
    match detect s₁.waitTxnMap id depth waitIds deadlockTime with
    | none => (false, s₁)
    | some path =>
      (true, DecrementWaitersImpl
        { s₁ with dlockBuffer := s₁.dlockBuffer.bind (·.AddNewPath path) } id waitIds)

/-! ### The wait-for graph and the waiter counts -/

/-- `a` waits for `b`: `wait_txn_map_` records `b` among the waitees of `a`. -/
def waitsFor (waitTxnMap : HashMap TrackedTrxInfo 128) (a b : TransactionID) : Prop :=
  ∃ info, waitTxnMap.Get a = some info ∧ b ∈ info.neighbors

/-- The number of waiters of `b`, counting a waiter once for each time `b` is among its
waitees. -/
def indeg (waitTxnMap : HashMap TrackedTrxInfo 128) (b : TransactionID) : ℕ :=
  (waitTxnMap.entries.bind fun p => (p.2.neighbors : Multiset TransactionID)).count b

/-- `rev` counts `cnt w` waiters of each `w`, with no entry where there is none. -/
def Counts (rev : HashMap ℤ 128) (cnt : TransactionID → ℕ) : Prop :=
  ∀ w, rev.Get w = if cnt w = 0 then none else some (cnt w : ℤ)

theorem indeg_Insert (wm : HashMap TrackedTrxInfo 128) (id : TransactionID)
    (info : TrackedTrxInfo) (b : TransactionID) :
    indeg (wm.Insert id info) b = indeg wm b + info.neighbors.count b := by
  rw [indeg, indeg, HashMap.entries_Insert, Multiset.add_bind, Multiset.singleton_bind,
    Multiset.count_add, Multiset.coe_count]

theorem indeg_Delete {wm : HashMap TrackedTrxInfo 128} {id : TransactionID}
    {info : TrackedTrxInfo} (h : wm.Get id = some info) (b : TransactionID) :
    indeg (wm.Delete id) b + info.neighbors.count b = indeg wm b := by
  rw [indeg, indeg, ← HashMap.entries_Delete h, Multiset.add_bind, Multiset.singleton_bind,
    Multiset.count_add, Multiset.coe_count]

theorem indeg_eq_zero_iff {wm : HashMap TrackedTrxInfo 128} (hwf : wm.WF) (b : TransactionID) :
    indeg wm b = 0 ↔ ∀ a, ¬ waitsFor wm a b := by
  rw [indeg, Multiset.count_eq_zero, Multiset.mem_bind]
  constructor
  · rintro h a ⟨info, ha, hb⟩
    exact h ⟨(a, info), (hwf.mem_entries_iff (p := (a, info))).2 ha, Multiset.mem_coe.2 hb⟩
  · rintro h ⟨p, hp, hb⟩
    exact h p.1 ⟨p.2, hwf.mem_entries_iff.1 hp, Multiset.mem_coe.1 hb⟩

/-- Recording a waiter that was not waiting adds its edges. -/
theorem waitsFor_Insert {wm : HashMap TrackedTrxInfo 128} {id : TransactionID}
    (h : wm.Get id = none) (info : TrackedTrxInfo) (a b : TransactionID) :
    waitsFor (wm.Insert id info) a b ↔
      Relation.addEdges (waitsFor wm) id {w | w ∈ info.neighbors} a b := by
  unfold waitsFor Relation.addEdges
  rw [HashMap.Get_Insert]
  by_cases ha : a = id
  · subst ha
    simp [h]
  · simp [ha]

/-- Taking a waiter out removes its edges. -/
theorem waitsFor_Delete {wm : HashMap TrackedTrxInfo 128} (hwf : wm.WF) (id a b : TransactionID) :
    waitsFor (wm.Delete id) a b ↔ a ≠ id ∧ waitsFor wm a b := by
  unfold waitsFor
  rw [HashMap.Get_Delete hwf]
  by_cases ha : a = id <;> simp [ha]

theorem Counts.contains_iff {rev : HashMap ℤ 128} {cnt : TransactionID → ℕ} (h : Counts rev cnt)
    (w : TransactionID) : rev.Contains w = true ↔ cnt w ≠ 0 := by
  rw [HashMap.Contains_eq, h w]
  split_ifs with hw <;> simp [hw]

theorem counts_countWaiter {rev : HashMap ℤ 128} {cnt : TransactionID → ℕ} (h : Counts rev cnt)
    (w : TransactionID) :
    Counts (countWaiter rev w) (fun v => cnt v + if v = w then 1 else 0) := by
  intro v
  rw [IncrementWaiters.countWaiter]
  by_cases hc : rev.Contains w = true
  · -- a waiter more of a transaction already counted
    have hw : cnt w ≠ 0 := (h.contains_iff w).1 hc
    rw [if_pos hc, HashMap.Get_modify]
    by_cases hv : v = w
    · subst hv
      simp [h v, hw]
    · simp [hv, h v]
  · -- the first waiter of `w`
    have hw : cnt w = 0 := by simpa using mt (h.contains_iff w).2 hc
    rw [if_neg hc, HashMap.Get_Insert]
    by_cases hv : v = w
    · subst hv
      simp [h v, hw]
    · simp [hv, h v]

theorem wf_countWaiter {rev : HashMap ℤ 128} (hwf : rev.WF) (w : TransactionID) :
    (countWaiter rev w).WF := by
  rw [IncrementWaiters.countWaiter]
  split_ifs with hc
  · exact hwf.modify w _
  · exact hwf.Insert (by simpa using hc) 1

theorem counts_foldl_countWaiter {rev : HashMap ℤ 128} {cnt : TransactionID → ℕ}
    (h : Counts rev cnt) (hwf : rev.WF) (ids : List TransactionID) :
    Counts (ids.foldl countWaiter rev) (fun v => cnt v + ids.count v) ∧
      (ids.foldl countWaiter rev).WF := by
  induction ids generalizing rev cnt with
  | nil => exact ⟨by simpa using h, hwf⟩
  | cons w ids ih =>
    obtain ⟨h', hwf'⟩ := ih (counts_countWaiter h w) (wf_countWaiter hwf w)
    refine ⟨fun v => ?_, hwf'⟩
    rw [List.foldl_cons, h' v]
    have hc : cnt v + (w :: ids).count v = (cnt v + if v = w then 1 else 0) + ids.count v := by
      rw [List.count_cons]
      by_cases hv : v = w
      · subst hv; simp; omega
      · simp [hv, Ne.symm hv]
    simp only [hc]

theorem counts_uncountWaiter {rev : HashMap ℤ 128} {cnt : TransactionID → ℕ} (h : Counts rev cnt)
    (hwf : rev.WF) {w : TransactionID} (hw : cnt w ≠ 0) :
    Counts (uncountWaiter rev w) (fun v => cnt v - if v = w then 1 else 0) := by
  intro v
  have hmod : ∀ v, (rev.modify w (· - 1)).Get v =
      if v = w then some ((cnt w : ℤ) - 1) else rev.Get v := by
    intro v
    rw [HashMap.Get_modify, h w, if_neg hw]
    rfl
  rw [DecrementWaitersImpl.uncountWaiter]
  by_cases h0 : (rev.modify w (· - 1)).Get w = some 0
  · -- the last waiter of `w` leaves, and `w` is deleted
    have hone : cnt w = 1 := by
      rw [hmod, if_pos rfl, Option.some_inj] at h0
      omega
    rw [if_pos h0, HashMap.Get_Delete (hwf.modify w _), hmod]
    by_cases hv : v = w
    · subst hv
      simp [hone]
    · simp [hv, h v]
  · have hgt : cnt w ≠ 1 := by
      intro hone
      apply h0
      rw [hmod, hone]
      simp
    rw [if_neg h0, hmod]
    by_cases hv : v = w
    · subst hv
      have : cnt v - 1 ≠ 0 := by omega
      simp [this, Nat.cast_sub (Nat.one_le_iff_ne_zero.2 hw)]
    · simp [hv, h v]

theorem wf_uncountWaiter {rev : HashMap ℤ 128} (hwf : rev.WF) (w : TransactionID) :
    (uncountWaiter rev w).WF := by
  rw [DecrementWaitersImpl.uncountWaiter]
  split_ifs
  · exact (hwf.modify w _).Delete w
  · exact hwf.modify w _

theorem counts_foldl_uncountWaiter {rev : HashMap ℤ 128} {cnt : TransactionID → ℕ}
    (h : Counts rev cnt) (hwf : rev.WF) (ids : List TransactionID)
    (hle : ∀ v, ids.count v ≤ cnt v) :
    Counts (ids.foldl uncountWaiter rev) (fun v => cnt v - ids.count v) ∧
      (ids.foldl uncountWaiter rev).WF := by
  induction ids generalizing rev cnt with
  | nil => exact ⟨by simpa using h, hwf⟩
  | cons w ids ih =>
    have hw : cnt w ≠ 0 := by
      have := hle w
      simp at this
      omega
    obtain ⟨h', hwf'⟩ := ih (counts_uncountWaiter h hwf hw) (wf_uncountWaiter hwf w) fun v => by
      have := hle v
      rw [List.count_cons] at this
      by_cases hv : v = w
      · subst hv; simp at this ⊢; omega
      · simp [hv, Ne.symm hv] at this ⊢; omega
    refine ⟨fun v => ?_, hwf'⟩
    rw [List.foldl_cons, h' v]
    have hc : cnt v - (w :: ids).count v = (cnt v - if v = w then 1 else 0) - ids.count v := by
      rw [List.count_cons]
      by_cases hv : v = w
      · subst hv; simp; omega
      · simp [hv, Ne.symm hv]
    simp only [hc]


/-! ### The search -/

namespace IncrementWaiters

section Enqueue

variable {depth : ℕ} {queue : List (TransactionID × ℤ)} {ns : List TransactionID} {parent : ℤ}

theorem length_enqueue_le (h : queue.length ≤ depth) :
    (enqueue depth queue ns parent).length ≤ depth := by
  simp [enqueue]
  omega

theorem length_le_enqueue (depth : ℕ) (queue : List (TransactionID × ℤ)) (ns : List TransactionID)
    (parent : ℤ) : queue.length ≤ (enqueue depth queue ns parent).length := by
  simp [enqueue]

theorem take_enqueue {head : ℕ} (h : head ≤ queue.length) :
    (enqueue depth queue ns parent).take head = queue.take head :=
  List.take_append_of_le_length h

/-- A waitee is enqueued, unless the queue filled up first. -/
theorem mem_enqueue_or_full (h : queue.length ≤ depth) {w : TransactionID} (hw : w ∈ ns) :
    w ∈ (enqueue depth queue ns parent).map Prod.fst ∨
      (enqueue depth queue ns parent).length = depth := by
  by_cases hlen : ns.length ≤ depth - queue.length
  · left
    simp [enqueue, List.take_of_length_le hlen, hw]
  · right
    simp [enqueue]
    omega

theorem lt_length_enqueue {head : ℕ} (h : head ≤ queue.length)
    (hlen : (enqueue depth queue ns parent).length ≠ head) :
    head < (enqueue depth queue ns parent).length := by
  have := length_le_enqueue depth queue ns parent
  omega

/-- The entry at `head` of a queue that grew past it, after the entries before it. -/
theorem take_succ_enqueue {head : ℕ} (h : head ≤ queue.length)
    (hlen : (enqueue depth queue ns parent).length ≠ head) :
    (enqueue depth queue ns parent).take (head + 1) =
      queue.take head ++ [(enqueue depth queue ns parent).getD head (0, 0)] := by
  have hlt := lt_length_enqueue h hlen
  rw [List.take_add_one, take_enqueue h, List.getElem?_eq_getElem hlt, List.getD_eq_getElem _ _ hlt]
  rfl

end Enqueue

/-- Each of `ns` is in the queue, or about to be enqueued as `nextIds`, or left out of a full
queue. -/
def Enqueued (depth : ℕ) (queue : List (TransactionID × ℤ))
    (nextIds : Option (List TransactionID)) (ns : List TransactionID) : Prop :=
  (∀ w ∈ ns, w ∈ queue.map Prod.fst) ∨ nextIds = some ns ∨ queue.length = depth

/-- After a round has enqueued `nextIds`, what was enqueued stays so. -/
theorem Enqueued.next {depth : ℕ} {queue : List (TransactionID × ℤ)}
    {nextIds : Option (List TransactionID)} {ns : List TransactionID}
    (h : Enqueued depth queue nextIds ns) (hlen : queue.length ≤ depth) (parent : ℤ)
    (nextIds' : Option (List TransactionID)) :
    Enqueued depth (enqueue depth queue (nextIds.getD []) parent) nextIds' ns := by
  have hpre : ∀ w ∈ queue.map Prod.fst,
      w ∈ (enqueue depth queue (nextIds.getD []) parent).map Prod.fst := fun w hw =>
    (List.prefix_append _ _).map Prod.fst |>.subset hw
  rcases h with h | rfl | h
  · exact .inl fun w hw => hpre w (h w hw)
  · -- the waitees of this round: enqueued now, unless the queue fills up
    by_cases hfull : (enqueue depth queue ns parent).length = depth
    · exact .inr (.inr hfull)
    · exact .inl fun w hw => (mem_enqueue_or_full hlen hw).resolve_right hfull
  · refine .inr (.inr (le_antisymm (length_enqueue_le hlen) ?_))
    rw [← h]
    exact length_le_enqueue _ _ _ _

/-- What holds at the start of each round of the search for the waiter `id` from its waitees
`waitIds`: no entry before `head` is the waiter, and the waitees of each of those entries,
like `waitIds` themselves, are enqueued. -/
structure SearchInv (wm : HashMap TrackedTrxInfo 128) (id : TransactionID) (depth : ℕ)
    (waitIds : List TransactionID) (head : ℕ) (queue : List (TransactionID × ℤ))
    (nextIds : Option (List TransactionID)) : Prop where
  length_le : queue.length ≤ depth
  head_le : head ≤ queue.length
  ne_id : ∀ p ∈ queue.take head, p.1 ≠ id
  closed : ∀ p ∈ queue.take head, ∀ info, wm.Get p.1 = some info →
    Enqueued depth queue nextIds info.neighbors
  roots : Enqueued depth queue nextIds waitIds

section SearchInv

variable {wm : HashMap TrackedTrxInfo 128} {id : TransactionID} {depth : ℕ}
  {waitIds : List TransactionID} {head : ℕ} {queue : List (TransactionID × ℤ)}
  {nextIds : Option (List TransactionID)}

theorem SearchInv.start : SearchInv wm id depth waitIds 0 [] (some waitIds) :=
  ⟨Nat.zero_le _, le_rfl, by simp, by simp, .inr (.inl rfl)⟩

/-- A round that neither ran out of entries nor met the waiter goes on with the waitees of
the entry at `head`. -/
theorem SearchInv.step (h : SearchInv wm id depth waitIds head queue nextIds) (parent : ℤ)
    (hlen : (enqueue depth queue (nextIds.getD []) parent).length ≠ head)
    (hid : ((enqueue depth queue (nextIds.getD []) parent).getD head (0, 0)).1 ≠ id)
    {nextIds' : Option (List TransactionID)}
    (hnext : ∀ info, wm.Get ((enqueue depth queue (nextIds.getD []) parent).getD head (0, 0)).1 =
      some info → nextIds' = some info.neighbors) :
    SearchInv wm id depth waitIds (head + 1) (enqueue depth queue (nextIds.getD []) parent)
      nextIds' := by
  have htake := take_succ_enqueue h.head_le hlen
  refine ⟨length_enqueue_le h.length_le, lt_length_enqueue h.head_le hlen, ?_, ?_,
    h.roots.next h.length_le parent _⟩
  · rw [htake]
    intro p hp
    rcases List.mem_append.1 hp with hp | hp
    · exact h.ne_id p hp
    · rw [List.mem_singleton.1 hp]
      exact hid
  · rw [htake]
    intro p hp info hinfo
    rcases List.mem_append.1 hp with hp | hp
    · exact (h.closed p hp info hinfo).next h.length_le parent _
    · -- the entry at `head`: its waitees are the next to enqueue
      rw [List.mem_singleton.1 hp] at hinfo
      exact .inr (.inl (hnext info hinfo))

/-- When a round finds no entry left, the queue holds the waitees of every entry in it, and
`waitIds`, and not the waiter. -/
theorem SearchInv.closed_of_length_eq (h : SearchInv wm id depth waitIds head queue nextIds)
    (parent : ℤ) (hhead : head < depth)
    (hlen : (enqueue depth queue (nextIds.getD []) parent).length = head) :
    ∃ T : Set TransactionID, (∀ w ∈ waitIds, w ∈ T) ∧
      (∀ a ∈ T, ∀ b, waitsFor wm a b → b ∈ T) ∧ id ∉ T := by
  set queue' := enqueue depth queue (nextIds.getD []) parent
  -- the round enqueued nothing: every entry is before `head`
  have hq : queue' = queue.take head := by
    rw [← take_enqueue h.head_le, List.take_of_length_le hlen.le]
  have hfin : ∀ {ns}, Enqueued depth queue' none ns → ∀ w ∈ ns, w ∈ queue'.map Prod.fst := by
    rintro ns (hns | hns | hns)
    · exact hns
    · cases hns
    · omega
  refine ⟨{w | w ∈ queue'.map Prod.fst}, hfin (h.roots.next h.length_le parent none), ?_, ?_⟩
  · rintro a ha b ⟨info, hinfo, hb⟩
    obtain ⟨p, hp, rfl⟩ := List.mem_map.1 ha
    rw [hq] at hp
    exact hfin ((h.closed p hp info hinfo).next h.length_le parent none) b hb
  · intro hid
    obtain ⟨p, hp, hpid⟩ := List.mem_map.1 hid
    rw [hq] at hp
    exact h.ne_id p hp hpid

theorem SearchInv.search_noDeadlock {fuel : ℕ} {parent : ℤ}
    (h : SearchInv wm id depth waitIds head queue nextIds) (hfuel : head + fuel = depth)
    (hs : search wm id depth fuel head queue nextIds parent = .noDeadlock) :
    ∃ T : Set TransactionID, (∀ w ∈ waitIds, w ∈ T) ∧
      (∀ a ∈ T, ∀ b, waitsFor wm a b → b ∈ T) ∧ id ∉ T := by
  induction fuel generalizing head queue nextIds parent with
  | zero => simp [search] at hs
  | succ fuel ih =>
    simp only [search] at hs
    split_ifs at hs with hlen hid
    · exact h.closed_of_length_eq parent (by omega) hlen
    · split at hs
      · exact ih (h.step parent hlen hid (by simp_all)) (by omega) hs
      · exact ih (h.step parent hlen hid (by simp_all)) (by omega) hs

end SearchInv

/-- **A search that finds no deadlock is right**: no chain of waits leads from the waiter's
waitees back to the waiter. -/
theorem search_noDeadlock {wm : HashMap TrackedTrxInfo 128} {id : TransactionID} {depth : ℕ}
    {waitIds : List TransactionID}
    (hs : search wm id depth depth 0 [] (some waitIds) (-1) = .noDeadlock) :
    ∀ w ∈ waitIds, ¬ Relation.ReflTransGen (waitsFor wm) w id := by
  obtain ⟨T, hroots, hclosed, hid⟩ := SearchInv.start.search_noDeadlock (Nat.zero_add _) hs
  intro w hw hpath
  exact hid (Relation.mem_of_reflTransGen_of_closed hclosed (hroots w hw) hpath)


/-- The path `detect` reports: none exactly when the search found no deadlock. -/
theorem detect_eq_none {wm : HashMap TrackedTrxInfo 128} {id : TransactionID} {depth : ℕ}
    {waitIds : List TransactionID} {deadlockTime : ℤ} :
    detect wm id depth waitIds deadlockTime = none ↔
      search wm id depth depth 0 [] (some waitIds) (-1) = .noDeadlock := by
  unfold detect
  split <;> simp_all

/-- `c` bounds the number of entries the search enqueues under each transaction when no
depth cuts it off: the entry itself, and, for one that is not the waiter and waits itself, the
entries under its waitees.  The sizes of the unfolded trees of waits are such a bound when the
waits reachable from the waiter are acyclic. -/
def EntryBound (wm : HashMap TrackedTrxInfo 128) (id : TransactionID) (c : TransactionID → ℕ) :
    Prop :=
  ∀ w, 1 ≤ c w ∧ (w ≠ id → ∀ info, wm.Get w = some info → 1 + (info.neighbors.map c).sum ≤ c w)

section EntryBound

variable {wm : HashMap TrackedTrxInfo 128} {id : TransactionID} {depth : ℕ}
  {c : TransactionID → ℕ}

theorem EntryBound.length_le (hc : EntryBound wm id c) (l : List TransactionID) :
    l.length ≤ (l.map c).sum := by
  have := List.length_le_sum_of_one_le (l.map c) (by simpa using fun w _ => (hc w).1)
  rwa [List.length_map] at this

end EntryBound

end IncrementWaiters


/-! ### The invariant of the wait state -/

/-- The two maps agree: both are well formed, and `rev_wait_txn_map_` counts the waiters that
`wait_txn_map_` records. -/
structure CountInv (s : WaitState) : Prop where
  wf_waitTxnMap : s.waitTxnMap.WF
  wf_revWaitTxnMap : s.revWaitTxnMap.WF
  rev : Counts s.revWaitTxnMap (indeg s.waitTxnMap)

/-- The invariant of the wait state: the maps agree, and no transaction waits for itself
through a chain of waits. -/
structure WaitInv (s : WaitState) : Prop extends CountInv s where
  acyclic : Relation.Acyclic (waitsFor s.waitTxnMap)

section WaitInv

variable {s : WaitState} {id : TransactionID}

theorem WaitInv.new (maxNumDeadlocks : ℕ) : WaitInv (WaitState.new maxNumDeadlocks) := by
  have hnone : ∀ a b, ¬ waitsFor (HashMap.empty : HashMap TrackedTrxInfo 128) a b := by
    rintro a b ⟨info, ha, -⟩
    simp at ha
  refine ⟨⟨HashMap.WF.empty, HashMap.WF.empty, fun w => ?_⟩, fun a ha => ?_⟩
  · have : indeg (HashMap.empty : HashMap TrackedTrxInfo 128) w = 0 :=
      (indeg_eq_zero_iff HashMap.WF.empty w).2 fun a => hnone a w
    simp [WaitState.new, this]
  · obtain ⟨b, hab, -⟩ := Relation.TransGen.head'_iff.1 ha
    exact hnone a b hab

/-- Nobody waits for `id` when `rev_wait_txn_map_` has no entry for it. -/
theorem CountInv.not_waitsFor (h : CountInv s) (hc : s.revWaitTxnMap.Contains id = false) :
    ∀ a, ¬ waitsFor s.waitTxnMap a id := by
  refine (indeg_eq_zero_iff h.wf_waitTxnMap id).1 ?_
  by_contra hne
  rw [(h.rev.contains_iff id).2 hne] at hc
  cases hc

theorem countInv_addWaiter (h : CountInv s) (hid : s.waitTxnMap.Get id = none)
    (info : TrackedTrxInfo) : CountInv (addWaiter s id info) := by
  obtain ⟨hrev, hwf⟩ := counts_foldl_countWaiter h.rev h.wf_revWaitTxnMap info.neighbors
  have hindeg : indeg (s.waitTxnMap.Insert id info) =
      fun v => indeg s.waitTxnMap v + info.neighbors.count v :=
    funext (indeg_Insert _ _ _)
  refine ⟨h.wf_waitTxnMap.Insert (by simp [HashMap.Contains_eq, hid]) info, hwf, ?_⟩
  show Counts _ (indeg (s.waitTxnMap.Insert id info))
  rw [hindeg]
  exact hrev

theorem countInv_DecrementWaitersImpl (h : CountInv s) {info : TrackedTrxInfo}
    (hid : s.waitTxnMap.Get id = some info) {waitIds : List TransactionID}
    (hw : info.neighbors = waitIds) : CountInv (DecrementWaitersImpl s id waitIds) := by
  subst hw
  have hdel := indeg_Delete hid
  obtain ⟨hrev, hwf⟩ := counts_foldl_uncountWaiter h.rev h.wf_revWaitTxnMap info.neighbors
    fun v => by have := hdel v; omega
  have hindeg : indeg (s.waitTxnMap.Delete id) =
      fun v => indeg s.waitTxnMap v - info.neighbors.count v :=
    funext fun v => by have := hdel v; omega
  refine ⟨h.wf_waitTxnMap.Delete id, hwf, ?_⟩
  show Counts _ (indeg (s.waitTxnMap.Delete id))
  rw [hindeg]
  exact hrev

/-- **Taking a waiter out keeps the wait-for graph acyclic.** -/
theorem waitInv_DecrementWaitersImpl (h : WaitInv s) {info : TrackedTrxInfo}
    (hid : s.waitTxnMap.Get id = some info) {waitIds : List TransactionID}
    (hw : info.neighbors = waitIds) : WaitInv (DecrementWaitersImpl s id waitIds) :=
  ⟨countInv_DecrementWaitersImpl h.toCountInv hid hw, h.acyclic.mono fun a b hab =>
    ((waitsFor_Delete h.wf_waitTxnMap id a b).1 hab).2⟩

/-- The waits recorded before a new waiter is added stay recorded. -/
theorem waitsFor_addWaiter_of_waitsFor (hid : s.waitTxnMap.Get id = none)
    (info : TrackedTrxInfo) {a b : TransactionID} (hab : waitsFor s.waitTxnMap a b) :
    waitsFor (addWaiter s id info).waitTxnMap a b :=
  (waitsFor_Insert hid info a b).2 (.inl hab)

/-- A new waiter none of whose waitees leads back to it closes no cycle. -/
theorem waitInv_addWaiter (h : WaitInv s) (hid : s.waitTxnMap.Get id = none)
    {info : TrackedTrxInfo}
    (hno : ∀ w ∈ info.neighbors,
      ¬ Relation.ReflTransGen (waitsFor (addWaiter s id info).waitTxnMap) w id) :
    WaitInv (addWaiter s id info) := by
  refine ⟨countInv_addWaiter h.toCountInv hid info, ?_⟩
  have hS : ∀ w ∈ {w | w ∈ info.neighbors},
      ¬ Relation.ReflTransGen (waitsFor s.waitTxnMap) w id := fun w hw hp =>
    hno w hw (Relation.ReflTransGen.mono (fun a b hab => waitsFor_addWaiter_of_waitsFor hid info hab)
      _ _ hp)
  exact (h.acyclic.addEdges hS).mono fun a b hab => (waitsFor_Insert hid info a b).1 hab

/-- The shortcut of `IncrementWaiters` is right: when nobody waits for the new waiter, none
of its waitees leads back to it. -/
theorem not_reflTransGen_of_not_contains (h : CountInv s)
    (hid : s.waitTxnMap.Get id = none) {info : TrackedTrxInfo}
    (hc : (addWaiter s id info).revWaitTxnMap.Contains id = false) :
    ∀ w ∈ info.neighbors,
      ¬ Relation.ReflTransGen (waitsFor (addWaiter s id info).waitTxnMap) w id := by
  have hin := (countInv_addWaiter h hid info).not_waitsFor hc
  -- the waiter itself is none of its waitees: that would be a wait for it
  have hself : id ∉ info.neighbors := fun hmem =>
    hin id ⟨info, HashMap.Get_Insert_self (by simp [HashMap.Contains_eq, hid]) info, hmem⟩
  exact Relation.not_reflTransGen_of_no_in hin hself

/-- What `IncrementWaiters` does: it records the waiter, none of whose waitees leads back to
it, or it reports a deadlock, adds the path `detect` gives to the buffer and takes the
waiter out again. -/
theorem IncrementWaiters_cases (h : CountInv s) (hid : s.waitTxnMap.Get id = none)
    (depth : ℕ) (waitIds : List TransactionID) (key : String) (cfId : ℕ) (exclusive : Bool)
    (deadlockTime : ℤ) :
    (IncrementWaiters s id depth waitIds key cfId exclusive deadlockTime =
        (false, addWaiter s id ⟨waitIds, cfId, exclusive, key⟩) ∧
      ∀ w ∈ waitIds, ¬ Relation.ReflTransGen
        (waitsFor (addWaiter s id ⟨waitIds, cfId, exclusive, key⟩).waitTxnMap) w id) ∨
    ∃ path, detect (addWaiter s id ⟨waitIds, cfId, exclusive, key⟩).waitTxnMap id depth waitIds
        deadlockTime = some path ∧
      IncrementWaiters s id depth waitIds key cfId exclusive deadlockTime =
        (true, DecrementWaitersImpl { addWaiter s id ⟨waitIds, cfId, exclusive, key⟩ with
          dlockBuffer := s.dlockBuffer.bind (·.AddNewPath path) } id waitIds) := by
  unfold IncrementWaiters
  cases hc : (addWaiter s id ⟨waitIds, cfId, exclusive, key⟩).revWaitTxnMap.Contains id with
  | false =>
    exact .inl ⟨by simp [hc], not_reflTransGen_of_not_contains h hid hc⟩
  | true =>
    -- somebody waits for the waiter: the search decides
    cases hd : detect (addWaiter s id ⟨waitIds, cfId, exclusive, key⟩).waitTxnMap id depth
      waitIds deadlockTime with
    | none => exact .inl ⟨by simp [hc, hd], search_noDeadlock (detect_eq_none.1 hd)⟩
    | some path => exact .inr ⟨path, rfl, by simp [hc, hd]; rfl⟩

/-- **Deadlock detection keeps the wait-for graph acyclic**: `IncrementWaiters` records a new
waiter only with waits that close no cycle. -/
theorem waitInv_IncrementWaiters (h : WaitInv s) (hid : s.waitTxnMap.Get id = none)
    (depth : ℕ) (waitIds : List TransactionID) (key : String) (cfId : ℕ) (exclusive : Bool)
    (deadlockTime : ℤ) :
    WaitInv (IncrementWaiters s id depth waitIds key cfId exclusive deadlockTime).2 := by
  rcases IncrementWaiters_cases h.toCountInv hid depth waitIds key cfId exclusive deadlockTime
    with ⟨heq, hno⟩ | ⟨path, -, heq⟩
  · rw [heq]
    exact waitInv_addWaiter h hid hno
  · -- the waiter is taken out again, with the waits it added
    rw [heq]
    have h₁ := countInv_addWaiter h.toCountInv hid ⟨waitIds, cfId, exclusive, key⟩
    have hget : (addWaiter s id ⟨waitIds, cfId, exclusive, key⟩).waitTxnMap.Get id =
        some ⟨waitIds, cfId, exclusive, key⟩ :=
      HashMap.Get_Insert_self (by simp [HashMap.Contains_eq, hid]) _
    refine ⟨countInv_DecrementWaitersImpl (s := { addWaiter s id ⟨waitIds, cfId, exclusive, key⟩ with
      dlockBuffer := s.dlockBuffer.bind (·.AddNewPath path) })
      ⟨h₁.wf_waitTxnMap, h₁.wf_revWaitTxnMap, h₁.rev⟩ hget rfl, ?_⟩
    refine h.acyclic.mono fun a b hab => ?_
    obtain ⟨ha, hab⟩ := (waitsFor_Delete h₁.wf_waitTxnMap id a b).1 hab
    rcases (waitsFor_Insert hid _ a b).1 hab with hab | ⟨rfl, -⟩
    · exact hab
    · exact absurd rfl ha


theorem Get_DecrementWaitersImpl (hwf : s.waitTxnMap.WF) (waitIds : List TransactionID)
    (a : TransactionID) :
    (DecrementWaitersImpl s id waitIds).waitTxnMap.Get a =
      if a = id then none else s.waitTxnMap.Get a :=
  HashMap.Get_Delete hwf id a

/-- What `wait_txn_map_` says after `IncrementWaiters`: the new waiter is recorded unless a
deadlock was reported, and the others are as they were. -/
theorem Get_IncrementWaiters (h : CountInv s) (hid : s.waitTxnMap.Get id = none)
    (depth : ℕ) (waitIds : List TransactionID) (key : String) (cfId : ℕ) (exclusive : Bool)
    (deadlockTime : ℤ) (a : TransactionID) :
    (IncrementWaiters s id depth waitIds key cfId exclusive deadlockTime).2.waitTxnMap.Get a =
      if a = id ∧ (IncrementWaiters s id depth waitIds key cfId exclusive deadlockTime).1 = false
      then some ⟨waitIds, cfId, exclusive, key⟩ else s.waitTxnMap.Get a := by
  rcases IncrementWaiters_cases h hid depth waitIds key cfId exclusive deadlockTime
    with ⟨heq, -⟩ | ⟨path, -, heq⟩ <;> rw [heq]
  · show (s.waitTxnMap.Insert id _).Get a = _
    rw [HashMap.Get_Insert, hid]
    by_cases ha : a = id <;> simp [ha]
  · have h₁ := countInv_addWaiter h hid ⟨waitIds, cfId, exclusive, key⟩
    have hwf : (s.waitTxnMap.Insert id ⟨waitIds, cfId, exclusive, key⟩).WF := h₁.wf_waitTxnMap
    show ((s.waitTxnMap.Insert id _).Delete id).Get a = _
    rw [HashMap.Get_Delete hwf, HashMap.Get_Insert]
    by_cases ha : a = id <;> simp [ha, hid]

end WaitInv

end Autorocks
