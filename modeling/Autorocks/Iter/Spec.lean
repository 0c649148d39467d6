import Autorocks.Iter.Basic

/-!
# What `next()` returns after each positioning call

The adapter is specified by a second machine, `DbIterator.spec`, which does not know about the
flag `just_seeked`: a positioning call that leaves the cursor at `p` promises the entries
`E[p], E[p ± 1], …` up to the end of the source in the adapter's direction (`Cursor.walk`),
each returned once by a `next()`, and then one `None`; `key()`, `value()` and `valid()` read the
entry under the cursor.  After that `None` the specification promises nothing until the next
positioning call (what the adapter does there is the subject of `Autorocks.Iter.Requires`).

`DbIterator.Tracks` relates an adapter to a specification state, and one call keeps the two
related (`DbIterator.isRefinement`): the position the next `next()` reads (`readPos`) is the
position the specification walks from.  So on every interleaving of calls the adapter gives
every answer the specification names (`DbIterator.meets_spec`), and collecting a fresh or
freshly sought iterator gives the source, its reverse, or the entries at or past the key.
-/

namespace Autorocks

namespace DbIterator

variable {K V : Type*} [LinearOrder K]

/-- The states of the specification. -/
inductive Expect (K V : Type*) where
  /-- `cur` is the entry under the cursor; `rest` are the entries the next calls of `next()`
  return, in order, before one `None`. -/
  | live (cur : Option (K × V)) (rest : List (K × V))
  /-- `next()` has answered `None` since the last positioning call. -/
  | ended

/-- What a positioning call that leaves the cursor at `p` promises. -/
def expectAt (E : Source K V) (d : Direction) (p : ℤ) : Expect K V :=
  .live (Cursor.entryAt? E.entries p) (Cursor.walk E.entries d.isForward p)

/-- Where `DbIterator::new` leaves the cursor: `SeekToFirst` or `SeekToLast`. -/
def startPos (E : Source K V) : Direction → ℤ
  | .Forward => 0
  | .Backward => (E.entries.length : ℤ) - 1

/-- **The specification of the adapter** over the source `E` in the direction `d`; the answer
`none` promises nothing. -/
def spec (E : Source K V) (d : Direction) :
    Machine (Expect K V) (Call K) (Option (Answer K V)) where
  step
    | .seek k, _ => (some .done, expectAt E d (E.seekPos k))
    | .seekForPrev k, _ => (some .done, expectAt E d (E.seekForPrevPos k))
    | .next, .live _ [] => (some (.item none), .ended)
    | .next, .live _ (x :: xs) => (some (.item (some x)), .live (some x) xs)
    | .key, .live cur rest => (some (.key (cur.map Prod.fst)), .live cur rest)
    | .value, .live cur rest => (some (.value (cur.map Prod.snd)), .live cur rest)
    | .valid, .live cur rest => (some (.valid cur.isSome), .live cur rest)
    | _, .ended => (none, .ended)

/-- The position the next `next()` reads: the cursor itself right after a positioning call,
the position one step on otherwise. -/
def readPos (self : DbIterator K V) : ℤ :=
  if self.justSeeked then self.inner.pos else Cursor.advance self.direction.isForward self.inner.pos

/-- The adapter `self` is where the specification state says: it reads the source `E` in the
direction `d`, and in a live state its cursor is on `cur`, it has read that entry unless a
positioning call came just before, and it walks on from `readPos` through `rest`. -/
def Tracks (E : Source K V) (d : Direction) (self : DbIterator K V) : Expect K V → Prop
  | .ended => self.inner.source = E ∧ self.direction = d
  | .live cur rest =>
    self.inner.source = E ∧ self.direction = d ∧ self.inner.current? = cur ∧
      (self.justSeeked = false → cur.isSome) ∧
      rest = Cursor.walk E.entries d.isForward (readPos self)

variable {E : Source K V} {d : Direction}

/-- What one `next()` does, in terms of `readPos`: it reads there, and stays there. -/
theorem next_reads (self : DbIterator K V) :
    self.next.1 = Cursor.entryAt? self.inner.source.entries (readPos self) ∧
      self.next.2.inner.pos = readPos self ∧ self.next.2.justSeeked = false ∧
      self.next.2.inner.source = self.inner.source ∧ self.next.2.direction = self.direction := by
  rw [next_eq]
  cases h : self.justSeeked <;> simp [readPos, h, Iterator.current?]

theorem tracks_ended_of_tracks {self : DbIterator K V} {t : Expect K V}
    (h : Tracks E d self t) : Tracks E d self .ended := by
  cases t with
  | ended => exact h
  | live cur rest => exact ⟨h.1, h.2.1⟩

/-- A positioning call puts the adapter where the specification says, from every state. -/
theorem tracks_positioned (self : DbIterator K V) (hsrc : self.inner.source = E)
    (hdir : self.direction = d) (p : ℤ) (hp : self.inner.pos = p)
    (hj : self.justSeeked = true) : Tracks E d self (expectAt E d p) := by
  subst hsrc hdir hp
  exact ⟨rfl, rfl, rfl, by simp [hj], by simp [readPos, hj]⟩

theorem tracks_new (it : Iterator K V) (d : Direction) :
    Tracks it.source d (new it d) (expectAt it.source d (startPos it.source d)) := by
  cases d <;> exact tracks_positioned _ rfl rfl _ rfl rfl

/-- **One `next()` from a live state** answers the head of `rest`, and the specification moves
on with it ... -/
theorem tracks_next_cons {self : DbIterator K V} {cur : Option (K × V)} {x : K × V}
    {xs : List (K × V)} (h : Tracks E d self (.live cur (x :: xs))) :
    self.next.1 = some x ∧ Tracks E d self.next.2 (.live (some x) xs) := by
  obtain ⟨hsrc, hdir, -, -, hrest⟩ := h
  obtain ⟨h1, h2, h3, h4, h5⟩ := next_reads self
  rw [hsrc] at h1
  cases hr : Cursor.entryAt? E.entries (readPos self) with
  | none => rw [Cursor.walk_of_entryAt?_eq_none hr] at hrest; cases hrest
  | some y =>
    rw [Cursor.walk_of_entryAt?_eq_some hr, List.cons.injEq] at hrest
    obtain ⟨rfl, rfl⟩ := hrest
    -- the adapter now sits on the entry it returned, and reads one step on next time
    have hread : readPos self.next.2 = Cursor.advance d.isForward (readPos self) := by
      show (if self.next.2.justSeeked then _ else _) = _
      rw [h3, h5, hdir, h2]
      rfl
    refine ⟨h1.trans hr, h4.trans hsrc, h5.trans hdir, ?_, fun _ => rfl, by rw [hread]⟩
    rw [Iterator.current?, h4, hsrc, h2, hr]

/-- ... or answers `None` at the end of `rest`, after which nothing is promised. -/
theorem tracks_next_nil {self : DbIterator K V} {cur : Option (K × V)}
    (h : Tracks E d self (.live cur [])) :
    self.next.1 = none ∧ Tracks E d self.next.2 .ended := by
  obtain ⟨hsrc, hdir, -, -, hrest⟩ := h
  obtain ⟨h1, -, -, h4, h5⟩ := next_reads self
  rw [hsrc] at h1
  cases hr : Cursor.entryAt? E.entries (readPos self) with
  | none => exact ⟨h1.trans hr, h4.trans hsrc, h5.trans hdir⟩
  | some y => rw [Cursor.walk_of_entryAt?_eq_some hr] at hrest; cases hrest

/-- The reads `key()`, `value()` and `valid()` answer from the entry under the cursor. -/
theorem tracks_read {self : DbIterator K V} {cur : Option (K × V)} {rest : List (K × V)}
    (h : Tracks E d self (.live cur rest)) :
    self.key = cur.map Prod.fst ∧ self.value = cur.map Prod.snd ∧ self.valid = cur.isSome := by
  rw [key_eq, value_eq, valid_eq, h.2.2.1]
  exact ⟨rfl, rfl, rfl⟩

/-- **The adapter refines its specification**: `Tracks` is kept by every call, and under it
the adapter gives every answer the specification names. -/
theorem isRefinement (E : Source K V) (d : Direction) :
    machine.IsRefinement (spec E d) (Tracks E d) where
  answer c self t x h hx := by
    cases c with
    | seek k => cases t <;> simp_all [machine, spec]
    | seekForPrev k => cases t <;> simp_all [machine, spec]
    | next =>
      cases t with
      | ended => simp [spec] at hx
      | live cur rest =>
        cases rest with
        | nil =>
          simp only [spec, Option.some.injEq] at hx
          simp [machine, (tracks_next_nil h).1, ← hx]
        | cons y ys =>
          simp only [spec, Option.some.injEq] at hx
          simp [machine, (tracks_next_cons h).1, ← hx]
    | key | value | valid =>
      cases t with
      | ended => simp [spec] at hx
      | live cur rest =>
        obtain ⟨hk, hv, hb⟩ := tracks_read h
        simp only [spec, Option.some.injEq] at hx
        simp only [machine, hk, hv, hb, ← hx]
  step c self t h := by
    have hs := tracks_ended_of_tracks h
    cases c with
    | seek k => exact tracks_positioned (self.seek k) hs.1 hs.2 _ (by simp [hs.1]) rfl
    | seekForPrev k =>
      exact tracks_positioned (self.seekForPrev k) hs.1 hs.2 _ (by simp [hs.1]) rfl
    | next =>
      cases t with
      | ended => exact ⟨(next_reads self).2.2.2.1.trans hs.1, (next_reads self).2.2.2.2.trans hs.2⟩
      | live cur rest =>
        cases rest with
        | nil => exact (tracks_next_nil h).2
        | cons y ys => exact (tracks_next_cons h).2
    | key | value | valid => cases t <;> exact h

/-- `collect` of a tracked live adapter returns `rest`, given one call more than its length. -/
theorem collect_of_tracks {self : DbIterator K V} {cur : Option (K × V)} {rest : List (K × V)}
    (h : Tracks E d self (.live cur rest)) {fuel : ℕ} (hf : rest.length < fuel) :
    collect fuel self = rest := by
  induction fuel generalizing self cur rest with
  | zero => omega
  | succ fuel ih =>
    cases rest with
    | nil => simp [collect, (tracks_next_nil h).1]
    | cons x xs =>
      have hn := tracks_next_cons h
      rw [collect, hn.1]
      exact congrArg (x :: ·) (ih hn.2 (by simpa using hf))

theorem walk_startPos_forward (E : Source K V) :
    Cursor.walk E.entries true (startPos E .Forward) = E.entries := by
  simpa [startPos] using Cursor.walk_true_natCast E.entries 0

theorem walk_startPos_backward (E : Source K V) :
    Cursor.walk E.entries false (startPos E .Backward) = E.entries.reverse := by
  rw [startPos, Cursor.walk_false_sub_one E.entries (Nat.le_refl _), List.take_length]

/-- A forward walk from where `Seek k` leaves the cursor meets exactly the entries at or past
`k`, since the source ascends. -/
theorem walk_seekPos (E : Source K V) (k : K) :
    Cursor.walk E.entries true (E.seekPos k) = E.entries.filter fun e => decide (k ≤ e.1) := by
  rw [Source.seekPos, Cursor.walk_true_natCast]
  exact Cursor.drop_findIdx_eq_filter E.ascending fun a b hab ha => by
    simp only [decide_eq_true_eq] at ha ⊢
    exact ha.trans hab.le

/-- ... and a backward walk from where `SeekForPrev k` leaves it meets exactly the entries at
or before `k`, in descending order. -/
theorem walk_seekForPrevPos (E : Source K V) (k : K) :
    Cursor.walk E.entries false (E.seekForPrevPos k) =
      (E.entries.filter fun e => decide (e.1 ≤ k)).reverse := by
  rw [Source.seekForPrevPos, Cursor.walk_false_sub_one E.entries List.findIdx_le_length,
    Cursor.take_findIdx_eq_filter E.ascending fun a b hab ha => by
      simp only [decide_eq_true_eq] at ha ⊢
      exact ha.trans hab]
  refine congrArg List.reverse (List.filter_congr fun e _ => ?_)
  rcases lt_or_ge k e.1 with h | h
  · simp [h, not_le.2 h]
  · simp [h, not_lt.2 h]

/-- **`next()` after a positioning call.**  On every interleaving of calls, from a fresh
adapter, the adapter gives every answer its specification names: after a positioning call
that leaves the cursor at `p`, the calls of `next()` up to the first `None` answer
`E[p], E[p ± 1], …` in the adapter's direction, each entry of that range once and none
skipped.  In particular collecting a fresh forward adapter gives the source, a fresh backward
one its reverse, and a forward adapter after `seek k` the entries with key `≥ k` in ascending
order; `key()` and `value()` read the entry under the cursor. -/
theorem meets_spec (it : Iterator K V) (d : Direction) :
    (∀ calls : List (Call K), Machine.Meets (machine.run calls (new it d)).1
      ((spec it.source d).run calls (expectAt it.source d (startPos it.source d))).1) ∧
    (∀ fuel, it.source.entries.length < fuel →
      collect fuel (new it .Forward) = it.source.entries) ∧
    (∀ fuel, it.source.entries.length < fuel →
      collect fuel (new it .Backward) = it.source.entries.reverse) ∧
    (∀ (self : DbIterator K V) (k : K) (fuel : ℕ), self.direction = .Forward →
      self.inner.source.entries.length < fuel →
      collect fuel (self.seek k) = self.inner.source.entries.filter fun e => decide (k ≤ e.1)) ∧
    (∀ self : DbIterator K V,
      self.key = self.inner.current?.map Prod.fst ∧
        self.value = self.inner.current?.map Prod.snd) := by
  refine ⟨fun calls => (isRefinement it.source d).run_meets calls (tracks_new it d),
    fun fuel hf => ?_, fun fuel hf => ?_, fun self k fuel hd hf => ?_,
    fun self => ⟨key_eq self, value_eq self⟩⟩
  · have h := tracks_new it .Forward
    rw [expectAt, show Direction.Forward.isForward = true from rfl, walk_startPos_forward] at h
    exact collect_of_tracks h hf
  · have h := tracks_new it .Backward
    rw [expectAt, show Direction.Backward.isForward = false from rfl,
      walk_startPos_backward] at h
    exact collect_of_tracks h (by simpa using hf)
  · have h := tracks_positioned (E := self.inner.source) (self.seek k) rfl hd _ rfl rfl
    rw [expectAt, seek_inner, Iterator.seek_pos, show Direction.Forward.isForward = true from rfl,
      walk_seekPos] at h
    exact collect_of_tracks h (Nat.lt_of_le_of_lt (List.length_filter_le _ _) hf)

/-- **Collecting after `seek_for_prev`.**  A backward adapter sought with `seek_for_prev k`
yields the entries with key `≤ k`, each once, in descending order. -/
theorem collect_seekForPrev_backward (self : DbIterator K V) (k : K) (fuel : ℕ)
    (hd : self.direction = .Backward) (hf : self.inner.source.entries.length < fuel) :
    collect fuel (self.seekForPrev k) =
      (self.inner.source.entries.filter fun e => decide (e.1 ≤ k)).reverse := by
  have h := tracks_positioned (E := self.inner.source) (self.seekForPrev k) rfl hd _ rfl rfl
  rw [expectAt, seekForPrev_inner, Iterator.seekForPrev_pos,
    show Direction.Backward.isForward = false from rfl, walk_seekForPrevPos] at h
  -- the filtered entries are no more than the source's
  have hlen : (self.inner.source.entries.filter fun e => decide (e.1 ≤ k)).reverse.length < fuel := by
    rw [List.length_reverse]
    exact Nat.lt_of_le_of_lt (List.length_filter_le _ _) hf
  exact collect_of_tracks h hlen

theorem collect_seekForPrev_backward_two :
    (new ⟨⟨[(1, 0), (2, 0)], by simp⟩, 0, false⟩ .Backward : DbIterator ℕ ℕ).direction =
        .Backward ∧
      (new ⟨⟨[(1, 0), (2, 0)], by simp⟩, 0, false⟩ .Backward :
        DbIterator ℕ ℕ).inner.source.entries.length < 3 ∧
      collect 3 ((new ⟨⟨[(1, 0), (2, 0)], by simp⟩, 0, false⟩ .Backward :
          DbIterator ℕ ℕ).seekForPrev 1) =
        ((new ⟨⟨[(1, 0), (2, 0)], by simp⟩, 0, false⟩ .Backward :
          DbIterator ℕ ℕ).inner.source.entries.filter fun e => decide (e.1 ≤ 1)).reverse :=
  ⟨rfl, by decide, collect_seekForPrev_backward _ 1 3 rfl (by decide)⟩

end DbIterator

end Autorocks
