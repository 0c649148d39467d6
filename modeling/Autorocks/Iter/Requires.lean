import Autorocks.Iter.Spec
import Mathlib

/-!
# `next()` after the end of the stream

Rust's `Iterator` contract allows `next()` to be called again after it has answered `None`.
The adapter clears `just_seeked` on the first call after a positioning call, so a `next()`
after a `None` moves the inner iterator, which is not valid there: the move breaks the
`REQUIRES: Valid()` of `Iterator::Next` and `Iterator::Prev`
(`DbIterator.next_after_none_misuses`).  What such a move does is undefined in RocksDB; the
cursor model, which stands in for the inner iterator, steps on from the invalid position, and
so can come back onto the source and answer `Some` after `None`
(`DbIterator.next_after_none_reads`): that answer is the model's, not a documented behaviour.
A forward adapter sought with `seek_for_prev` before its first key shows both
(`DbIterator.seekForPrev_before_first`).

Callers that stop at the first `None`, as `count()` and `collect()` do, never reach that
state: every call of such a caller respects the requirements of the inner iterator
(`DbIterator.misused_run_of_heeds`).  `key` and `value` of the inner iterator take the proof
of validity as an argument, so they are respected by construction.
-/

namespace Autorocks

namespace DbIterator

variable {K V : Type*} [LinearOrder K]

/-- The position the `next()` after this one reads, once this one has answered `None`. -/
theorem next_after_none_readPos (self : DbIterator K V) :
    readPos self.next.2 = Cursor.advance self.direction.isForward (readPos self) := by
  obtain ⟨-, h2, h3, -, h5⟩ := next_reads self
  show (if self.next.2.justSeeked then _ else _) = _
  rw [h3, h5, h2]
  rfl

/-- **A `next()` after a `None` moves an iterator that is not valid**, breaking the
`REQUIRES: Valid()` of `Next` or `Prev`, whatever the source, direction and history: the `None`
leaves the inner iterator invalid and `just_seeked` false, so the next call moves it. -/
theorem next_after_none_misuses (self : DbIterator K V) (h : self.next.1 = none) :
    self.next.2.inner.valid = false ∧ self.next.2.justSeeked = false ∧
      self.next.2.next.2.inner = innerMove self.direction self.next.2.inner ∧
      self.next.2.next.2.inner.misused = true := by
  obtain ⟨h1, h2, h3, h4, h5⟩ := next_reads self
  -- the state `next()` left sits on the position it read, which is off the list
  have hinvalid : self.next.2.inner.valid = false := by
    rw [Iterator.valid, Iterator.current?, h4, h2, ← h1, h]
    rfl
  have hmove := next_of_not_justSeeked _ h3
  refine ⟨hinvalid, h3, ?_, ?_⟩
  · rw [hmove, h5]
  · rw [hmove]
    simp [hinvalid]

theorem next_after_none_misuses_empty :
    let it : DbIterator ℕ ℕ := new ⟨⟨[], by simp⟩, 0, false⟩ .Forward
    it.next.1 = none ∧ it.next.2.inner.valid = false ∧ it.next.2.justSeeked = false ∧
      it.next.2.next.2.inner = innerMove it.direction it.next.2.inner ∧
      it.next.2.next.2.inner.misused = true := by
  intro it
  have h : it.next.1 = none := by decide
  exact ⟨h, next_after_none_misuses it h⟩

/-- ... and it reads one step past the position that answered `None`, which can be on the
source again. -/
theorem next_after_none_reads (self : DbIterator K V) :
    self.next.2.next.1 =
      Cursor.entryAt? self.inner.source.entries
        (Cursor.advance self.direction.isForward (readPos self)) := by
  rw [(next_reads self.next.2).1, (next_reads self).2.2.2.1, next_after_none_readPos]

/-- The failing input: the source `[(1, 0)]` read forward, sought with `seek_for_prev 0`
before its first key.  The first `next()` answers `None`; the second calls `Next()` on the
invalid iterator.  That it then answers `Some (1, 0)` is what the cursor model does when it
steps from before the first entry; RocksDB leaves the result of a `Next()` on an invalid
iterator undefined. -/
theorem seekForPrev_before_first :
    ((new ⟨⟨[(1, 0)], by simp⟩, 0, false⟩ .Forward : DbIterator ℕ ℕ).seekForPrev 0).next.1 = none ∧
      ((new ⟨⟨[(1, 0)], by simp⟩, 0, false⟩ .Forward : DbIterator ℕ ℕ).seekForPrev 0).next.2.next.1 =
        some (1, 0) ∧
      ((new ⟨⟨[(1, 0)], by simp⟩, 0, false⟩ .Forward :
        DbIterator ℕ ℕ).seekForPrev 0).next.2.next.2.inner.misused = true := by
  decide

/-! ### Callers that stop at the first `None` -/

/-- The calls `cs`, made from the specification state `t`, never ask `next()` again after a
`None` without a positioning call in between. -/
def Heeds (E : Source K V) (d : Direction) : Expect K V → List (Call K) → Prop
  | _, [] => True
  | .ended, .next :: _ => False
  | t, c :: cs => Heeds E d ((spec E d).step c t).2 cs

variable {E : Source K V} {d : Direction}

/-- One call that is not a `next()` after a `None` keeps the ghost flag. -/
theorem misused_step {self : DbIterator K V} {t : Expect K V} (h : Tracks E d self t)
    (c : Call K) (hc : ¬ (t = .ended ∧ c = .next)) :
    (machine.step c self).2.inner.misused = self.inner.misused := by
  cases c with
  | next =>
    cases t with
    | ended => exact absurd ⟨rfl, rfl⟩ hc
    | live cur rest =>
      obtain ⟨-, -, hcur, hvalid, -⟩ := h
      show self.next.2.inner.misused = _
      cases hj : self.justSeeked
      · -- a move, of an iterator that sits on the entry it returned last
        have hv : self.inner.valid = true := by rw [Iterator.valid, hcur]; exact hvalid hj
        rw [next_of_not_justSeeked _ hj]
        simp [hv]
      · rw [next_of_justSeeked _ hj]
  | _ => rfl

/-- **Callers that stop at the first `None` respect `REQUIRES: Valid()`**: along every list of
calls that heeds the end of the stream, no `Next` or `Prev` is made on an invalid iterator. -/
theorem misused_run_of_heeds {self : DbIterator K V} {t : Expect K V} (h : Tracks E d self t)
    (cs : List (Call K)) (hc : Heeds E d t cs) :
    (machine.run cs self).2.inner.misused = self.inner.misused := by
  induction cs generalizing self t with
  | nil => rfl
  | cons c cs ih =>
    -- the first call is not a `next()` after a `None`, and the rest heeds from the next state
    have hfirst : ¬ (t = .ended ∧ c = .next) := by
      rintro ⟨rfl, rfl⟩
      exact hc
    have hrest : Heeds E d ((spec E d).step c t).2 cs := by
      cases t <;> cases c <;> first | exact hc | exact absurd ⟨rfl, rfl⟩ hfirst
    rw [Machine.run_cons, ih ((isRefinement E d).step c self t h) hrest, misused_step h c hfirst]

theorem misused_run_of_heeds_new :
    Heeds ⟨[(1, 0)], by simp⟩ .Forward
        (expectAt ⟨[(1, 0)], by simp⟩ .Forward (startPos ⟨[(1, 0)], by simp⟩ .Forward))
        [.next, .next, .seek 0, .next] ∧
      (machine.run [.next, .next, .seek 0, .next]
          (new ⟨⟨[(1, 0)], by simp⟩, 0, false⟩ .Forward : DbIterator ℕ ℕ)).2.inner.misused =
        (new ⟨⟨[(1, 0)], by simp⟩, 0, false⟩ .Forward : DbIterator ℕ ℕ).inner.misused :=
  have hc : Heeds ⟨[(1, 0)], by simp⟩ .Forward
      (expectAt ⟨[(1, 0)], by simp⟩ .Forward (startPos ⟨[(1, 0)], by simp⟩ .Forward))
      [.next, .next, .seek 0, .next] := trivial
  ⟨hc, misused_run_of_heeds (tracks_new ⟨⟨[(1, 0)], by simp⟩, 0, false⟩ .Forward) _ hc⟩

end DbIterator

end Autorocks
