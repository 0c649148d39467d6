import Autorocks.Lib.Machine
import Autorocks.Lib.Cursor
import Mathlib

/-!
# The iterator adapter

`DbIterator` (`src/iter.rs`) turns a `rocksdb::Iterator`, which a seek positions and `Next` or
`Prev` then moves, into a Rust iterator whose `next()` first moves and then reads.  The flag
`just_seeked` suppresses the move of the first `next()` after each positioning call: the
`SeekToFirst` or `SeekToLast` of `DbIterator::new`, and every `seek` and `seek_for_prev`.

A `rocksdb::Iterator` over one column family is modelled as a cursor over the entries of the
column (`Source`), a list strictly ascending in key, as `rocksdb/include/rocksdb/iterator.h`
describes it: `SeekToFirst` goes to position `0`, `SeekToLast` to `|E| - 1`, `Seek k` to the
first entry with key `≥ k`, `SeekForPrev k` to the last entry with key `≤ k` (the one before
the first entry with key `> k`), `Next` and `Prev` move by one, and the iterator is `Valid()`
iff its position is on the list.

`Next`, `Prev`, `key` and `value` are documented `REQUIRES: Valid()`.  `Iterator.key` and
`Iterator.value` take the proof of validity as an argument, so that the model cannot call them
without it; a `Next` or `Prev` on an iterator that is not valid is recorded in the ghost field
`Iterator.misused`, which no call reads.

Iterator status errors are not modelled: the source is read without IO errors, so `Valid()`
means "on an entry".
-/

namespace Autorocks

/-- The entries of a column family as an iterator sees them: strictly ascending in key. -/
structure Source (K V : Type*) [LT K] where
  /-- The key-value pairs, in iteration order. -/
  entries : List (K × V)
  ascending : entries.Pairwise fun a b => a.1 < b.1

/-- A `rocksdb::Iterator` over a source. -/
structure Iterator (K V : Type*) [LT K] where
  source : Source K V
  /-- The cursor position; off the list when negative or at least the number of entries. -/
  pos : ℤ
  /-- Ghost state: some `Next` or `Prev` was called while the iterator was not valid. -/
  misused : Bool

namespace Source

variable {K V : Type*} [LinearOrder K] (E : Source K V)

/-- The first entry at or past `target`: where `Seek` leaves the cursor. -/
def seekPos (target : K) : ℤ := E.entries.findIdx fun e => decide (target ≤ e.1)

/-- The last entry at or before `target`, the one before the first entry past `target`: where
`SeekForPrev` leaves the cursor. -/
def seekForPrevPos (target : K) : ℤ := (E.entries.findIdx fun e => decide (target < e.1) : ℤ) - 1

end Source

namespace Iterator

variable {K V : Type*} [LinearOrder K] (it : Iterator K V)

/-- The entry under the cursor, if the iterator is valid. -/
def current? : Option (K × V) := Cursor.entryAt? it.source.entries it.pos

/-- `Iterator::Valid`. -/
def valid : Bool := it.current?.isSome

/-- `Iterator::SeekToFirst`. -/
def seekToFirst : Iterator K V := { it with pos := 0 }

/-- `Iterator::SeekToLast`. -/
def seekToLast : Iterator K V := { it with pos := (it.source.entries.length : ℤ) - 1 }

/-- `Iterator::Seek`. -/
def seek (target : K) : Iterator K V := { it with pos := it.source.seekPos target }

/-- `Iterator::SeekForPrev`. -/
def seekForPrev (target : K) : Iterator K V := { it with pos := it.source.seekForPrevPos target }

/-- `Iterator::Next`, `REQUIRES: Valid()`. -/
def next : Iterator K V := { it with pos := it.pos + 1, misused := it.misused || !it.valid }

/-- `Iterator::Prev`, `REQUIRES: Valid()`. -/
def prev : Iterator K V := { it with pos := it.pos - 1, misused := it.misused || !it.valid }

/-- `Iterator::key`, `REQUIRES: Valid()`. -/
def key (h : it.valid = true) : K := (it.current?.get h).1

/-- `Iterator::value`, `REQUIRES: Valid()`. -/
def value (h : it.valid = true) : V := (it.current?.get h).2

@[simp] theorem seekToFirst_source : it.seekToFirst.source = it.source := rfl
@[simp] theorem seekToLast_source : it.seekToLast.source = it.source := rfl
@[simp] theorem seek_source (k : K) : (it.seek k).source = it.source := rfl
@[simp] theorem seekForPrev_source (k : K) : (it.seekForPrev k).source = it.source := rfl
@[simp] theorem next_source : it.next.source = it.source := rfl
@[simp] theorem prev_source : it.prev.source = it.source := rfl

@[simp] theorem seekToFirst_misused : it.seekToFirst.misused = it.misused := rfl
@[simp] theorem seekToLast_misused : it.seekToLast.misused = it.misused := rfl
@[simp] theorem seek_misused (k : K) : (it.seek k).misused = it.misused := rfl
@[simp] theorem seekForPrev_misused (k : K) : (it.seekForPrev k).misused = it.misused := rfl
@[simp] theorem next_misused : it.next.misused = (it.misused || !it.valid) := rfl
@[simp] theorem prev_misused : it.prev.misused = (it.misused || !it.valid) := rfl

@[simp] theorem seekToFirst_pos : it.seekToFirst.pos = 0 := rfl
@[simp] theorem seekToLast_pos : it.seekToLast.pos = (it.source.entries.length : ℤ) - 1 := rfl
@[simp] theorem seek_pos (k : K) : (it.seek k).pos = it.source.seekPos k := rfl
@[simp] theorem seekForPrev_pos (k : K) : (it.seekForPrev k).pos = it.source.seekForPrevPos k :=
  rfl
@[simp] theorem next_pos : it.next.pos = it.pos + 1 := rfl
@[simp] theorem prev_pos : it.prev.pos = it.pos - 1 := rfl

/-- What the two reads of a valid iterator return together: the entry under the cursor. -/
theorem key_value_eq (h : it.valid = true) : it.current? = some (it.key h, it.value h) := by
  exact (Option.some_get h).symm

end Iterator

/-- `Direction`. -/
inductive Direction where
  | Forward
  | Backward
  deriving DecidableEq, Repr

/-- The direction as the cursor library takes it. -/
def Direction.isForward : Direction → Bool
  | .Forward => true
  | .Backward => false

/-- `DbIterator` (the type parameter `T` and its `PhantomData` only tie the lifetime of the
iterator to the database, and are left out). -/
structure DbIterator (K V : Type*) [LT K] where
  inner : Iterator K V
  justSeeked : Bool
  direction : Direction

namespace DbIterator

variable {K V : Type*} [LinearOrder K] (self : DbIterator K V)

/-- `DbIterator::new`. -/
def new (inner : Iterator K V) (direction : Direction) : DbIterator K V :=
  { inner :=
      match direction with
      | .Forward => inner.seekToFirst
      | .Backward => inner.seekToLast
    justSeeked := true
    direction }

/-- `DbIterator::seek`. -/
def seek (key : K) : DbIterator K V :=
  { self with inner := self.inner.seek key, justSeeked := true }

/-- `DbIterator::seek_for_prev`. -/
def seekForPrev (key : K) : DbIterator K V :=
  { self with inner := self.inner.seekForPrev key, justSeeked := true }

/-- `DbIterator::valid`. -/
def valid : Bool := self.inner.valid

/-- `DbIterator::key`. -/
def key : Option K := if h : self.valid = true then some (self.inner.key h) else none

/-- `DbIterator::value`. -/
def value : Option V := if h : self.valid = true then some (self.inner.value h) else none

theorem key_isSome {self : DbIterator K V} (h : self.inner.valid = true) :
    self.key.isSome = true := by
  simp [key, valid, h]

theorem value_isSome {self : DbIterator K V} (h : self.inner.valid = true) :
    self.value.isSome = true := by
  simp [value, valid, h]

@[simp] theorem valid_eq : self.valid = self.inner.current?.isSome := rfl

theorem key_eq : self.key = self.inner.current?.map Prod.fst := by
  unfold key
  split
  · rename_i h
    rw [Iterator.key_value_eq _ h]; rfl
  · rename_i h
    have hnone : self.inner.current? = none := by simpa [Iterator.valid] using h
    rw [hnone]; rfl

theorem value_eq : self.value = self.inner.current?.map Prod.snd := by
  unfold value
  split
  · rename_i h
    rw [Iterator.key_value_eq _ h]; rfl
  · rename_i h
    have hnone : self.inner.current? = none := by simpa [Iterator.valid] using h
    rw [hnone]; rfl

/-- `<DbIterator as Iterator>::next`.  The move is skipped once after each positioning call;
the two `unwrap_unchecked` are of `Some`, by `key_isSome` and `value_isSome`. -/
def next : Option (K × V) × DbIterator K V :=
  let self :=
    if !self.justSeeked then
      { self with
        inner :=
          match self.direction with
          | .Backward => self.inner.prev
          | .Forward => self.inner.next }
    else { self with justSeeked := false }
  if h : self.inner.valid = true then
    (some (self.key.get (key_isSome h), self.value.get (value_isSome h)), self)
  else (none, self)

/-- `Iterator::collect` of the standard library, which calls `next()` until it answers `None`;
`fuel` bounds the number of calls. -/
def collect : ℕ → DbIterator K V → List (K × V)
  | 0, _ => []
  | fuel + 1, self =>
    match self.next.1 with
    | none => []
    | some x => x :: collect fuel self.next.2

/-! ### One call at a time -/

/-- The calls a Rust caller can make on a `DbIterator`. -/
inductive Call (K : Type*) where
  | seek (key : K)
  | seekForPrev (key : K)
  | next
  | key
  | value
  | valid

/-- What the calls return. -/
inductive Answer (K V : Type*) where
  | done
  | item (x : Option (K × V))
  | key (k : Option K)
  | value (v : Option V)
  | valid (b : Bool)
  deriving DecidableEq

/-- The adapter as a machine: one call of its public interface per step. -/
def machine : Machine (DbIterator K V) (Call K) (Answer K V) where
  step
    | .seek k, self => (.done, self.seek k)
    | .seekForPrev k, self => (.done, self.seekForPrev k)
    | .next, self => (.item self.next.1, self.next.2)
    | .key, self => (.key self.key, self)
    | .value, self => (.value self.value, self)
    | .valid, self => (.valid self.valid, self)

/-! ### Spec lemmas -/

/-- The inner call `next()` makes when it moves. -/
def innerMove (d : Direction) (it : Iterator K V) : Iterator K V :=
  match d with
  | .Backward => it.prev
  | .Forward => it.next

@[simp] theorem innerMove_source (d : Direction) (it : Iterator K V) :
    (innerMove d it).source = it.source := by
  cases d <;> rfl

@[simp] theorem innerMove_pos (d : Direction) (it : Iterator K V) :
    (innerMove d it).pos = Cursor.advance d.isForward it.pos := by
  cases d <;> rfl

@[simp] theorem innerMove_misused (d : Direction) (it : Iterator K V) :
    (innerMove d it).misused = (it.misused || !it.valid) := by
  cases d <;> rfl

@[simp] theorem new_justSeeked (inner : Iterator K V) (d : Direction) :
    (new inner d).justSeeked = true := rfl
@[simp] theorem new_direction (inner : Iterator K V) (d : Direction) :
    (new inner d).direction = d := rfl
@[simp] theorem seek_justSeeked (k : K) : (self.seek k).justSeeked = true := rfl
@[simp] theorem seek_direction (k : K) : (self.seek k).direction = self.direction := rfl
@[simp] theorem seek_inner (k : K) : (self.seek k).inner = self.inner.seek k := rfl
@[simp] theorem seekForPrev_justSeeked (k : K) : (self.seekForPrev k).justSeeked = true := rfl
@[simp] theorem seekForPrev_direction (k : K) :
    (self.seekForPrev k).direction = self.direction := rfl
@[simp] theorem seekForPrev_inner (k : K) :
    (self.seekForPrev k).inner = self.inner.seekForPrev k := rfl

/-- The read at the end of `next()`: both `unwrap_unchecked` of a valid adapter give the entry
under the cursor, and an adapter that is not valid answers `None`. -/
theorem read_eq (s : DbIterator K V) :
    (if h : s.inner.valid = true then
        (some (s.key.get (key_isSome h), s.value.get (value_isSome h)), s)
      else (none, s)) = (s.inner.current?, s) := by
  split
  · rename_i h
    simp [key, value, valid, h, Iterator.key_value_eq _ h]
  · rename_i h
    have hnone : s.inner.current? = none := by simpa [Iterator.valid] using h
    rw [hnone]

/-- **`next()` answers the entry under the cursor** of the state it leaves: the inner
iterator moved in the adapter's direction, unless a positioning call came just before. -/
theorem next_eq :
    self.next =
      let s := if self.justSeeked then { self with justSeeked := false }
        else { self with inner := innerMove self.direction self.inner }
      (s.inner.current?, s) := by
  cases hj : self.justSeeked
  · simp only [next, hj, Bool.not_false, ↓reduceIte, Bool.false_eq_true]
    exact read_eq { self with inner := innerMove self.direction self.inner, justSeeked := false }
  · simp only [next, hj, Bool.not_true, ↓reduceIte, Bool.false_eq_true]
    exact read_eq { self with justSeeked := false }

theorem next_of_justSeeked (h : self.justSeeked = true) :
    self.next = (self.inner.current?, { self with justSeeked := false }) := by
  simp [next_eq, h]

theorem next_of_not_justSeeked (h : self.justSeeked = false) :
    self.next = ((innerMove self.direction self.inner).current?,
      { self with inner := innerMove self.direction self.inner }) := by
  simp [next_eq, h]

/-- Every call keeps the source the adapter reads and the direction it walks. -/
theorem machine_step_source (c : Call K) :
    (machine.step c self).2.inner.source = self.inner.source ∧
      (machine.step c self).2.direction = self.direction := by
  cases c with
  | next =>
    show self.next.2.inner.source = _ ∧ self.next.2.direction = _
    rw [next_eq]
    cases self.justSeeked <;> simp
  | _ => exact ⟨rfl, rfl⟩

end DbIterator

end Autorocks
