import Autorocks.Lib.Machine

/-!
# The buffer of the latest deadlocks

`DeadlockInfoBufferTempl` of `point_lock_manager.h` keeps the last deadlocks the lock manager
found, for `GetDeadlockInfoBuffer`: a vector of `n` slots used as a ring, `buffer_idx_` being
the slot the next path is written to.  A slot that was never written holds the default path,
which is `empty()`; `Normalize` tells the two shapes of the ring apart by looking at the slot
under `buffer_idx_`:

* before the ring wraps, the paths are in the slots before `buffer_idx_`, oldest first, and
  every slot from `buffer_idx_` on is empty (`DeadlockInfoBufferTempl.Holds.filling`);
* after it wraps, every slot holds a path and `buffer_idx_` is the oldest one
  (`DeadlockInfoBufferTempl.Holds.wrapped`).

So the buffer is a bounded history: `AddNewPath` puts a path in front and forgets the oldest
past the capacity, and `PrepareBuffer` returns the history newest first
(`DeadlockInfoBufferTempl.holds_AddNewPath`, `DeadlockInfoBufferTempl.PrepareBuffer_eq`),
as long as no empty path is added: an empty path would read as an unused slot.

`Resize` keeps the newest paths that fit.  Resized to exactly the number of paths it holds,
the buffer sets `buffer_idx_` to its own size; the next `Normalize` then reads the slot past
the end of the vector, and the next `AddNewPath` writes there
(`DeadlockInfoBufferTempl.Resize_length_undefined`).  Out-of-bounds accesses are the model's
`none`.

On every list of calls that adds no empty path and resizes to no nonzero number of paths held,
the buffer answers as the bounded history does (`DeadlockInfoBufferTempl.run_machine`).
-/

namespace Autorocks

/-- `std::vector::resize(n)`: cut to the first `n` elements, or pad with default ones. -/
def vectorResize {α : Type*} [Inhabited α] (l : List α) (n : ℕ) : List α :=
  l.take n ++ List.replicate (n - l.length) default

/-- `DeadlockInfoBufferTempl<Path>`: the slots `paths_buffer_` and the index `buffer_idx_` of
the next write. -/
structure DeadlockInfoBufferTempl (Path : Type*) where
  pathsBuffer : List Path
  bufferIdx : ℕ
  deriving DecidableEq, Repr

namespace DeadlockInfoBufferTempl

variable {Path : Type*} [Inhabited Path] (empty : Path → Bool)

/-- `DeadlockInfoBufferTempl(n_latest_dlocks)`: `n` default slots. -/
def new (nLatestDlocks : ℕ) : DeadlockInfoBufferTempl Path :=
  ⟨List.replicate nLatestDlocks default, 0⟩

/-- `Normalize()`: the paths oldest first.  `empty` is the template's `Path::empty()`. -/
def Normalize (b : DeadlockInfoBufferTempl Path) : Option (List Path) :=
  let working := b.pathsBuffer
  if working.isEmpty then some working
  else
    match b.pathsBuffer[b.bufferIdx]? with
    | none => none
    | some p =>
      -- the next write goes to an unused slot: the ring has not wrapped
      if empty p then some (vectorResize working b.bufferIdx)
      else some (working.rotate b.bufferIdx)

/-- `AddNewPath(path)`: write the slot under `buffer_idx_` and move it on, round the ring. -/
def AddNewPath (b : DeadlockInfoBufferTempl Path) (path : Path) :
    Option (DeadlockInfoBufferTempl Path) :=
  if b.pathsBuffer.isEmpty then some b
  else if b.bufferIdx < b.pathsBuffer.length then
    some ⟨b.pathsBuffer.set b.bufferIdx path, (b.bufferIdx + 1) % b.pathsBuffer.length⟩
  else none

/-- `Resize(target_size)`: normalize, then drop the oldest paths past the target, or grow with
unused slots after the paths. -/
def Resize (b : DeadlockInfoBufferTempl Path) (targetSize : ℕ) :
    Option (DeadlockInfoBufferTempl Path) := do
  let normalized ← b.Normalize empty
  if targetSize < normalized.length then
    some ⟨normalized.drop (normalized.length - targetSize), 0⟩
  else
    some ⟨vectorResize normalized targetSize, normalized.length⟩

/-- `PrepareBuffer()`: the paths newest first. -/
def PrepareBuffer (b : DeadlockInfoBufferTempl Path) : Option (List Path) :=
  (b.Normalize empty).map List.reverse

/-- The buffer holds the paths `latest`, newest first, in one of its shapes. -/
inductive Holds (b : DeadlockInfoBufferTempl Path) (latest : List Path) : Prop
  /-- No slot: nothing is kept. -/
  | noSlot (hb : b.pathsBuffer = []) (hl : latest = [])
  /-- Before the ring wraps: the paths oldest first, then `m + 1` unused slots, the first of
  them under `buffer_idx_`. -/
  | filling (m : ℕ) (hb : b.pathsBuffer = latest.reverse ++ List.replicate (m + 1) default)
      (hidx : b.bufferIdx = latest.length)
  /-- After it wraps: the paths from `buffer_idx_` to the end and then from the start are the
  paths oldest first. -/
  | wrapped (older newer : List Path) (hb : b.pathsBuffer = newer ++ older)
      (hidx : b.bufferIdx = newer.length) (hne : older ≠ []) (hrot : older ++ newer = latest.reverse)

/-- What the buffer means: the paths it holds, none of them empty. -/
structure Refines (b : DeadlockInfoBufferTempl Path) (latest : List Path) : Prop where
  holds : b.Holds latest
  nonempty : ∀ p ∈ latest, empty p = false

variable {empty}

theorem holds_new (n : ℕ) : (new n : DeadlockInfoBufferTempl Path).Holds [] := by
  cases n with
  | zero => exact .noSlot rfl rfl
  | succ m => exact .filling m (by simp [new]) rfl

/-- `Normalize` reads the paths oldest first off either shape. -/
theorem Normalize_eq {b : DeadlockInfoBufferTempl Path} {latest : List Path}
    (hd : empty default = true) (h : b.Refines empty latest) :
    b.Normalize empty = some latest.reverse := by
  cases h.holds with
  | noSlot hb hl => simp [Normalize, hb, hl]
  | filling m hb hidx =>
    simp [Normalize, hd, hb, hidx, vectorResize]
  | wrapped older newer hb hidx hne hrot =>
    -- the slot under `buffer_idx_` holds the oldest path, which is not empty
    obtain ⟨p, older', rfl⟩ := List.exists_cons_of_ne_nil hne
    have hp : empty p = false := h.nonempty p (by
      rw [← List.mem_reverse, ← hrot]; exact List.mem_append_left _ List.mem_cons_self)
    have hslot : b.pathsBuffer[b.bufferIdx]? = some p := by simp [hb, hidx]
    have hne' : b.pathsBuffer.isEmpty = false := by simp [hb]
    simp only [Normalize, hne', hslot, hp, Bool.false_eq_true, ↓reduceIte]
    rw [hb, hidx, List.rotate_append_length_eq, hrot]

/-- **`PrepareBuffer` returns the paths newest first.** -/
theorem PrepareBuffer_eq {b : DeadlockInfoBufferTempl Path} {latest : List Path}
    (hd : empty default = true) (h : b.Refines empty latest) :
    b.PrepareBuffer empty = some latest := by
  simp [PrepareBuffer, Normalize_eq hd h]

omit [Inhabited Path] in
theorem AddNewPath_of_lt {b : DeadlockInfoBufferTempl Path} (p : Path)
    (hlt : b.bufferIdx < b.pathsBuffer.length) :
    b.AddNewPath p =
      some ⟨b.pathsBuffer.set b.bufferIdx p, (b.bufferIdx + 1) % b.pathsBuffer.length⟩ := by
  have hne : b.pathsBuffer.isEmpty = false := by
    rw [List.isEmpty_eq_false_iff, ← List.length_pos_iff]
    omega
  simp [AddNewPath, hlt, hne]

omit [Inhabited Path] in
/-- A full ring forgets its oldest path: `(p :: latest).take (length latest)`, oldest first. -/
theorem reverse_take_cons_length {latest : List Path} (p : Path) (hne : latest ≠ []) :
    ((p :: latest).take latest.length).reverse = latest.reverse.tail ++ [p] := by
  obtain ⟨l, z, rfl⟩ := (List.eq_nil_or_concat latest).resolve_left hne
  simp

/-- **`AddNewPath` puts the path in front of the history** and forgets what no longer fits. -/
theorem refines_AddNewPath {b : DeadlockInfoBufferTempl Path} {latest : List Path}
    (h : b.Refines empty latest) {p : Path} (hp : empty p = false) :
    ∃ b', b.AddNewPath p = some b' ∧ b'.pathsBuffer.length = b.pathsBuffer.length ∧
      b'.Refines empty ((p :: latest).take b.pathsBuffer.length) := by
  have hnon : ∀ q ∈ (p :: latest).take b.pathsBuffer.length, empty q = false := by
    intro q hq
    rcases List.mem_cons.1 (List.mem_of_mem_take hq) with rfl | hq
    · exact hp
    · exact h.nonempty q hq
  cases h.holds with
  | noSlot hb hl =>
    refine ⟨b, by simp [AddNewPath, hb], rfl, ⟨.noSlot hb (by simp [hb]), hnon⟩⟩
  | filling m hb hidx =>
    have hlt : b.bufferIdx < b.pathsBuffer.length := by simp [hb, hidx]
    have hset : b.pathsBuffer.set b.bufferIdx p =
        (p :: latest).reverse ++ List.replicate m default := by
      rw [hb, hidx, List.set_append_right _ _ (by simp)]
      simp [List.replicate_succ]
    refine ⟨_, AddNewPath_of_lt p hlt, by simp, ⟨?_, hnon⟩⟩
    have htake : (p :: latest).take b.pathsBuffer.length = p :: latest := by
      rw [List.take_of_length_le]
      simp [hb]
    rw [htake]
    cases m with
    | zero =>
      -- the last unused slot is written: the ring wraps onto its first slot
      refine .wrapped ((p :: latest).reverse) [] ?_ ?_ (by simp) (by simp)
      · simpa using hset
      · simp [hb, hidx]
    | succ m =>
      refine .filling m hset ?_
      simp only [hb, hidx, List.length_append, List.length_reverse, List.length_replicate]
      rw [Nat.mod_eq_of_lt (by omega)]
      simp
  | wrapped older newer hb hidx hne hrot =>
    obtain ⟨o, older', rfl⟩ := List.exists_cons_of_ne_nil hne
    have hlt : b.bufferIdx < b.pathsBuffer.length := by simp [hb, hidx]
    have hset : b.pathsBuffer.set b.bufferIdx p = (newer ++ [p]) ++ older' := by
      rw [hb, hidx, List.set_append_right _ _ (Nat.le_refl _)]
      simp
    have hlen : b.pathsBuffer.length = latest.length := by
      rw [← @List.length_reverse _ latest, ← hrot, hb]
      simp only [List.length_append, List.length_cons]
      omega
    have hlatest : latest ≠ [] := by
      rintro rfl
      simp at hrot
    -- the oldest path `o` is overwritten
    have hrev : ((p :: latest).take b.pathsBuffer.length).reverse = older' ++ (newer ++ [p]) := by
      rw [hlen, reverse_take_cons_length p hlatest, ← hrot]
      simp
    refine ⟨_, AddNewPath_of_lt p hlt, by simp, ⟨?_, hnon⟩⟩
    cases older' with
    | nil =>
      refine .wrapped (newer ++ [p]) [] (by simpa using hset) ?_ (by simp) (by rw [hrev]; simp)
      simp [hb, hidx]
    | cons o' older' =>
      refine .wrapped (o' :: older') (newer ++ [p]) hset ?_ (by simp) hrev.symm
      simp only [hb, hidx, List.length_append, List.length_cons]
      rw [Nat.mod_eq_of_lt (by omega)]
      simp

/-- **`Resize` keeps the newest paths that fit**, when the target is not the number of paths
held. -/
theorem refines_Resize {b : DeadlockInfoBufferTempl Path} {latest : List Path}
    (hd : empty default = true) (h : b.Refines empty latest) {targetSize : ℕ}
    (ht : targetSize ≠ latest.length ∨ targetSize = 0) :
    ∃ b', b.Resize empty targetSize = some b' ∧ b'.pathsBuffer.length = targetSize ∧
      b'.Refines empty (latest.take targetSize) := by
  have hnon : ∀ q ∈ latest.take targetSize, empty q = false :=
    fun q hq => h.nonempty q (List.mem_of_mem_take hq)
  have hn := Normalize_eq hd h
  by_cases hlt : targetSize < latest.length
  · -- the oldest paths are dropped, and the newest fill the new ring
    have hdrop : latest.reverse.drop (latest.length - targetSize) =
        (latest.take targetSize).reverse := by
      rw [List.drop_reverse, Nat.sub_sub_self hlt.le]
    refine ⟨⟨latest.reverse.drop (latest.length - targetSize), 0⟩, by simp [Resize, hn, hlt],
      by simp; omega, ⟨?_, hnon⟩⟩
    cases targetSize with
    | zero => exact .noSlot (by simp) (by simp)
    | succ t =>
      refine .wrapped ((latest.take (t + 1)).reverse) [] (by simpa using hdrop) rfl ?_ (by simp)
      rw [ne_eq, List.reverse_eq_nil_iff, List.take_eq_nil_iff, not_or]
      exact ⟨by omega, fun hl => by simp [hl] at hlt⟩
  · have hle : latest.length ≤ targetSize := not_lt.1 hlt
    have htake : latest.take targetSize = latest := List.take_of_length_le hle
    refine ⟨⟨vectorResize latest.reverse targetSize, latest.length⟩, by simp [Resize, hn, hlt],
      by simp [vectorResize]; omega, ⟨?_, hnon⟩⟩
    rw [htake]
    rcases Nat.lt_or_eq_of_le hle with hgt | heq
    · -- the ring grows by unused slots after the paths
      obtain ⟨m, hm⟩ : ∃ m, targetSize - latest.length = m + 1 := ⟨_, (Nat.succ_pred_eq_of_pos
        (Nat.sub_pos_of_lt hgt)).symm⟩
      exact .filling m (by simp [vectorResize, hm, hle]) (by simp)
    · have h0 : targetSize = 0 := ht.resolve_left (by omega)
      have hl : latest = [] := List.eq_nil_of_length_eq_zero (by omega)
      exact .noSlot (by simp [vectorResize, hl, h0]) hl

/-- **Resizing to the number of paths held leaves `buffer_idx_` past the end**: the next
`PrepareBuffer` reads the slot past the end of the vector, and the next `AddNewPath` writes it. -/
theorem Resize_length_undefined {b : DeadlockInfoBufferTempl Path} {latest : List Path}
    (hd : empty default = true) (h : b.Refines empty latest) (hne : latest ≠ []) :
    ∃ b', b.Resize empty latest.length = some b' ∧ b'.PrepareBuffer empty = none ∧
      ∀ p, b'.AddNewPath p = none := by
  have hn := Normalize_eq hd h
  have hpos : 0 < latest.length := List.length_pos_iff.2 hne
  refine ⟨⟨latest.reverse, latest.length⟩, by simp [Resize, hn, vectorResize], ?_, fun p => ?_⟩
  · simp [PrepareBuffer, Normalize, hne]
  · simp [AddNewPath, hne]

theorem Resize_length_undefined_one :
    ∃ b b', (new 2 : DeadlockInfoBufferTempl ℕ).AddNewPath 5 = some b ∧
      b.Resize (· == 0) 1 = some b' ∧ b'.PrepareBuffer (· == 0) = none := by
  obtain ⟨b, hadd, -, hb⟩ := refines_AddNewPath
    (⟨holds_new 2, by simp⟩ : (new 2 : DeadlockInfoBufferTempl ℕ).Refines (· == 0) []) (p := 5) rfl
  obtain ⟨b', hres, hprep, -⟩ := Resize_length_undefined rfl hb (by simp [new])
  exact ⟨b, b', hadd, hres, hprep⟩

/-! ### Runs of calls -/

/-- The calls the lock manager makes on its buffer: `AddNewPath` from `IncrementWaiters`,
`PrepareBuffer` from `GetDeadlockInfoBuffer`, `Resize` from `SetDeadlockInfoBufferSize`. -/
inductive Call (Path : Type*) where
  | addNewPath (path : Path)
  | prepareBuffer
  | resize (targetSize : ℕ)

variable (empty) in
/-- The buffer as a machine; the state `none` is the buffer after an access past the end of its
vector, where the model stops.  `PrepareBuffer` answers the paths it returns. -/
def machine : Machine (Option (DeadlockInfoBufferTempl Path)) (Call Path) (Option (List Path)) where
  step
    | _, none => (none, none)
    | .addNewPath p, some b => (none, b.AddNewPath p)
    | .prepareBuffer, some b =>
      match b.PrepareBuffer empty with
      | none => (none, none)
      | some ps => (some ps, some b)
    | .resize t, some b => (none, b.Resize empty t)

/-- What the buffer is for: the latest paths, newest first, at most `capacity` of them. -/
structure History (Path : Type*) where
  latest : List Path
  capacity : ℕ

/-- The bounded history as a machine. -/
def History.machine : Machine (History Path) (Call Path) (Option (List Path)) where
  step
    | .addNewPath p, h => (none, ⟨(p :: h.latest).take h.capacity, h.capacity⟩)
    | .prepareBuffer, h => (some h.latest, h)
    | .resize t, h => (none, ⟨h.latest.take t, t⟩)

variable (empty) in
/-- The calls the buffer is made for, from the history `h` on: no empty path is added, and no
resize is to a nonzero number of paths held. -/
def Admissible : List (Call Path) → History Path → Prop
  | [], _ => True
  | c :: cs, h =>
    (match c with
      | .addNewPath p => empty p = false
      | .prepareBuffer => True
      | .resize t => t ≠ h.latest.length ∨ t = 0) ∧
    Admissible cs ((History.machine.step c h).2)

variable (empty) in
/-- The buffer stands for the history: it holds its paths and has its capacity. -/
def Represents (b : DeadlockInfoBufferTempl Path) (h : History Path) : Prop :=
  b.Refines empty h.latest ∧ b.pathsBuffer.length = h.capacity

/-- One admissible call keeps the buffer standing for the history, with the same answer. -/
theorem machine_step {b : DeadlockInfoBufferTempl Path} {h : History Path}
    (hd : empty default = true) (hr : Represents empty b h) (c : Call Path)
    (hc : Admissible empty [c] h) :
    ∃ b', (machine empty).step c (some b) = ((History.machine.step c h).1, some b') ∧
      Represents empty b' (History.machine.step c h).2 := by
  obtain ⟨hb, hlen⟩ := hr
  cases c with
  | addNewPath p =>
    obtain ⟨b', hadd, hlen', hb'⟩ := refines_AddNewPath hb hc.1
    exact ⟨b', by simp [machine, History.machine, hadd], by
      simpa [History.machine, Represents, hlen', hlen] using hb'⟩
  | prepareBuffer =>
    exact ⟨b, by simp [machine, History.machine, PrepareBuffer_eq hd hb], hb, hlen⟩
  | resize t =>
    obtain ⟨b', hres, hlen', hb'⟩ := refines_Resize hd hb hc.1
    exact ⟨b', by simp [machine, History.machine, hres], hb', hlen'⟩

theorem represents_new (n : ℕ) : Represents empty (new n) ⟨([] : List Path), n⟩ :=
  ⟨⟨holds_new n, by simp⟩, by simp [new]⟩

/-- **On every admissible list of calls the buffer answers as the bounded history**, and never
reads or writes past the end of its vector. -/
theorem run_machine (hd : empty default = true) (calls : List (Call Path))
    {b : DeadlockInfoBufferTempl Path} {h : History Path} (hr : Represents empty b h)
    (hc : Admissible empty calls h) :
    ((machine empty).run calls (some b)).1 = (History.machine.run calls h).1 ∧
      ((machine empty).run calls (some b)).2.isSome := by
  induction calls generalizing b h with
  | nil => simp
  | cons c cs ih =>
    obtain ⟨b', hstep, hr'⟩ := machine_step hd hr c ⟨hc.1, trivial⟩
    obtain ⟨hans, hsome⟩ := ih hr' hc.2
    simp only [Machine.run_cons, hstep]
    exact ⟨by rw [hans], hsome⟩

theorem run_machine_two :
    ((machine (· == 0)).run [.addNewPath 5, .addNewPath 7, .addNewPath 9, .prepareBuffer]
        (some (new 2))).1 =
      (History.machine.run [.addNewPath 5, .addNewPath 7, .addNewPath 9, .prepareBuffer]
        ⟨([] : List ℕ), 2⟩).1 ∧
    ((machine (· == 0)).run [.addNewPath 5, .addNewPath 7, .addNewPath 9, .prepareBuffer]
        (some (new 2))).2.isSome :=
  run_machine rfl _ (represents_new 2) (by simp [Admissible])

end DeadlockInfoBufferTempl

end Autorocks
