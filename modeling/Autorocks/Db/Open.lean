import Autorocks.Db.Wrapper
import Autorocks.Db.Reference
import Autorocks.Options.Layout

/-!
# What opening leaves in the wrappers

A transaction database opened through `TransactionDBWrapper::open` either succeeds, with one
handle per descriptor in order (`open_ok`), or fails with a null `db` and one of three vectors
(`open_error`):

* unchanged, and so empty, when a write policy is refused;
* empty, when `DBImpl::Open` fails;
* full of the handles `DBImpl::Open` made, every one of them deleted, when `Initialize` fails:
  `WrapAnotherDBInternal` deletes them but leaves them in the caller's vector.

In the last case the Rust `TransactionDb::open` drops the wrapper, and its destructor calls
`DestroyColumnFamilyHandle` through the null `db` on deleted handles.
`open_leaves_deleted_handles` runs it on the reference core, with a column whose comparator has
4-byte timestamps, which `VerifyCFOptions` refuses.

On success the layout of the descriptors becomes that of the handles: with the layout of `m`
columns, `default_col()` is `m` and column `i < m` addresses the column family named
`to_string(i)` (`open_layout`).  After a successful load of an options file into
`DbOptions::new(path, n)`, the descriptors have the layout of `n + 1` columns
(`layout_load_of_ok`), so a database opened from them has `default_col() == n + 1`
(`defaultCol_after_load`).
-/

namespace Autorocks

namespace TransactionDBWrapper

variable {W : Type*} {impl : DBImpl W}

/-- **How opening fails.**  No database, and either no handle or the handles of every
descriptor, all of them deleted. -/
theorem open_error (hl : impl.Lawful) (options : DbOptionsWrapper) (t : TransactionDBOptions)
    (w : W) (herr : (new.«open» impl options t w).1.ok = false) :
    (new.«open» impl options t w).2.1.db = none ∧
      ((new.«open» impl options t w).2.1.cfHandles = [] ∨
        ∃ opened : List ColumnFamilyHandle,
          (new.«open» impl options t w).2.1.cfHandles = opened.map some ∧
          opened.length = options.cfDescriptors.length ∧
          ∀ h ∈ opened, impl.live (new.«open» impl options t w).2.2 h = false) := by
  rcases hr : TransactionDB.«open» impl options.dbOptions t options.path options.cfDescriptors
    new.cfHandles w with ⟨s, hs', p, w'⟩
  have hs : s.ok = false := open_status impl new hr ▸ herr
  rw [open_of_not_ok impl new hr hs]
  obtain ⟨-, hcases⟩ := TransactionDB.open_error_cases hl hr hs
  refine ⟨rfl, ?_⟩
  rcases hcases with h | h | h
  · exact .inl h
  · exact .inl h
  · exact .inr h

/-- **A successful open** keeps the database, and one distinct handle per descriptor, each for
a column family of the descriptor's name, whose options `VerifyCFOptions` has accepted. -/
theorem open_ok (hl : impl.Lawful) (options : DbOptionsWrapper) (t : TransactionDBOptions)
    (w : W) (hok : (new.«open» impl options t w).1.ok = true) :
    (new.«open» impl options t w).2.1.db =
        some ⟨PessimisticTransactionDB.validateTxnDBOptions t⟩ ∧
      ∃ opened : List ColumnFamilyHandle,
        (new.«open» impl options t w).2.1.cfHandles = opened.map some ∧ opened.Nodup ∧
        List.Forall₂ (fun h d => ∃ d', impl.created (new.«open» impl options t w).2.2 h = some d' ∧
          d'.name = d.name) opened options.cfDescriptors ∧
        ∀ h ∈ opened, ∃ d, impl.created (new.«open» impl options t w).2.2 h = some d ∧
          (PessimisticTransactionDB.virtualVerifyCFOptions
            ⟨PessimisticTransactionDB.validateTxnDBOptions t⟩ d.options).ok = true := by
  rcases hr : TransactionDB.«open» impl options.dbOptions t options.path options.cfDescriptors
    new.cfHandles w with ⟨s, hs', p, w'⟩
  have hs : s.ok = true := open_status impl new hr ▸ hok
  rw [open_of_ok impl new hr hs]
  exact TransactionDB.open_ok_spec hl hr hs

/-- The options of `DbOptions::new("db", 1)` after column `"0"` has been given, through
`get_cf_option(0)`, a comparator with 4-byte timestamps. -/
def timestampedColumn : DbOptionsWrapper :=
  { path := "db", dbOptions := {},
    cfDescriptors :=
      [{ name := "0", options := { comparator := ⟨"ts4", 4⟩ } }, { name := "default" }] }

/-- Opening `timestampedColumn` on the reference core: `DBImpl::Open` makes two handles,
`Initialize` refuses the comparator and deletes both, and the wrapper keeps them with a null
`db`; `DbOptions::open` then has undefined behaviour in the destructor. -/
theorem open_leaves_deleted_handles :
    new.«open» Reference.impl timestampedColumn newTransactionDbOptions ⟨[]⟩ =
      (Status.InvalidArgument
          "Timestamp of transaction must have 8 bytes. CF comparator ts4 timestamp size is 4 bytes",
        { db := none, cfHandles := [some ⟨0⟩, some ⟨1⟩] }, ⟨[none, none]⟩) ∧
    DbOptions.«open» Reference.impl timestampedColumn ⟨[]⟩ = none := by
  decide

/-! ### The layout of the handles -/

/-- With the descriptors laid out over `m` columns, a successful open has `default_col() == m`
(in `size_t` arithmetic), and column `i ≤ m` addresses a column family named `to_string(i)`,
or the default one for `i = m`. -/
theorem open_layout (hl : impl.Lawful) {m : ℕ} {options : DbOptionsWrapper}
    (hlay : Layout m options.cfDescriptors) (t : TransactionDBOptions) (w : W)
    (hok : (new.«open» impl options t w).1.ok = true) :
    (new.«open» impl options t w).2.1.defaultCol = m % 2 ^ 64 ∧
      ∀ i ≤ m, ∃ h d, (new.«open» impl options t w).2.1.getCf i = some h ∧
        impl.created (new.«open» impl options t w).2.2 h = some d ∧
        d.name = if i < m then toString i else "default" := by
  obtain ⟨-, opened, hcf, -, hnames, -⟩ := open_ok hl options t w hok
  have hlen : opened.length = m + 1 := by
    rw [hnames.length_eq, length_of_layout hlay]
  refine ⟨defaultCol_of_length _ (by simp [hcf, hlen]), fun i hi => ?_⟩
  have hi' : i < opened.length := by omega
  have hi'' : i < options.cfDescriptors.length := by rw [length_of_layout hlay]; omega
  -- the `i`-th handle is for the `i`-th descriptor, whose name the layout gives
  obtain ⟨d, hd, hname⟩ := List.forall₂_iff_get.1 hnames |>.2 i hi' hi''
  refine ⟨opened.get ⟨i, hi'⟩, d, ?_, hd, ?_⟩
  · simp [getCf_eq, hcf, List.getElem?_eq_getElem hi']
  · rw [hname, List.get_eq_getElem]
    exact name_of_layout hlay hi''

end TransactionDBWrapper

/-- **After a successful load the default column moves.**  A database opened from
`DbOptions::new(path, n)` after a successful load of any options file has
`default_col() == n + 1` (in `size_t` arithmetic), where it was `n` before the load. -/
theorem defaultCol_after_load {W : Type*} {impl : DBImpl W} (hl : impl.Lawful) {parse : Parse}
    {f : String} (path : String) (n : ℕ) (hok : (parse f).1.ok = true)
    (t : TransactionDBOptions) (w : W)
    (hopen : (TransactionDBWrapper.new.«open» impl ((DbOptionsWrapper.new path n).load parse f).2
      t w).1.ok = true) :
    (TransactionDBWrapper.new.«open» impl ((DbOptionsWrapper.new path n).load parse f).2
      t w).2.1.defaultCol = (n + 1) % 2 ^ 64 :=
  (TransactionDBWrapper.open_layout hl (DbOptionsWrapper.layout_load_of_ok _
    (layout_newColumnFamilyDescriptorVec n) hok) t w hopen).1

theorem defaultCol_after_load_new :
    Reference.impl.Lawful ∧
      ((fun _ => (Status.OK, { dbOpt := {}, cfNames := ["default"], cfOpts := [{}] }) : Parse)
        "OPTIONS").1.ok = true ∧
      (TransactionDBWrapper.new.«open» Reference.impl ((DbOptionsWrapper.new "db" 1).load
        (fun _ => (Status.OK, { dbOpt := {}, cfNames := ["default"], cfOpts := [{}] }))
          "OPTIONS").2 newTransactionDbOptions ⟨[]⟩).1.ok = true ∧
      (TransactionDBWrapper.new.«open» Reference.impl ((DbOptionsWrapper.new "db" 1).load
        (fun _ => (Status.OK, { dbOpt := {}, cfNames := ["default"], cfOpts := [{}] }))
          "OPTIONS").2 newTransactionDbOptions ⟨[]⟩).2.1.defaultCol = (1 + 1) % 2 ^ 64 :=
  have hok : ((fun _ => (Status.OK, { dbOpt := {}, cfNames := ["default"], cfOpts := [{}] }) : Parse)
      "OPTIONS").1.ok = true := rfl
  have hopen : (TransactionDBWrapper.new.«open» Reference.impl ((DbOptionsWrapper.new "db" 1).load
      (fun _ => (Status.OK, { dbOpt := {}, cfNames := ["default"], cfOpts := [{}] }))
        "OPTIONS").2 newTransactionDbOptions ⟨[]⟩).1.ok = true := by decide
  ⟨Reference.lawful, hok, hopen,
    defaultCol_after_load Reference.lawful "db" 1 hok newTransactionDbOptions ⟨[]⟩ hopen⟩

namespace ReadOnlyDbWrapper

variable {W : Type*} {impl : DBImpl W}

/-- **A failed read-only open leaves no handle and no database.** -/
theorem open_error (hl : impl.Lawful) (options : DbOptionsWrapper) (w : W)
    (herr : (new.«open» impl options w).1.ok = false) :
    (new.«open» impl options w).2.1.db = false ∧ (new.«open» impl options w).2.1.cfHandles = [] := by
  rcases hr : impl.openForReadOnly options.dbOptions options.path options.cfDescriptors w with
    ⟨s, hs, w'⟩
  have hs' : s.ok = false := open_status impl new hr ▸ herr
  have hempty : hs = [] := by
    have := hl.openForReadOnly_error options.dbOptions options.path options.cfDescriptors w
    rw [hr] at this
    exact this hs'
  rw [open_of_not_ok impl new hr hs', hempty]
  exact ⟨rfl, rfl⟩

end ReadOnlyDbWrapper

end Autorocks
