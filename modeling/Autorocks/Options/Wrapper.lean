import Autorocks.Options.Basic
import Autorocks.Lib.Emplace
import Autorocks.Lib.Machine

/-!
# `DbOptionsWrapper` and options files

`DbOptionsWrapper` (`autorocks-sys/src/db.h`) holds the path, the `DBOptions` and the list of
column family descriptors a database is opened with.  Its constructor lays the columns out as
`"0", "1", …, to_string(n - 1), "default"` (`newColumnFamilyDescriptorVec`); `load` replaces
options and descriptors by those of an options file and then rebuilds the layout through a
map (`sortAndCompleteMissing`).

Reading an options file is `LoadOptionsFromFile` (`utilities/options/options_util.cc`), which
is embedded; the parser it runs, `RocksDBOptionsParser::Parse`, reads the file system and is a
parameter (`Parse`), with what its section checks guarantee on success as hypotheses
(`Parse.Sound`).

The Rust `DbOptions` (`src/db.rs`) forwards to the wrapper and turns the status of
`load_options_from_file` into a `Result` (`intoResult`).
-/

namespace Autorocks

/-- What `RocksDBOptionsParser::Parse` leaves in the parser: the options of the `DBOptions`
section, and the names and options of the `CFOptions` sections in file order. -/
structure RocksDBOptionsParser where
  dbOpt : DBOptions
  cfNames : List String
  cfOpts : List ColumnFamilyOptions

/-- `RocksDBOptionsParser::Parse` of a file name, with the file system it reads fixed. -/
abbrev Parse := String → Status × RocksDBOptionsParser

/-- What `Parse` guarantees when it succeeds (`options/options_parser.cc`): `EndSection` pushes
the name and the options of a section together, `CheckSection` refuses a `CFOptions` section
before the default one, a second default one and a name seen before, and `ValidityCheck`
requires the default section. -/
structure Parse.Sound (parse : Parse) : Prop where
  length_eq : ∀ f, (parse f).1.ok = true →
    (parse f).2.cfNames.length = (parse f).2.cfOpts.length
  head_default : ∀ f, (parse f).1.ok = true →
    (parse f).2.cfNames.head? = some kDefaultColumnFamilyName
  nodup : ∀ f, (parse f).1.ok = true → (parse f).2.cfNames.Nodup

/-- `LoadOptionsFromFile` with the arguments the wrapper passes (unknown options refused, no
block cache).  The outputs `db_options` and `cf_descs` are written only after `Parse` has
succeeded; the loop over `cf_opts` pairs each name with the options at the same index. -/
def loadOptionsFromFile (parse : Parse) (fileName : String) (dbOptions : DBOptions)
    (cfDescs : List ColumnFamilyDescriptor) :
    Status × DBOptions × List ColumnFamilyDescriptor :=
  let (s, parser) := parse fileName
  if !s.ok then (s, dbOptions, cfDescs)
  else
    (Status.OK, parser.dbOpt,
      List.zipWith (fun name options => { name, options }) parser.cfNames parser.cfOpts)

/-- The descriptors `LoadOptionsFromFile` builds from a parser: each name with the options at
its index. -/
def RocksDBOptionsParser.cfDescs (p : RocksDBOptionsParser) : List ColumnFamilyDescriptor :=
  List.zipWith (fun name options => { name, options }) p.cfNames p.cfOpts

section LoadOptionsFromFile

variable {parse : Parse} {fileName : String}

theorem loadOptionsFromFile_of_ok (h : (parse fileName).1.ok = true) (dbOptions : DBOptions)
    (cfDescs : List ColumnFamilyDescriptor) :
    loadOptionsFromFile parse fileName dbOptions cfDescs =
      (Status.OK, (parse fileName).2.dbOpt, (parse fileName).2.cfDescs) := by
  unfold loadOptionsFromFile
  rcases hpf : parse fileName with ⟨s, p⟩
  rw [hpf] at h
  simp [h, RocksDBOptionsParser.cfDescs]

/-- A failed parse writes neither output. -/
theorem loadOptionsFromFile_of_not_ok (h : (parse fileName).1.ok = false)
    (dbOptions : DBOptions) (cfDescs : List ColumnFamilyDescriptor) :
    loadOptionsFromFile parse fileName dbOptions cfDescs =
      ((parse fileName).1, dbOptions, cfDescs) := by
  unfold loadOptionsFromFile
  rcases hpf : parse fileName with ⟨s, p⟩
  rw [hpf] at h
  simp [h]

end LoadOptionsFromFile

/-- `new_column_family_descriptor_vec`: the columns `"0"` to `to_string(len - 1)`, then the
default column family, all with default options. -/
def newColumnFamilyDescriptorVec (len : ℕ) : List ColumnFamilyDescriptor :=
  (List.range len).map (fun i => { name := toString i, options := {} }) ++
    [{ name := "default", options := {} }]

/-- `DbOptionsWrapper`. -/
structure DbOptionsWrapper where
  path : String
  dbOptions : DBOptions
  cfDescriptors : List ColumnFamilyDescriptor
  deriving DecidableEq, Repr

namespace DbOptionsWrapper

variable (self : DbOptionsWrapper)

/-- `DbOptionsWrapper(Slice path_, size_t columns)`, the constructor `DbOptions::new` calls. -/
def new (path : String) (columns : ℕ) : DbOptionsWrapper :=
  { path, dbOptions := {}, cfDescriptors := newColumnFamilyDescriptorVec columns }

/-- `DbOptionsWrapper::set_create_if_missing`. -/
def setCreateIfMissing (val : Bool) : DbOptionsWrapper :=
  { self with dbOptions := { self.dbOptions with createIfMissing := val } }

/-- `DbOptionsWrapper::set_create_missing_column_families`. -/
def setCreateMissingColumnFamilies (val : Bool) : DbOptionsWrapper :=
  { self with dbOptions := { self.dbOptions with createMissingColumnFamilies := val } }

/-- `DbOptionsWrapper::set_compression`: every descriptor's compression. -/
def setCompression (comp : CompressionType) : DbOptionsWrapper :=
  { self with
    cfDescriptors := self.cfDescriptors.map fun x => { x with options.compression := comp } }

/-- `DbOptionsWrapper::sort_and_complete_missing`.  The descriptors are emplaced in a map by
name (the first of a name wins); the default column family is read with `operator[]`, which
inserts a default descriptor when it is missing, and is then erased from the map; the list is
rebuilt as `columns` numbered columns, each the map's descriptor of that name or a new one with
the default column family's options, followed by the default column family. -/
def sortAndCompleteMissing (columns : ℕ) (cfDescriptors : List ColumnFamilyDescriptor) :
    List ColumnFamilyDescriptor :=
  let cfMap := cfDescriptors.foldl (fun m desc => AList.emplace desc.name desc m) ∅
  let defaultCf := (cfMap.lookup "default").getD {}
  let cfMap := cfMap.erase "default"
  (List.range columns).map (fun i =>
      let name := toString i
      match cfMap.lookup name with
      | some desc => desc
      | none => { name, options := defaultCf.options }) ++
    [defaultCf]

/-- `DbOptionsWrapper::load`: the number of columns it rebuilds is the length of the
descriptor list before the file is read. -/
def load (parse : Parse) (optionsFile : String) : Status × DbOptionsWrapper :=
  let columns := self.cfDescriptors.length
  let (status, dbOptions, cfDescriptors) :=
    loadOptionsFromFile parse optionsFile self.dbOptions self.cfDescriptors
  if !status.ok then (status, { self with dbOptions, cfDescriptors })
  else (status, { self with dbOptions, cfDescriptors := sortAndCompleteMissing columns cfDescriptors })

section Load

variable {parse : Parse} {fileName : String}

theorem load_of_ok (h : (parse fileName).1.ok = true) :
    self.load parse fileName =
      (Status.OK,
        { self with
          dbOptions := (parse fileName).2.dbOpt
          cfDescriptors :=
            sortAndCompleteMissing self.cfDescriptors.length (parse fileName).2.cfDescs }) := by
  simp [load, loadOptionsFromFile_of_ok h]

theorem load_of_not_ok (h : (parse fileName).1.ok = false) :
    self.load parse fileName = ((parse fileName).1, self) := by
  simp [load, loadOptionsFromFile_of_not_ok h, h]

end Load

/-! ### The calls as a machine -/

/-- The calls of the Rust `DbOptions` on its wrapper (`src/db.rs`). -/
inductive Call where
  | createIfMissing (val : Bool)
  | createMissingColumnFamilies (val : Bool)
  | compression (c : CompressionType)
  | loadOptionsFromFile (optionsFile : String)

/-- `DbOptions` as a machine over its wrapper: the setters answer `Ok(())` (they return
`&mut Self`), `load_options_from_file` answers `into_result` of the status of `load`. -/
def machine (parse : Parse) :
    Machine DbOptionsWrapper Call (Except RocksDBStatusError Unit) where
  step
    | .createIfMissing val, self => (.ok (), self.setCreateIfMissing val)
    | .createMissingColumnFamilies val, self => (.ok (), self.setCreateMissingColumnFamilies val)
    | .compression c, self => (.ok (), self.setCompression c)
    | .loadOptionsFromFile f, self => (intoResult (self.load parse f).1, (self.load parse f).2)

@[simp] theorem setCreateIfMissing_cfDescriptors (val : Bool) :
    (self.setCreateIfMissing val).cfDescriptors = self.cfDescriptors := rfl

@[simp] theorem setCreateMissingColumnFamilies_cfDescriptors (val : Bool) :
    (self.setCreateMissingColumnFamilies val).cfDescriptors = self.cfDescriptors := rfl

@[simp] theorem setCompression_cfDescriptors_name (c : CompressionType) :
    (self.setCompression c).cfDescriptors.map (·.name) = self.cfDescriptors.map (·.name) := by
  simp [setCompression, Function.comp_def]

end DbOptionsWrapper

end Autorocks
