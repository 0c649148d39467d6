import Autorocks.Options.Wrapper

/-!
# The layout of the column family descriptors

A wrapper built by `DbOptions::new(path, n)` lays its descriptors out as
`"0", …, to_string(n - 1), "default"` (`Layout n`), and a database opened from it addresses
column `i < n` as the column family `to_string(i)` and the default one as `n`.

* The setters and a failed `load` keep the layout, and `sortAndCompleteMissing m` always
  produces `Layout m` (`names_sortAndCompleteMissing`), whatever list it is given.
* `load` passes the length of the descriptor list as the number of numbered columns, and that
  length counts the default column family: a successful load turns `Layout n` into
  `Layout (n + 1)` (`layout_load_of_ok`).  So the layout is always contiguous with `"default"`
  last, over a number of columns that grows by one with each successful load
  (`layout_reachable`), and the first successful load already breaks `Layout n`
  (`load_adds_column`).
* What `load` does with the options read from the file (`load_eq`): it fails and changes
  nothing, or it keeps the file's `DBOptions`, gives each numbered column the file's options
  for its name or else the file's default options, gives the default column family the
  file's default options, and drops every other column family of the file.
-/

namespace Autorocks

/-- The descriptors are named `"0"`, …, `to_string(n - 1)`, `"default"`, in that order. -/
def Layout (n : ℕ) (ds : List ColumnFamilyDescriptor) : Prop :=
  ds.map (·.name) = (List.range n).map toString ++ ["default"]

/-- The options a descriptor list gives a name: those of its first descriptor of that name. -/
def optionsOf (L : List ColumnFamilyDescriptor) (name : String) : Option ColumnFamilyOptions :=
  (L.find? fun d => d.name = name).map (·.options)

/-- The options a descriptor list gives the default column family, or the default options when
it has none. -/
def defaultOptionsOf (L : List ColumnFamilyDescriptor) : ColumnFamilyOptions :=
  (optionsOf L "default").getD {}

/-- No column number is written `"default"`. -/
theorem toString_ne_default (i : ℕ) : toString i ≠ "default" := by
  intro h
  -- the decimal digits of a number contain no letter
  have hd : 'd' ∈ Nat.toDigits 10 i := by
    rw [← Nat.toList_repr]
    simp only [toString] at h
    rw [h]
    simp
  have := Nat.isDigit_of_mem_toDigits (by omega) (by omega) hd
  revert this
  decide

theorem layout_newColumnFamilyDescriptorVec (n : ℕ) :
    Layout n (newColumnFamilyDescriptorVec n) := by
  simp [Layout, newColumnFamilyDescriptorVec, Function.comp_def]

/-- A layout fixes the number of descriptors. -/
theorem length_of_layout {n : ℕ} {ds : List ColumnFamilyDescriptor} (h : Layout n ds) :
    ds.length = n + 1 := by
  have := congrArg List.length h
  simpa using this

/-- A list has a layout over at most one number of columns. -/
theorem Layout.unique {n m : ℕ} {ds : List ColumnFamilyDescriptor} (h : Layout n ds)
    (h' : Layout m ds) : n = m := by
  have := (length_of_layout h).symm.trans (length_of_layout h')
  omega

/-- The name the layout gives each descriptor. -/
theorem name_of_layout {n : ℕ} {ds : List ColumnFamilyDescriptor} (h : Layout n ds) {i : ℕ}
    (hi : i < ds.length) : ds[i].name = if i < n then toString i else "default" := by
  have hlen := length_of_layout h
  have hget := congrArg (·[i]?) h
  simp only [List.getElem?_map, List.getElem?_eq_getElem hi, Option.map_some] at hget
  split
  · next hin =>
    rw [List.getElem?_append_left (by simpa using hin), List.getElem?_map,
      List.getElem?_range hin, Option.map_some, Option.some.injEq] at hget
    exact hget
  · next hin =>
    rw [List.getElem?_append_right (by simp; omega)] at hget
    have hin0 : i - (List.map toString (List.range n)).length = 0 := by simp; omega
    rw [hin0] at hget
    simpa using hget
namespace DbOptionsWrapper

/-- The map of `sortAndCompleteMissing` finds, under each name, the first descriptor of the
list with that name. -/
theorem lookup_cfMap (L : List ColumnFamilyDescriptor) (name : String) :
    (L.foldl (fun m desc => AList.emplace desc.name desc m) ∅).lookup name =
      L.find? fun d => d.name = name := by
  rw [AList.lookup_foldl_emplace]
  simp

/-- The numbered entry `i` of `sortAndCompleteMissing`: the first descriptor named
`to_string(i)`, or one with the default column family's options `opts`. -/
theorem entry_sortAndCompleteMissing (L : List ColumnFamilyDescriptor) (i : ℕ)
    (opts : ColumnFamilyOptions) :
    (match ((L.foldl (fun m desc => AList.emplace desc.name desc m) ∅).erase "default").lookup
        (toString i) with
      | some desc => desc
      | none => { name := toString i, options := opts }) =
      { name := toString i, options := (optionsOf L (toString i)).getD opts } := by
  rw [AList.lookup_erase_ne (toString_ne_default i), lookup_cfMap]
  cases h : L.find? fun d => d.name = toString i with
  | none => simp only [optionsOf, h, Option.map_none, Option.getD_none]
  | some desc =>
    -- the descriptor found has the name it was looked up by
    have hname : desc.name = toString i := by simpa using List.find?_some h
    simp only [optionsOf, h, Option.map_some, Option.getD_some]
    rw [← hname]

/-- The default column family of `sortAndCompleteMissing` is named `"default"`, whether the
list has one (found by the map) or not (built by `operator[]`). -/
theorem name_defaultCf (L : List ColumnFamilyDescriptor) :
    ((L.foldl (fun m desc => AList.emplace desc.name desc m) ∅).lookup "default").getD {} =
      { name := "default", options := defaultOptionsOf L } := by
  rw [lookup_cfMap]
  cases h : L.find? fun d => d.name = "default" with
  | none => simp only [defaultOptionsOf, optionsOf, h, Option.map_none, Option.getD_none]; rfl
  | some desc =>
    have hname : desc.name = "default" := by simpa using List.find?_some h
    simp only [defaultOptionsOf, optionsOf, h, Option.map_some, Option.getD_some]
    rw [← hname]

/-- **What `sortAndCompleteMissing` builds**, from any list: `m` numbered columns, each with
the list's options for its name or else those of the default column family, then the default
column family. -/
theorem sortAndCompleteMissing_eq (m : ℕ) (L : List ColumnFamilyDescriptor) :
    sortAndCompleteMissing m L =
      (List.range m).map (fun i =>
          { name := toString i, options := (optionsOf L (toString i)).getD (defaultOptionsOf L) }) ++
        [{ name := "default", options := defaultOptionsOf L }] := by
  simp only [sortAndCompleteMissing, name_defaultCf]
  -- the entry lemma's `match` is the source's up to the name of its matcher
  refine congrArg (· ++ _) (List.map_congr_left fun i _ => ?_)
  exact entry_sortAndCompleteMissing L i (defaultOptionsOf L)

theorem names_sortAndCompleteMissing (m : ℕ) (L : List ColumnFamilyDescriptor) :
    Layout m (sortAndCompleteMissing m L) := by
  rw [Layout, sortAndCompleteMissing_eq, List.map_append, List.map_map]
  rfl

/-! ### The layout over the calls of `DbOptions` -/

section Calls

variable (self : DbOptionsWrapper) {parse : Parse} {n : ℕ}

theorem layout_setCompression (h : Layout n self.cfDescriptors) (c : CompressionType) :
    Layout n (self.setCompression c).cfDescriptors := by
  rw [Layout, setCompression_cfDescriptors_name]
  exact h

/-- A successful load rebuilds the layout over the old length of the list, which counts the
default column family: one numbered column more. -/
theorem layout_load_of_ok {f : String} (h : Layout n self.cfDescriptors)
    (hok : (parse f).1.ok = true) : Layout (n + 1) (self.load parse f).2.cfDescriptors := by
  rw [load_of_ok self hok, length_of_layout h]
  exact names_sortAndCompleteMissing (n + 1) _

/-- One call keeps the layout or adds a numbered column. -/
theorem layout_step (c : Call) (h : Layout n self.cfDescriptors) :
    Layout n ((machine parse).step c self).2.cfDescriptors ∨
      Layout (n + 1) ((machine parse).step c self).2.cfDescriptors := by
  cases c with
  | createIfMissing val => exact .inl h
  | createMissingColumnFamilies val => exact .inl h
  | compression c => exact .inl (layout_setCompression self h c)
  | loadOptionsFromFile f =>
    -- a failed load changes nothing; a successful one rebuilds the list
    cases hok : (parse f).1.ok with
    | false =>
      left
      show Layout n (self.load parse f).2.cfDescriptors
      rw [load_of_not_ok self hok]
      exact h
    | true => exact .inr (layout_load_of_ok self h hok)

/-- **The layout that does hold.**  From `DbOptions::new(path, n)`, every wrapper the calls
reach is laid out contiguously with `"default"` last, over some number `m ≥ n` of numbered
columns. -/
theorem layout_reachable (path : String) (w : DbOptionsWrapper)
    (hw : (machine parse).Reachable (new path n) w) : ∃ m ≥ n, Layout m w.cfDescriptors := by
  refine hw.invariant (P := fun w => ∃ m ≥ n, Layout m w.cfDescriptors)
    ⟨n, le_refl n, layout_newColumnFamilyDescriptorVec n⟩ ?_
  rintro c w ⟨m, hm, h⟩
  rcases layout_step w c h with h' | h'
  · exact ⟨m, hm, h'⟩
  · exact ⟨m + 1, by omega, h'⟩

theorem layout_reachable_run :
    ∃ m ≥ 1, Layout m
      ((machine fun _ => (Status.OK, { dbOpt := {}, cfNames := ["default"], cfOpts := [{}] })).run
        [.compression .kZSTD, .loadOptionsFromFile "OPTIONS"] (new "db" 1)).2.cfDescriptors :=
  layout_reachable "db" _ (Machine.reachable_run _ _)

/-- After a successful load the wrapper built with `n` columns no longer has the layout of
`n` columns, whatever the file holds. -/
theorem not_layout_load_of_ok {f : String} (path : String) (hok : (parse f).1.ok = true) :
    ¬ Layout n ((new path n).load parse f).2.cfDescriptors := by
  intro h
  have := h.unique (layout_load_of_ok (new path n) (layout_newColumnFamilyDescriptorVec n) hok)
  omega

/-- Loading an options file that holds only the default column family into `DbOptions::new(path,
1)`: the load succeeds, and the descriptors become `"0"`, `"1"`, `"default"`. -/
theorem load_adds_column :
    (machine fun _ => (Status.OK, { dbOpt := {}, cfNames := ["default"], cfOpts := [{}] })).run [.loadOptionsFromFile "OPTIONS"]
        (new "db" 1) =
      ([.ok ()],
        { path := "db", dbOptions := {}, cfDescriptors := [
            { name := "0", options := {} },
            { name := "1", options := {} },
            { name := "default", options := {} }] }) := by
  decide

end Calls

/-! ### What a load does with the file -/

/-- The parser's names are the names of the descriptors `LoadOptionsFromFile` builds. -/
theorem names_cfDescs (p : RocksDBOptionsParser) (hlen : p.cfNames.length = p.cfOpts.length) :
    p.cfDescs.map (·.name) = p.cfNames := by
  rcases p with ⟨dbOpt, names, opts⟩
  simp only [RocksDBOptionsParser.cfDescs]
  induction names generalizing opts with
  | nil => rfl
  | cons nm names ih =>
    cases opts with
    | nil => simp at hlen
    | cons o opts =>
      simp only [List.zipWith_cons_cons, List.map_cons, List.cons.injEq, true_and]
      exact ih opts (by simpa using hlen)

/-- A parse that names the default section first gives a list headed by the default column
family. -/
theorem head_cfDescs (p : RocksDBOptionsParser) (hlen : p.cfNames.length = p.cfOpts.length)
    (hhead : p.cfNames.head? = some kDefaultColumnFamilyName) :
    ∃ o, p.cfDescs.head? = some { name := "default", options := o } := by
  rcases p with ⟨dbOpt, _ | ⟨nm, names⟩, _ | ⟨o, opts⟩⟩
  · simp at hhead
  · simp at hhead
  · simp at hlen
  · simp only [List.head?_cons, Option.some.injEq, kDefaultColumnFamilyName] at hhead
    subst hhead
    exact ⟨o, rfl⟩

/-- The default options of a list headed by the default column family are its head's. -/
theorem defaultOptionsOf_of_head {L : List ColumnFamilyDescriptor} {o : ColumnFamilyOptions}
    (h : L.head? = some { name := "default", options := o }) : defaultOptionsOf L = o := by
  cases L with
  | nil => simp at h
  | cons d L =>
    simp only [List.head?_cons, Option.some.injEq] at h
    subst h
    simp [defaultOptionsOf, optionsOf]

/-- **What `load` does with an options file.**  Either the parse fails, and `load` returns its
status and changes nothing; or the file's column families `L` (as `LoadOptionsFromFile` lists
them: distinct names, the default one first with options `o`) are laid out again: the file's
`DBOptions`, each numbered column with `L`'s options for its name or else `o`, then the default
column family with `o`, and no other column family of `L`. -/
theorem load_eq (self : DbOptionsWrapper) (parse : Parse) (hp : parse.Sound) (f : String) :
    ((parse f).1.ok = false ∧ self.load parse f = ((parse f).1, self)) ∨
    ((parse f).1.ok = true ∧ ((parse f).2.cfDescs.map (·.name)).Nodup ∧
      ∃ o, (parse f).2.cfDescs.head? = some { name := "default", options := o } ∧
        self.load parse f =
          (Status.OK,
            { self with
              dbOptions := (parse f).2.dbOpt
              cfDescriptors :=
                (List.range self.cfDescriptors.length).map (fun i =>
                    { name := toString i,
                      options := (optionsOf (parse f).2.cfDescs (toString i)).getD o }) ++
                  [{ name := "default", options := o }] })) := by
  cases hok : (parse f).1.ok with
  | false => exact .inl ⟨rfl, load_of_not_ok self hok⟩
  | true =>
    right
    -- what the parser's section checks guarantee of the list
    have hlen := hp.length_eq f hok
    have hnodup : ((parse f).2.cfDescs.map (·.name)).Nodup := by
      rw [names_cfDescs _ hlen]
      exact hp.nodup f hok
    obtain ⟨o, ho⟩ := head_cfDescs _ hlen (hp.head_default f hok)
    refine ⟨rfl, hnodup, o, ho, ?_⟩
    rw [load_of_ok self hok, sortAndCompleteMissing_eq, defaultOptionsOf_of_head ho]

/-- An options file with the default column family and column `"1"`, compressed with ZSTD. -/
def twoColumnFile : Parse :=
  fun _ =>
    (Status.OK, { dbOpt := {}, cfNames := ["default", "1"], cfOpts := [{}, { compression := .kZSTD }] })

theorem load_eq_twoColumnFile :
    twoColumnFile.Sound ∧
    (((twoColumnFile "OPTIONS").1.ok = false ∧
        (new "db" 2).load twoColumnFile "OPTIONS" = ((twoColumnFile "OPTIONS").1, new "db" 2)) ∨
      ((twoColumnFile "OPTIONS").1.ok = true ∧
        ((twoColumnFile "OPTIONS").2.cfDescs.map (·.name)).Nodup ∧
        ∃ o, (twoColumnFile "OPTIONS").2.cfDescs.head? = some { name := "default", options := o } ∧
          (new "db" 2).load twoColumnFile "OPTIONS" =
            (Status.OK,
              { new "db" 2 with
                dbOptions := (twoColumnFile "OPTIONS").2.dbOpt
                cfDescriptors :=
                  (List.range (new "db" 2).cfDescriptors.length).map (fun i =>
                      { name := toString i,
                        options :=
                          (optionsOf (twoColumnFile "OPTIONS").2.cfDescs (toString i)).getD o }) ++
                    [{ name := "default", options := o }] }))) :=
  have hp : twoColumnFile.Sound := ⟨fun _ _ => rfl, fun _ _ => rfl,
    fun _ _ => show (["default", "1"] : List String).Nodup by decide⟩
  ⟨hp, load_eq (new "db" 2) twoColumnFile hp "OPTIONS"⟩

end DbOptionsWrapper

end Autorocks
