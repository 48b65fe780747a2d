/-
  SchemaDump/Proofs/Dialect/Live.lean
  ===================================
  **What a dialect writes for a table is decided by the live table.**

  A formatter has a prefix and gets tables under generic names.  Only the name
  with the prefix in it shows in what it writes or in why it refuses, and of the
  parts of keys everything shows but the name of their table.
-/
import SchemaDump.Proofs.Table.Live
import SchemaDump.Registry

namespace SchemaDump

open Sql (Unsupported)
open Table (liveName)

/-! ### Keys -/

namespace KeyGroup

def detached (group : KeyGroup) : KeyGroup := ⟨group.name, group.parts.map KeyPart.detached⟩

theorem partsNamed_detached (name : String) (parts : List KeyPart) :
    partsNamed name (parts.map KeyPart.detached)
      = (partsNamed name parts).map KeyPart.detached := by
  rw [partsNamed, partsNamed, List.filter_map]
  refine (List.map_mergeSort ?_).symm
  intro first _ second _
  rfl

theorem collect_detached (parts : List KeyPart) :
    collect (parts.map KeyPart.detached) = (collect parts).map detached := by
  have hnames : (parts.map KeyPart.detached).map KeyPart.keyName = parts.map KeyPart.keyName := by
    rw [List.map_map]
    rfl
  rw [collect, collect, hnames, List.map_map]
  refine List.map_congr_left fun name _ => ?_
  rw [partsNamed_detached]
  rfl

@[simp] theorem name_detached (group : KeyGroup) : group.detached.name = group.name := rfl

@[simp] theorem kind_detached (group : KeyGroup) : group.detached.kind = group.kind := by
  simp [kind, detached, List.all_map, Function.comp_def, KeyPart.detached]

@[simp] theorem method_detached (group : KeyGroup) : group.detached.method = group.method := by
  rcases group with ⟨name, _ | ⟨part, parts⟩⟩ <;> rfl

@[simp] theorem comment_detached (group : KeyGroup) : group.detached.comment = group.comment := by
  rcases group with ⟨name, _ | ⟨part, parts⟩⟩ <;> rfl

@[simp] theorem hasDescending_detached (group : KeyGroup) :
    group.detached.hasDescending = group.hasDescending := by
  rw [hasDescending, detached, List.any_map]
  rfl

@[simp] theorem lacksColumn_detached (group : KeyGroup) :
    group.detached.lacksColumn = group.lacksColumn := by
  rw [lacksColumn, detached, List.any_map]
  rfl

@[simp] theorem length_parts_detached (group : KeyGroup) :
    group.detached.parts.length = group.parts.length := by
  simp [detached]

end KeyGroup

/-! ### Tables -/

theorem TableStructure.of_live_eq {p q : String} {table other : TableStructure}
    (h : table.live p = other.live q) :
    liveName table.name p = liveName other.name q ∧ table.columns = other.columns := by
  rw [live, live, mk.injEq] at h
  exact ⟨h.1, h.2.1⟩

theorem TableData.of_live_eq {p q : String} {data other : TableData}
    (h : data.live p = other.live q) :
    liveName data.name p = liveName other.name q ∧ data.rows = other.rows := by
  rwa [live, live, mk.injEq] at h

theorem TableStructure.keyGroups_live (table : TableStructure) (tablePrefix : String) :
    (table.live tablePrefix).keyGroups = table.keyGroups.map KeyGroup.detached :=
  KeyGroup.collect_detached table.keys

namespace Dialect

@[simp] theorem indexColumns_detached (group : KeyGroup) :
    indexColumns group.detached = indexColumns group := by
  simp [indexColumns, KeyGroup.detached, Function.comp_def, KeyPart.detached,
    KeyPart.isDescending]

@[simp] theorem indexName_detached (table : String) (group : KeyGroup) :
    indexName table group.detached = indexName table group := rfl

@[simp] theorem checkColumns_detached (table : String) (group : KeyGroup) :
    checkColumns table group.detached = checkColumns table group := by
  simp [checkColumns]

theorem Generic.keyOutput_detached (table : String) (group : KeyGroup) :
    Generic.keyOutput table group.detached = Generic.keyOutput table group := by
  simp [Generic.keyOutput]

theorem Postgresql.keyOutput_detached (table : String) (group : KeyGroup) :
    Postgresql.keyOutput table group.detached = Postgresql.keyOutput table group := by
  simp [Postgresql.keyOutput, Postgresql.isHashed]

theorem Mysql.keyClause_detached (table : String) (group : KeyGroup) :
    Mysql.keyClause table group.detached = Mysql.keyClause table group := by
  simp [Mysql.keyClause]

/-- A step for each key of a table that does not look at what the parts say of their table does
    not tell tables with the same live form apart. -/
theorem mapM_keyGroups_of_live_eq {β : Type} {step : KeyGroup → Except Unsupported β}
    (hstep : ∀ group, step group.detached = step group) {p q : String}
    {table other : TableStructure} (h : table.live p = other.live q) :
    table.keyGroups.mapM step = other.keyGroups.mapM step := by
  have hlive : ∀ (held : TableStructure) (tablePrefix : String),
      (held.live tablePrefix).keyGroups.mapM step = held.keyGroups.mapM step := by
    intro held tablePrefix
    rw [TableStructure.keyGroups_live, List.mapM_map]
    exact congrArg (held.keyGroups.mapM ·) (funext hstep)
  rw [← hlive table p, h, hlive]

theorem Standard.create_of_live_eq
    {columnClause : Column → Except Unsupported Sql.ColumnClause}
    {keyOutput : String → KeyGroup → Except Unsupported Standard.KeyOutput}
    (hkeys : ∀ table group, keyOutput table group.detached = keyOutput table group)
    {p q : String} {table other : TableStructure} (h : table.live p = other.live q)
    (name : String) :
    Standard.create columnClause keyOutput name table
      = Standard.create columnClause keyOutput name other := by
  rw [Standard.create, Standard.create, mapM_keyGroups_of_live_eq (hkeys name) h,
    (TableStructure.of_live_eq h).2]

theorem Mysql.create_of_live_eq {p q : String} {table other : TableStructure}
    (h : table.live p = other.live q) (name : String) :
    Mysql.create name table = Mysql.create name other := by
  rw [Mysql.create, Mysql.create, mapM_keyGroups_of_live_eq (Mysql.keyClause_detached name) h,
    (TableStructure.of_live_eq h).2]

end Dialect

/-! ### Formatters -/

/-- A dialect that does the same for tables that are the same once the prefix is in. -/
structure Formatter.Factory.ReadsLive (factory : Formatter.Factory) : Prop where
  create : ∀ {p q : String} {table other : TableStructure}, table.live p = other.live q →
    (factory ⟨p⟩).create table = (factory ⟨q⟩).create other
  insert : ∀ {p q : String} {data other : TableData}, data.live p = other.live q →
    (factory ⟨p⟩).insert data = (factory ⟨q⟩).insert other
  clear : ∀ {p q : String} {table other : TableStructure}, table.live p = other.live q →
    (factory ⟨p⟩).clear table = (factory ⟨q⟩).clear other
  reset : ∀ {p q : String} {table other : TableStructure} {data more : TableData},
    table.live p = other.live q → data.live p = more.live q →
      (factory ⟨p⟩).reset table data = (factory ⟨q⟩).reset other more

namespace Dialect

theorem Generic.readsLive : Formatter.Factory.ReadsLive Generic.formatter where
  create h := by
    simp only [Generic.formatter, (TableStructure.of_live_eq h).1,
      Standard.create_of_live_eq Generic.keyOutput_detached h]
  insert h := by
    obtain ⟨hname, hrows⟩ := TableData.of_live_eq h
    simp only [Generic.formatter, hname, hrows]
  clear h := by
    simp only [Generic.formatter, (TableStructure.of_live_eq h).1]
  reset h hdata := by
    obtain ⟨hname, hcolumns⟩ := TableStructure.of_live_eq h
    simp only [Generic.formatter, hname, hcolumns, (TableData.of_live_eq hdata).2]

theorem Postgresql.readsLive : Formatter.Factory.ReadsLive Postgresql.formatter where
  create h := by
    simp only [Postgresql.formatter, (TableStructure.of_live_eq h).1,
      Standard.create_of_live_eq Postgresql.keyOutput_detached h]
  insert h := by
    obtain ⟨hname, hrows⟩ := TableData.of_live_eq h
    simp only [Postgresql.formatter, hname, hrows]
  clear h := by
    simp only [Postgresql.formatter, (TableStructure.of_live_eq h).1]
  reset h hdata := by
    obtain ⟨hname, hcolumns⟩ := TableStructure.of_live_eq h
    simp only [Postgresql.formatter, hname, hcolumns, (TableData.of_live_eq hdata).2]

theorem Mysql.readsLive : Formatter.Factory.ReadsLive Mysql.formatter where
  create h := by
    simp only [Mysql.formatter, (TableStructure.of_live_eq h).1, Mysql.create_of_live_eq h]
  insert h := by
    obtain ⟨hname, hrows⟩ := TableData.of_live_eq h
    simp only [Mysql.formatter, hname, hrows]
  clear h := by
    simp only [Mysql.formatter, (TableStructure.of_live_eq h).1]
  reset _ _ := rfl

end Dialect

/-! ### The registry -/

namespace Dialects

theorem exists_find?_of_create {dialects : Dialects} {query : String} {options : FormatOptions}
    {formatter : Formatter} (h : dialects.create query options = .ok formatter) :
    ∃ factory, dialects.find? query = some factory ∧ factory options = formatter := by
  rw [create] at h
  cases hfound : dialects.find? query with
  | none =>
    rw [hfound] at h
    cases h
  | some factory =>
    rw [hfound] at h
    exact ⟨factory, rfl, Except.ok.inj h⟩

theorem entries_builtin :
    builtin.entries = [("generic", Dialect.Generic.formatter), ("mysql", Dialect.Mysql.formatter),
      ("postgresql", Dialect.Postgresql.formatter)] := by
  rfl

/-- **Each dialect of the library reads tables by their live names.** -/
theorem readsLive_of_find? {query : String} {factory : Formatter.Factory}
    (h : builtin.find? query = some factory) : factory.ReadsLive := by
  obtain ⟨before, after, hentries, -⟩ := List.lookup_eq_some_iff.1 h
  have hmem : (builtin.target query, factory) ∈ builtin.entries := by
    rw [hentries]
    simp
  rw [entries_builtin] at hmem
  simp only [List.mem_cons, Prod.mk.injEq, List.not_mem_nil, or_false] at hmem
  rcases hmem with ⟨-, rfl⟩ | ⟨-, rfl⟩ | ⟨-, rfl⟩
  · exact Dialect.Generic.readsLive
  · exact Dialect.Mysql.readsLive
  · exact Dialect.Postgresql.readsLive

end Dialects
end SchemaDump
