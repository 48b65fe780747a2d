/-
  SchemaDump/Proofs/Table/Live.lean
  =================================
  **Dumps under live and under generic names.**

  Putting the placeholder into a live name and a prefix into a generic one are
  inverse to each other as long as no live name starts with the placeholder of
  its own accord.  The same is done here to tables, entries and dumps.  A live
  table does not keep what its key parts say of the table they belong to, which
  is a generic name in a dump and whatever the database says in a source.
-/
import SchemaDump.Dump
import SchemaDump.Table.Name
import Mathlib.Data.List.Find

namespace SchemaDump

open Table (genericName liveName placeholder)

/-! ### Names -/

namespace Table

/-- A name that starts with the placeholder, and so is generic. -/
def IsMarked (name : String) : Prop := ∃ rest, name = placeholder ++ rest

instance (name : String) : Decidable (IsMarked name) :=
  decidable_of_iff ((afterStart placeholder name).isSome = true) <| by
    simp only [Option.isSome_iff_exists, afterStart_eq_some_iff, IsMarked]

theorem liveName_of_not_isMarked {name : String} (h : ¬IsMarked name) (tablePrefix : String) :
    liveName name tablePrefix = name := by
  cases hafter : afterStart placeholder name with
  | none => rw [liveName, hafter]
  | some rest => exact absurd ⟨rest, afterStart_eq_some_iff.1 hafter⟩ h

theorem liveName_marked (rest tablePrefix : String) :
    liveName (placeholder ++ rest) tablePrefix = tablePrefix ++ rest := by
  rw [liveName, afterStart_eq_some_iff.2 rfl]

/-- **Putting the placeholder in and the prefix back gives the live name again.** -/
theorem liveName_genericName {name : String} (h : ¬IsMarked name) (tablePrefix : String) :
    liveName (genericName name tablePrefix) tablePrefix = name := by
  by_cases hempty : tablePrefix.toList.isEmpty = true
  · rw [genericName, if_pos hempty, liveName_of_not_isMarked h]
  · rw [genericName, if_neg hempty]
    cases hafter : afterStart tablePrefix name with
    | none => exact liveName_of_not_isMarked h tablePrefix
    | some rest => rw [afterStart_eq_some_iff.1 hafter, liveName_marked]

end Table

/-! ### Tables and entries -/

/-- The part without what it says of its table. -/
def KeyPart.detached (part : KeyPart) : KeyPart := { part with table := "" }

def TableStructure.live (table : TableStructure) (tablePrefix : String) : TableStructure :=
  ⟨liveName table.name tablePrefix, table.columns, table.keys.map KeyPart.detached⟩

/-- The structure under its generic name, which its key parts say as well. -/
def TableStructure.generic (table : TableStructure) (tablePrefix : String) : TableStructure :=
  ⟨genericName table.name tablePrefix, table.columns,
    table.keys.map fun part => { part with table := genericName table.name tablePrefix }⟩

def TableData.live (data : TableData) (tablePrefix : String) : TableData :=
  ⟨liveName data.name tablePrefix, data.rows⟩

def TableData.generic (data : TableData) (tablePrefix : String) : TableData :=
  ⟨genericName data.name tablePrefix, data.rows⟩

@[simp] theorem TableStructure.name_live (table : TableStructure) (tablePrefix : String) :
    (table.live tablePrefix).name = liveName table.name tablePrefix := rfl

@[simp] theorem TableData.name_live (data : TableData) (tablePrefix : String) :
    (data.live tablePrefix).name = liveName data.name tablePrefix := rfl

theorem TableStructure.live_generic {table : TableStructure} (h : ¬Table.IsMarked table.name)
    (tablePrefix other : String) :
    (table.generic tablePrefix).live tablePrefix = table.live other := by
  simp [live, generic, Table.liveName_genericName h, Table.liveName_of_not_isMarked h,
    KeyPart.detached]

theorem TableData.live_generic {data : TableData} (h : ¬Table.IsMarked data.name)
    (tablePrefix other : String) :
    (data.generic tablePrefix).live tablePrefix = data.live other := by
  simp [live, generic, Table.liveName_genericName h, Table.liveName_of_not_isMarked h]

namespace Entry

def live (entry : Entry) (tablePrefix : String) : Entry :=
  match entry with
  | .ofStructure table => .ofStructure (table.live tablePrefix)
  | .ofData data => .ofData (data.live tablePrefix)

def generic (entry : Entry) (tablePrefix : String) : Entry :=
  match entry with
  | .ofStructure table => .ofStructure (table.generic tablePrefix)
  | .ofData data => .ofData (data.generic tablePrefix)

theorem name_generic (entry : Entry) (tablePrefix : String) :
    (entry.generic tablePrefix).name = genericName entry.name tablePrefix := by
  cases entry <;> rfl

theorem structure?_generic (entry : Entry) (tablePrefix : String) :
    (entry.generic tablePrefix).structure? = entry.structure?.map (·.generic tablePrefix) := by
  cases entry <;> rfl

theorem structure?_live (entry : Entry) (tablePrefix : String) :
    (entry.live tablePrefix).structure? = entry.structure?.map (·.live tablePrefix) := by
  cases entry <;> rfl

theorem data?_live (entry : Entry) (tablePrefix : String) :
    (entry.live tablePrefix).data? = entry.data?.map (·.live tablePrefix) := by
  cases entry <;> rfl

theorem live_generic {entry : Entry} (h : ¬Table.IsMarked entry.name)
    (tablePrefix other : String) :
    (entry.generic tablePrefix).live tablePrefix = entry.live other := by
  cases entry with
  | ofStructure table => exact congrArg ofStructure (TableStructure.live_generic h _ _)
  | ofData data => exact congrArg ofData (TableData.live_generic h _ _)

/-- The entry with its live name for its name, and nothing else changed: key parts go on to say
    the generic name. -/
def renamed (entry : Entry) (tablePrefix : String) : Entry :=
  match entry with
  | .ofStructure table => .ofStructure { table with name := liveName table.name tablePrefix }
  | .ofData data => .ofData { data with name := liveName data.name tablePrefix }

@[simp] theorem name_renamed (entry : Entry) (tablePrefix : String) :
    (entry.renamed tablePrefix).name = liveName entry.name tablePrefix := by
  cases entry <;> rfl

/-- A live name is its own live name under any prefix, unless it starts with the placeholder. -/
theorem live_renamed {entry : Entry} {tablePrefix : String}
    (h : ¬Table.IsMarked (entry.renamed tablePrefix).name) (other : String) :
    (entry.renamed tablePrefix).live other = entry.live tablePrefix := by
  rw [name_renamed] at h
  have hname := Table.liveName_of_not_isMarked h other
  cases entry with
  | ofStructure table =>
    simp only [Entry.name] at hname
    simp only [renamed, live, TableStructure.live, hname]
  | ofData data =>
    simp only [Entry.name] at hname
    simp only [renamed, live, TableData.live, hname]

end Entry

/-! ### Dumps -/

namespace Dump

def live (dump : Dump) (tablePrefix : String) : Dump :=
  { dump with entries := dump.entries.map (·.live tablePrefix) }

def generic (dump : Dump) (tablePrefix : String) : Dump :=
  { dump with entries := dump.entries.map (·.generic tablePrefix) }

/-- No entry has a name that starts with the placeholder. -/
def IsUnmarked (dump : Dump) : Prop := ∀ entry ∈ dump.entries, ¬Table.IsMarked entry.name

/-- Entries of different names also have different live names. -/
def StaysApart (dump : Dump) (tablePrefix : String) : Prop :=
  ∀ first ∈ dump.entries, ∀ second ∈ dump.entries,
    liveName first.name tablePrefix = liveName second.name tablePrefix → first.name = second.name

/-- What changes each entry changes the structures, or the rows, of a dump one by one. -/
theorem filterMap_changed {β : Type} {part : Entry → Option β} {change : Entry → Entry}
    {changePart : β → β} (h : ∀ entry, part (change entry) = (part entry).map changePart)
    (entries : List Entry) :
    (entries.map change).filterMap part = (entries.filterMap part).map changePart := by
  rw [List.filterMap_map, List.map_filterMap]
  exact congrArg (List.filterMap · entries) (funext h)

theorem structures_live (dump : Dump) (tablePrefix : String) :
    (dump.live tablePrefix).structures = dump.structures.map (·.live tablePrefix) :=
  filterMap_changed (fun entry => entry.structure?_live tablePrefix) dump.entries

theorem structures_generic (dump : Dump) (tablePrefix : String) :
    (dump.generic tablePrefix).structures = dump.structures.map (·.generic tablePrefix) :=
  filterMap_changed (fun entry => entry.structure?_generic tablePrefix) dump.entries

theorem data_live (dump : Dump) (tablePrefix : String) :
    (dump.live tablePrefix).data = dump.data.map (·.live tablePrefix) :=
  filterMap_changed (fun entry => entry.data?_live tablePrefix) dump.entries

/-- **The structure of a table is found under its live name as well**, if live names keep the
    tables apart. -/
theorem structureOf?_live {dump : Dump} {tablePrefix : String} (h : dump.StaysApart tablePrefix)
    {data : TableData} (hdata : data ∈ dump.data) :
    (dump.live tablePrefix).structureOf? (data.live tablePrefix).name
      = (dump.structureOf? data.name).map (·.live tablePrefix) := by
  rw [structureOf?, structures_live, List.find?_map, structureOf?]
  congr 1
  refine List.find?_congr fun table htable => Bool.eq_iff_iff.2 ?_
  simp only [Function.comp_apply, beq_iff_eq, TableStructure.name_live, TableData.name_live]
  constructor
  · exact h (.ofStructure table) (mem_structures_iff.1 htable) (.ofData data) (mem_data_iff.1 hdata)
  · intro hname
    rw [hname]

/-! ### From live to generic names and back -/

theorem live_generic {dump : Dump} (h : dump.IsUnmarked) (tablePrefix other : String) :
    (dump.generic tablePrefix).live tablePrefix = dump.live other := by
  have hentries : (dump.entries.map (·.generic tablePrefix)).map (·.live tablePrefix)
      = dump.entries.map (·.live other) := by
    rw [List.map_map]
    exact List.map_congr_left fun entry hentry => Entry.live_generic (h entry hentry) _ _
  rw [live, live, generic, hentries]

/-- The dump with each entry's live name for its name. -/
def renamed (dump : Dump) (tablePrefix : String) : Dump :=
  { dump with entries := dump.entries.map (·.renamed tablePrefix) }

theorem live_renamed {dump : Dump} {tablePrefix : String}
    (h : (dump.renamed tablePrefix).IsUnmarked) (other : String) :
    (dump.renamed tablePrefix).live other = dump.live tablePrefix := by
  have hentries : (dump.entries.map (·.renamed tablePrefix)).map (·.live other)
      = dump.entries.map (·.live tablePrefix) := by
    rw [List.map_map]
    refine List.map_congr_left fun entry hentry => Entry.live_renamed (h _ ?_) other
    exact List.mem_map_of_mem hentry
  rw [live, live, renamed, hentries]

theorem IsUnmarked.staysApart {dump : Dump} (h : dump.IsUnmarked) (tablePrefix : String) :
    dump.StaysApart tablePrefix := by
  intro first hfirst second hsecond hname
  rwa [Table.liveName_of_not_isMarked (h first hfirst),
    Table.liveName_of_not_isMarked (h second hsecond)] at hname

/-- **The placeholder merges no two tables.** -/
theorem IsUnmarked.staysApart_generic {dump : Dump} (h : dump.IsUnmarked) (tablePrefix : String) :
    (dump.generic tablePrefix).StaysApart tablePrefix := by
  intro first hfirst second hsecond hname
  obtain ⟨one, hone, rfl⟩ := List.mem_map.1 hfirst
  obtain ⟨two, htwo, rfl⟩ := List.mem_map.1 hsecond
  rw [Entry.name_generic, Entry.name_generic] at hname ⊢
  rw [Table.liveName_genericName (h one hone), Table.liveName_genericName (h two htwo)] at hname
  rw [hname]

end Dump
end SchemaDump
