/-
  SchemaDump/Dump.lean
  ====================
  **The dump: a database as an ordered list of entries.**

  An entry is either the structure of a table or rows of it.  A table may have
  both, one of them or several entries, in any order; table names in a dump are
  generic.
-/
import SchemaDump.Table.Column
import SchemaDump.Table.Key
import SchemaDump.Table.Row

namespace SchemaDump

/-- The columns and key parts of one table, each in order. -/
structure TableStructure where
  name : String
  columns : List Column
  keys : List KeyPart := []
deriving DecidableEq, Repr

namespace TableStructure

def keyGroups (table : TableStructure) : List KeyGroup := KeyGroup.collect table.keys

def column? (table : TableStructure) (name : String) : Option Column :=
  table.columns.find? (·.name == name)

end TableStructure

structure TableData where
  name : String
  rows : List Row := []
deriving DecidableEq, Repr

/-- One entry of a dump. -/
inductive Entry where
  | ofStructure (table : TableStructure)
  | ofData (table : TableData)
deriving DecidableEq, Repr

namespace Entry

def name : Entry → String
  | .ofStructure table => table.name
  | .ofData table => table.name

def structure? : Entry → Option TableStructure
  | .ofStructure table => some table
  | .ofData _ => none

def data? : Entry → Option TableData
  | .ofStructure _ => none
  | .ofData table => some table

end Entry

/-- A database: its name, which may be empty, and its entries. -/
structure Dump where
  database : String := ""
  entries : List Entry := []
deriving DecidableEq, Repr

namespace Dump

def structures (dump : Dump) : List TableStructure := dump.entries.filterMap Entry.structure?

def data (dump : Dump) : List TableData := dump.entries.filterMap Entry.data?

/-- The first structure of a table. -/
def structureOf? (dump : Dump) (name : String) : Option TableStructure :=
  dump.structures.find? (·.name == name)

def push (dump : Dump) (entry : Entry) : Dump := { dump with entries := dump.entries ++ [entry] }

theorem mem_structures_iff {dump : Dump} {table : TableStructure} :
    table ∈ dump.structures ↔ .ofStructure table ∈ dump.entries := by
  rw [structures, List.mem_filterMap]
  constructor
  · rintro ⟨entry, hentry, hstructure⟩
    cases entry with
    | ofStructure held =>
      obtain rfl := Option.some.inj hstructure
      exact hentry
    | ofData held => cases hstructure
  · exact fun hentry => ⟨_, hentry, rfl⟩

theorem mem_data_iff {dump : Dump} {data : TableData} :
    data ∈ dump.data ↔ .ofData data ∈ dump.entries := by
  rw [Dump.data, List.mem_filterMap]
  constructor
  · rintro ⟨entry, hentry, hdata⟩
    cases entry with
    | ofStructure held => cases hdata
    | ofData held =>
      obtain rfl := Option.some.inj hdata
      exact hentry
  · exact fun hentry => ⟨_, hentry, rfl⟩

end Dump
end SchemaDump
