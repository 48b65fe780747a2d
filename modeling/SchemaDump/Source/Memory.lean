/-
  SchemaDump/Source/Memory.lean
  =============================
  **Tables held in memory.**

  The tables have distinct names and keep the order in which their names were
  first added.  Adding a table of a known name replaces the held one in its
  place.
-/
import SchemaDump.Source.Basic

namespace SchemaDump

/-- A table with its rows, under its live name. -/
structure MemoryTable where
  name : String
  columns : List Column := []
  keys : List KeyPart := []
  rows : List Row := []
deriving DecidableEq, Repr

structure Memory where
  tablePrefix : String := ""
  tables : List MemoryTable := []
deriving DecidableEq, Repr

namespace Memory

/-- Tables with one put in the place of that of its name, or at the end. -/
def put (table : MemoryTable) : List MemoryTable → List MemoryTable
  | [] => [table]
  | held :: rest => if held.name == table.name then table :: rest else held :: put table rest

def withTable (memory : Memory) (table : MemoryTable) : Memory :=
  { memory with tables := put table memory.tables }

def table (memory : Memory) (name : String) : Except SourceError MemoryTable :=
  match memory.tables.find? (·.name == name) with
  | some found => .ok found
  | none => .error (.tableNotFound name)

def source (memory : Memory) : Source where
  tablePrefix := memory.tablePrefix
  tableNames := .ok (memory.tables.map (·.name))
  columns name := (memory.table name).map (·.columns)
  keys name := (memory.table name).map (·.keys)
  rows name := Run.ofExcept ((memory.table name).map (·.rows))

end Memory
end SchemaDump
