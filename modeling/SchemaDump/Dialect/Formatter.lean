/-
  SchemaDump/Dialect/Formatter.lean
  =================================
  **Formatters: what a dialect does for a dump.**

  A formatter creates a table, fills it, empties it and moves its identity
  counters past the rows put in.  Each operation gives complete SQL text or the
  reason why the dialect cannot express what is asked.
-/
import SchemaDump.Dump
import SchemaDump.Sql.Unsupported
import SchemaDump.Table.Extra
import SchemaDump.ColumnType.Reading
import SchemaDump.Sql.Statement

namespace SchemaDump

/-- What a formatter is made with. -/
structure FormatOptions where
  /-- Takes the placeholder's place in table names. -/
  tablePrefix : String := "xxxxx_"
deriving DecidableEq, Repr

/-- A dialect, made ready with its options. -/
structure Formatter where
  name : String
  /-- Creates the table with its keys and comments. -/
  create : TableStructure → Except Sql.Unsupported String
  /-- Puts in the rows, one statement each. -/
  insert : TableData → Except Sql.Unsupported String
  clear : TableStructure → Except Sql.Unsupported String
  /-- Moves the table's identity counters past the rows. -/
  reset : TableStructure → TableData → Except Sql.Unsupported String

abbrev Formatter.Factory := FormatOptions → Formatter

namespace Dialect

open Sql (Unsupported Clause ColumnClause ColumnOption Default IndexColumn Statement)

def extrasOf (column : Column) : Except Unsupported (List Extra) :=
  match Extra.read column.extra with
  | .ok extras => .ok extras
  | .error .incomplete => .error (.incompleteExtra column.extra)
  | .error .unknown => .error (.unknownExtra column.extra)

def typeOf (column : Column) : Except Unsupported ColumnType :=
  match ColumnType.read? column.type with
  | some type => .ok type
  | none => .error (.unreadableType column.type)

/-- Refuses a key with a part that names no column. -/
def checkColumns (table : String) (key : KeyGroup) : Except Unsupported Unit :=
  if key.lacksColumn then .error (.keyWithoutColumn key.name table) else .ok ()

def indexColumns (key : KeyGroup) : List IndexColumn :=
  key.parts.map fun part => ⟨part.column, part.isDescending⟩

/-- The name of an index: those of all tables share one space of names. -/
def indexName (table : String) (key : KeyGroup) : String := table ++ "_" ++ key.name

end Dialect
end SchemaDump
