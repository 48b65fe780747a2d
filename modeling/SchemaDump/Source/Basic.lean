/-
  SchemaDump/Source/Basic.lean
  ============================
  **Schema sources: where dumps come from.**

  A source answers the questions that a database would: its tables, their
  columns, their keys and their rows.  Each question may fail, and rows arrive
  one by one, so that a source may also fail between two of them.  Tables are
  asked for by their live names.
-/
import SchemaDump.Dump
import SchemaDump.Run

namespace SchemaDump

/-- Why a source does not answer. -/
inductive SourceError where
  | tableNotFound (table : String)
  | backend (reason : String)
deriving DecidableEq, Repr

def SourceError.message : SourceError → String
  | .tableNotFound table => "Table not found: " ++ table
  | .backend reason => "Schema source error: " ++ reason

/-- The answers of a database. -/
structure Source where
  /-- What the names of all its tables start with, if anything. -/
  tablePrefix : String
  tableNames : Except SourceError (List String)
  columns : String → Except SourceError (List Column)
  /-- The key parts of a table, in the database's order. -/
  keys : String → Except SourceError (List KeyPart)
  rows : String → Run SourceError Row

end SchemaDump
