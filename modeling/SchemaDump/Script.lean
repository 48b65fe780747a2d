/-
  SchemaDump/Script.lean
  ======================
  **Scripts: a dump as SQL.**

  A script first prepares every table whose structure the dump holds, by
  creating or by emptying it, and then puts in the rows of each data entry and
  moves the table's counters past them, if the dump tells the table's structure.
-/
import SchemaDump.Document.Cursor
import SchemaDump.Registry

namespace SchemaDump

/-- What a script does with the tables before the rows. -/
inductive Mode where
  | install
  | sampleData
deriving DecidableEq, Repr

/-- SQL text, and how many tables it creates, empties and fills. -/
structure Script where
  sql : String := ""
  creates : Nat := 0
  truncates : Nat := 0
  inserts : Nat := 0
deriving DecidableEq, Repr

namespace Script

/-! ### One dialect -/

def prepare (formatter : Formatter) (mode : Mode) (table : TableStructure) :
    Except Sql.Unsupported String :=
  match mode with
  | .install => formatter.create table
  | .sampleData => formatter.clear table

/-- The text that fills a table and moves its counters. -/
def fill (formatter : Formatter) (dump : Dump) (data : TableData) :
    Except Sql.Unsupported String := do
  let rows ← formatter.insert data
  let counters ← match dump.structureOf? data.name with
    | some table => formatter.reset table data
    | none => pure ""
  pure (rows ++ counters)

/-- The script of a dump: all structures, an empty line after emptied tables, then all rows. -/
def ofDump (formatter : Formatter) (mode : Mode) (dump : Dump) :
    Except Sql.Unsupported Script := do
  let tables ← dump.structures.mapM (prepare formatter mode)
  let rows ← dump.data.mapM (fill formatter dump)
  let cleared := mode == .sampleData && !tables.isEmpty
  pure {
    sql := String.join tables ++ (if cleared then "\n" else "") ++ String.join rows
    creates := if mode == .install then tables.length else 0
    truncates := if mode == .sampleData then tables.length else 0
    inserts := rows.length }

/-! ### All dialects -/

/-- The scripts of a dump for all dialects of a registry, in the order of their names. -/
def ofDumpForAll (dialects : Dialects) (options : FormatOptions) (mode : Mode) (dump : Dump) :
    Except FormatError (List (String × Script)) :=
  dialects.names.mapM fun name => do
    let formatter ← dialects.create name options
    match ofDump formatter mode dump with
    | .ok script => pure (name, script)
    | .error cause => throw (.unsupported cause)

/-! ### From a document -/

/-- Why a document gives no script. -/
inductive Error where
  | document (cause : Document.Malformed)
  | format (cause : FormatError)
deriving DecidableEq, Repr

def Error.message : Error → String
  | .document cause => "Import error: " ++ cause.message
  | .format cause => "Format error: " ++ cause.message

/-- The script of a document.  The dialect is looked up before the document is read. -/
def ofDocument (dialects : Dialects) (dialect : String) (options : FormatOptions) (mode : Mode)
    (text : String) : Except Error Script := do
  let formatter ← (dialects.create dialect options).mapError .format
  let dump ← (Document.read text).mapError .document
  (ofDump formatter mode dump).mapError fun cause => .format (.unsupported cause)

end Script
end SchemaDump
