/-
  SchemaDump/Exporter.lean
  ========================
  **Exporting tables of a source.**

  An exporter knows which tables of which source to export and whether their
  structures, their rows or both are wanted.  It gives a dump in memory or
  writes the document piece by piece into a sink while the rows arrive.  Tables
  are selected by their live names and get generic names in the dump, and so do
  their keys.
-/
import SchemaDump.Output.Writer
import SchemaDump.Source.Basic
import SchemaDump.Table.Name
import SchemaDump.Text.Quoted
import SchemaDump.Text.Blank

namespace SchemaDump

open Markup (Event)

inductive ExportError where
  | emptySelection
  /-- The selected name at a position, counted from zero, is blank. -/
  | blankTable (position : Nat)
  | missingSource
  | noTables
  | source (cause : SourceError)
  | sink (cause : SinkError)
deriving DecidableEq, Repr

def blankTableMessage (position : Nat) : String :=
  "Table name at position " ++ String.ofList (Text.decimal position) ++ " is empty"

def ExportError.message : ExportError → String
  | .emptySelection => "Invalid input: Table selection is empty"
  | .blankTable position => "Invalid input: " ++ blankTableMessage position
  | .missingSource => "Precondition failed: No schema source bound to the exporter"
  | .noTables => "Precondition failed: No tables specified for export"
  | .source cause => "Schema source error: " ++ cause.message
  | .sink cause => "IO error: " ++ cause.message

/-! ### Choosing tables -/

structure Exporter where
  tables : List String := []
  withStructure : Bool := true
  withData : Bool := false
  databaseName : String := ""
  source : Option Source := none

namespace Exporter

/-- Selects tables: at least one, and none with a blank name. -/
def select (exporter : Exporter) (tables : List String) : Except ExportError Exporter :=
  if tables.isEmpty then .error .emptySelection
  else match tables.findIdx? Text.blankOnly with
    | some position => .error (.blankTable position)
    | none => .ok { exporter with tables := tables }

/-- Selects every table of the source. -/
def selectAll (exporter : Exporter) : Except ExportError Exporter := do
  let source ← exporter.source.elim (.error .missingSource) .ok
  let tables ← source.tableNames.mapError .source
  exporter.select tables

/-- The source, if there is one and tables are selected. -/
def check (exporter : Exporter) : Except ExportError Source := do
  let source ← exporter.source.elim (.error .missingSource) .ok
  if exporter.tables.isEmpty then throw .noTables
  pure source

/-! ### Into a dump -/

/-- The structure of a table under its generic name. -/
def readStructure (source : Source) (table : String) : Except ExportError TableStructure := do
  let generic := Table.genericName table source.tablePrefix
  let columns ← (source.columns table).mapError .source
  let keys ← (source.keys table).mapError .source
  pure ⟨generic, columns, keys.map fun part => { part with table := generic }⟩

/-- The entries of one table. -/
def readEntries (exporter : Exporter) (source : Source) (table : String) :
    Except ExportError (List Entry) := do
  let structures ←
    if exporter.withStructure then
      pure [Entry.ofStructure (← readStructure source table)]
    else pure []
  let data ←
    if exporter.withData then do
      let rows ← (source.rows table).all.mapError .source
      pure [Entry.ofData ⟨Table.genericName table source.tablePrefix, rows⟩]
    else pure []
  pure (structures ++ data)

def dump (exporter : Exporter) : Except ExportError Dump := do
  let source ← exporter.check
  let entries ← exporter.tables.mapM (exporter.readEntries source)
  pure ⟨exporter.databaseName, entries.flatten⟩

/-- With a source and a selection the tables are read one after another. -/
theorem dump_of_check {exporter : Exporter} {source : Source} (h : exporter.check = .ok source) :
    exporter.dump = (exporter.tables.mapM (exporter.readEntries source)).map fun entries =>
      ⟨exporter.databaseName, entries.flatten⟩ := by
  rw [dump, h]
  rfl

/-! ### Into a sink -/

/-- The events of one table, as they can be told while its rows arrive. -/
def tableEvents (exporter : Exporter) (source : Source) (table : String) :
    Run ExportError Event :=
  let structures :=
    if exporter.withStructure then
      Run.ofExcept ((readStructure source table).map Document.structureEvents)
    else Run.ofList []
  let data :=
    if exporter.withData then
      Run.concat
        [Run.ofList (Document.dataStartEvents (Table.genericName table source.tablePrefix)),
          (source.rows table).flatMap Document.rowEvents .source,
          Run.ofList Document.dataEndEvents]
    else Run.ofList []
  structures.append data

/-- The events of the document but for its end. -/
def streamedEvents (exporter : Exporter) (source : Source) : Run ExportError Event :=
  (Run.ofList (Document.startEvents exporter.databaseName)).append
    (Run.concat (exporter.tables.map (exporter.tableEvents source)))

/-- Writes the document into a sink while it is told; gives the sink with what it has accepted,
    and the first error. -/
def writeTo (exporter : Exporter) (sink : Sink) (cutting : optParam Cutting .marked) :
    Sink × Option ExportError :=
  match exporter.check with
  | .error error => (sink, some error)
  | .ok source =>
    let run := exporter.streamedEvents source
    match ({ sink := sink } : Writer).putAll run.items cutting, run.failure with
    | (stopped, some error), _ => (stopped.sink, some (.sink error))
    | (stopped, none), some error => (stopped.sink, some error)
    | (open_, none), none =>
      let (closed, error) := open_.finish cutting
      (closed.sink, error.map .sink)

def document (exporter : Exporter) : Except ExportError String :=
  match exporter.writeTo {} with
  | (sink, none) => .ok sink.held
  | (_, some error) => .error error

/-! ### For logs -/

def describeFlag (value : Bool) : String := if value then "true" else "false"

/-- The exporter in words, for logs: its tables and switches, and whether a source is bound. -/
def description (exporter : Exporter) : String :=
  "Exporter \x7b tables: [" ++ Text.joined ", " (exporter.tables.map Text.quoted)
    ++ "], with_structure: " ++ describeFlag exporter.withStructure
    ++ ", with_data: " ++ describeFlag exporter.withData
    ++ ", database_name: " ++ Text.quoted exporter.databaseName
    ++ ", source: " ++ (if exporter.source.isSome then "Some(\"SchemaSource\")" else "None")
    ++ " \x7d"

end Exporter
end SchemaDump
