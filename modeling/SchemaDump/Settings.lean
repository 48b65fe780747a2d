/-
  SchemaDump/Settings.lean
  ========================
  **Settings of a conversion.**

  The settings name the dialect, the table prefix and the mode of a script, and
  what to export.  They are read from a TOML document, in which every setting
  may be left out and others are passed over, or from a form.
-/
import SchemaDump.Exporter
import SchemaDump.Form.Basic
import SchemaDump.Script
import SchemaDump.Toml.Reading

namespace SchemaDump

structure Settings where
  format : String := "mysql"
  tablePrefix : String := "xxxxx_"
  mode : Mode := .install
  withStructure : Bool := true
  withData : Bool := false
  /-- The tables to export by their live names; none means all. -/
  tables : List String := []
deriving DecidableEq, Repr

inductive SettingsError where
  | unreadable
  | emptyFormat
  /-- The table at a position, counted from zero, is blank. -/
  | blankTable (position : Nat)
  | unknownFormat (format : String) (known : List String)
deriving DecidableEq, Repr

def SettingsError.message : SettingsError → String
  | .unreadable => "Invalid configuration: Failed to parse TOML"
  | .emptyFormat => "Invalid configuration: format must not be empty"
  | .blankTable position => "Invalid configuration: " ++ blankTableMessage position
  | .unknownFormat format known =>
    "Invalid configuration: Unknown format " ++ Text.quoted format ++ ", expected one of: "
      ++ Text.joined ", " known

def Mode.name : Mode → String
  | .install => "install"
  | .sampleData => "sample_data"

def Mode.ofName? (name : String) : Option Mode :=
  if name == Mode.install.name then some .install
  else if name == Mode.sampleData.name then some .sampleData
  else none

/-- Reads a mode: its word, or a record that holds nothing under it. -/
def Mode.ofForm? : Form → Option Mode
  | .text name => Mode.ofName? name
  | .record [(name, .null)] => Mode.ofName? name
  | _ => none

namespace Settings

open Toml (Node)

/-! ### From a TOML document -/

def textOf? : Node → Option String
  | .text value => some value
  | _ => none

def flagOf? : Node → Option Bool
  | .flag value => some value
  | _ => none

def textsOf? : Node → Option (List String)
  | .list items => items.mapM textOf?
  | _ => none

def isEmptyNode : Node → Bool
  | .list [] | .inline [] | .table _ [] => true
  | _ => false

/-- A mode of a document: its word, or a table that holds nothing under it. -/
def modeOf? : Node → Option Mode
  | .text name => Mode.ofName? name
  | .inline [(name, node)] | .table _ [(name, node)] =>
    if isEmptyNode node then Mode.ofName? name else none
  | _ => none

/-- A setting of a document, or its usual value. -/
def setting? {α : Type} (entries : Toml.Entries) (key : String) (usual : α)
    (read : Node → Option α) : Option α :=
  match entries.lookup key with
  | some node => read node
  | none => some usual

def ofEntries? (entries : Toml.Entries) : Option Settings := do
  let usual : Settings := {}
  let format ← setting? entries "format" usual.format textOf?
  let tablePrefix ← setting? entries "prefix" usual.tablePrefix textOf?
  let mode ← setting? entries "mode" usual.mode modeOf?
  let withStructure ← setting? entries "with_structure" usual.withStructure flagOf?
  let withData ← setting? entries "with_data" usual.withData flagOf?
  let tables ← setting? entries "tables" usual.tables textsOf?
  pure ⟨format, tablePrefix, mode, withStructure, withData, tables⟩

def ofToml (text : String) : Except SettingsError Settings :=
  match (Toml.read? text).bind ofEntries? with
  | none => .error .unreadable
  | some settings =>
    if Text.blankOnly settings.format then .error .emptyFormat
    else match settings.tables.findIdx? Text.blankOnly with
      | some position => .error (.blankTable position)
      | none => .ok settings

/-! ### As a form -/

def ofForm? (form : Form) : Option Settings := do
  let usual : Settings := {}
  let format ← form.optional "format" usual.format Form.text?
  let tablePrefix ← form.optional "prefix" usual.tablePrefix Form.text?
  let mode ← form.optional "mode" usual.mode Mode.ofForm?
  let withStructure ← form.optional "with_structure" usual.withStructure Form.flag?
  let withData ← form.optional "with_data" usual.withData Form.flag?
  let tables ← form.optional "tables" usual.tables (Form.list? Form.text?)
  pure ⟨format, tablePrefix, mode, withStructure, withData, tables⟩

def toForm (settings : Settings) : Form :=
  .record
    [("format", .text settings.format), ("prefix", .text settings.tablePrefix),
      ("mode", .text settings.mode.name), ("with_structure", .flag settings.withStructure),
      ("with_data", .flag settings.withData), ("tables", .list (settings.tables.map .text))]

/-! ### In use -/

/-- Refuses a format that the registry does not know. -/
def validate (settings : Settings) (dialects : Dialects) : Except SettingsError Unit :=
  if dialects.contains settings.format then .ok ()
  else .error (.unknownFormat settings.format dialects.names)

def formatOptions (settings : Settings) : FormatOptions := ⟨settings.tablePrefix⟩

/-- The exporter of the selected tables of a source, or of all. -/
def exporter (settings : Settings) (source : Source) : Except ExportError Exporter :=
  let bound : Exporter :=
    { source := some source
      withStructure := settings.withStructure
      withData := settings.withData }
  if settings.tables.isEmpty then bound.selectAll else bound.select settings.tables

end Settings

def FormatOptions.ofForm? (form : Form) : Option FormatOptions :=
  (form.optional "prefix" ({} : FormatOptions).tablePrefix Form.text?).map FormatOptions.mk

end SchemaDump
