/-
  SchemaDump/Document/Writing.lean
  ================================
  **Writing a dump document.**

  A document is a list of events: the declaration, the root element, the
  database and in it an element for each entry.  A NULL is an empty field with a
  mark; any other value is a text, even if it is empty, so that the closing tag
  stays on its line and no blank gets into the value.
-/
import SchemaDump.Markup.Layout
import SchemaDump.Dump
import SchemaDump.Text.Numeral

namespace SchemaDump.Document

open Markup (Attribute Tag Event Layout)

/-- The element of a column.  The default is left out if there is none. -/
def columnTag (column : Column) : Tag where
  name := "field"
  attributes :=
    [⟨"Field", column.name⟩, ⟨"Type", column.type⟩, ⟨"Null", column.nullFlag⟩,
      ⟨"Key", column.key⟩]
    ++ (column.defaultValue.elim [] fun value => [⟨"Default", value⟩])
    ++ [⟨"Extra", column.extra⟩, ⟨"Comment", column.comment⟩]

def keyTag (part : KeyPart) : Tag where
  name := "key"
  attributes :=
    [⟨"Table", part.table⟩, ⟨"Non_unique", part.nonUniqueFlag⟩, ⟨"Key_name", part.keyName⟩,
      ⟨"Seq_in_index", String.ofList (Text.decimal part.position.toNat)⟩,
      ⟨"Column_name", part.column⟩, ⟨"Collation", part.collation⟩, ⟨"Null", part.nullable⟩,
      ⟨"Index_type", part.method⟩, ⟨"Comment", part.comment⟩]

/-- The declaration and the openings of the root element and the database. -/
def startEvents (database : String) : List Event :=
  [.declaration,
    .opening ⟨"mysqldump", [⟨"xmlns:xsi", "http://www.w3.org/2001/XMLSchema-instance"⟩]⟩,
    .opening ⟨"database", [⟨"name", database⟩]⟩]

def structureEvents (table : TableStructure) : List Event :=
  [.opening ⟨"table_structure", [⟨"name", table.name⟩]⟩]
    ++ table.columns.map (fun column => .single (columnTag column))
    ++ table.keys.map (fun part => .single (keyTag part))
    ++ [.closing "table_structure"]

def dataStartEvents (table : String) : List Event :=
  [.opening ⟨"table_data", [⟨"name", table⟩]⟩]

def fieldEvents (field : Field) : List Event :=
  match field.value with
  | none => [.single ⟨"field", [⟨"name", field.name⟩, ⟨"xsi:nil", "true"⟩]⟩]
  | some value => [.opening ⟨"field", [⟨"name", field.name⟩]⟩, .text value, .closing "field"]

def rowEvents (row : Row) : List Event :=
  [.opening ⟨"row", []⟩] ++ row.fields.flatMap fieldEvents ++ [.closing "row"]

def dataEndEvents : List Event := [.closing "table_data"]

def entryEvents : Entry → List Event
  | .ofStructure table => structureEvents table
  | .ofData table => dataStartEvents table.name ++ table.rows.flatMap rowEvents ++ dataEndEvents

/-- The ends of the database and the root element. -/
def endEvents : List Event := [.closing "database", .closing "mysqldump"]

def events (dump : Dump) : List Event :=
  startEvents dump.database ++ dump.entries.flatMap entryEvents ++ endEvents

/-- The document of a dump; it ends with a line feed. -/
def write (dump : Dump) : String := String.join (({} : Layout).writeAll (events dump)) ++ "\n"

end SchemaDump.Document
