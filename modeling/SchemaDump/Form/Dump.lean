/-
  SchemaDump/Form/Dump.lean
  =========================
  **The form of a dump.**

  Each part of a dump is a record, an object with named members; that derived
  readers may also take a record from the list of its members is not part of this.
  Members that may be left out have the value that a new part has; unknown members
  are passed over.  A column without default has no member for it, so that it
  differs from one with an empty default; a NULL field has the member `value`, with
  nothing in it.  An entry says with the member `kind` what it is.
-/
import SchemaDump.Form.Basic
import SchemaDump.Dump

namespace SchemaDump

open Form (text? flag? unsigned32?)

def Column.ofForm? (form : Form) : Option Column := do
  let name ← form.required "name" text?
  let type ← form.required "column_type" text?
  let nullable ← form.required "nullable" flag?
  let key ← form.textOrEmpty "key"
  let defaultValue ← form.optional "default" none Form.optionalText?
  let extra ← form.textOrEmpty "extra"
  let comment ← form.textOrEmpty "comment"
  pure ⟨name, type, nullable, key, defaultValue, extra, comment⟩

def Column.toForm (column : Column) : Form :=
  .record (
    [("name", .text column.name), ("column_type", .text column.type),
      ("nullable", .flag column.nullable), ("key", .text column.key)]
    ++ (column.defaultValue.elim [] fun value => [("default", .text value)])
    ++ [("extra", .text column.extra), ("comment", .text column.comment)])

def KeyPart.ofForm? (form : Form) : Option KeyPart := do
  let table ← form.required "table" text?
  let nonUnique ← form.required "non_unique" flag?
  let keyName ← form.required "key_name" text?
  let position ← form.required "seq_in_index" unsigned32?
  let column ← form.required "column_name" text?
  let collation ← form.textOrEmpty "collation"
  let nullable ← form.textOrEmpty "nullable"
  let method ← form.textOrEmpty "index_type"
  let comment ← form.textOrEmpty "comment"
  pure ⟨table, nonUnique, keyName, position, column, collation, nullable, method, comment⟩

def KeyPart.toForm (part : KeyPart) : Form :=
  .record
    [("table", .text part.table), ("non_unique", .flag part.nonUnique),
      ("key_name", .text part.keyName), ("seq_in_index", .integer part.position.toNat),
      ("column_name", .text part.column), ("collation", .text part.collation),
      ("nullable", .text part.nullable), ("index_type", .text part.method),
      ("comment", .text part.comment)]

def TableStructure.ofForm? (form : Form) : Option TableStructure := do
  let name ← form.required "name" text?
  let columns ← form.required "columns" (Form.list? Column.ofForm?)
  let keys ← form.optional "keys" [] (Form.list? KeyPart.ofForm?)
  pure ⟨name, columns, keys⟩

def TableStructure.members (table : TableStructure) : List (String × Form) :=
  [("name", .text table.name), ("columns", .list (table.columns.map Column.toForm)),
    ("keys", .list (table.keys.map KeyPart.toForm))]

def Field.ofForm? (form : Form) : Option Field := do
  let name ← form.required "name" text?
  let value ← form.optional "value" none Form.optionalText?
  pure ⟨name, value⟩

def Field.toForm (field : Field) : Form :=
  .record [("name", .text field.name), ("value", .ofOptionalText field.value)]

def Row.ofForm? (form : Form) : Option Row :=
  (form.required "fields" (Form.list? Field.ofForm?)).map Row.mk

def Row.toForm (row : Row) : Form := .record [("fields", .list (row.fields.map Field.toForm))]

def TableData.ofForm? (form : Form) : Option TableData := do
  let name ← form.required "name" text?
  let rows ← form.optional "rows" [] (Form.list? Row.ofForm?)
  pure ⟨name, rows⟩

def TableData.members (table : TableData) : List (String × Form) :=
  [("name", .text table.name), ("rows", .list (table.rows.map Row.toForm))]

def Entry.ofForm? (form : Form) : Option Entry := do
  let kind ← form.required "kind" text?
  if kind == "structure" then (TableStructure.ofForm? form).map .ofStructure
  else if kind == "data" then (TableData.ofForm? form).map .ofData
  else none

def Entry.toForm : Entry → Form
  | .ofStructure table => .record (("kind", .text "structure") :: table.members)
  | .ofData table => .record (("kind", .text "data") :: table.members)

def Dump.ofForm? (form : Form) : Option Dump :=
  form.required "database" fun database => do
    let name ← database.textOrEmpty "name"
    let entries ← database.optional "tables" [] (Form.list? Entry.ofForm?)
    pure ⟨name, entries⟩

def Dump.toForm (dump : Dump) : Form :=
  .record [("database", .record
    [("name", .text dump.database), ("tables", .list (dump.entries.map Entry.toForm))])]

end SchemaDump
