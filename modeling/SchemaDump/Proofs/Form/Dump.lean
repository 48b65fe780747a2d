/-
  SchemaDump/Proofs/Form/Dump.lean
  ================================
  **A dump is read back from its form.**

  For each part of a dump it is said which forms stand for it: which members they
  must have, and which they may leave out, with the value that this stands for.
  The reader of the part accepts exactly these forms (`ofForm?_eq_some_iff`), and
  what is written for the part is one of them (`hasForm_toForm`).

  Records are objects with named members throughout.  A list of the members in
  order, which derived readers may take for a record as well, is no form of one.
-/
import SchemaDump.Form.Dump
import SchemaDump.Proofs.Form.Member

namespace SchemaDump

open Form (IsList Reads isList_map reads_list reads_text reads_flag reads_unsigned32
  reads_optionalText required_eq_some_iff optional_eq_some_iff textOrEmpty_eq_some_iff)

/-! ### Columns -/

/-- The forms of a column. -/
structure Column.HasForm (column : Column) (form : Form) : Prop where
  name : form.Has "name" (· = .text column.name)
  type : form.Has "column_type" (· = .text column.type)
  nullable : form.Has "nullable" (· = .flag column.nullable)
  key : form.MayHave "key" (· = .text column.key) (column.key = "")
  defaultValue : form.MayHave "default" (· = .ofOptionalText column.defaultValue)
    (column.defaultValue = none)
  extra : form.MayHave "extra" (· = .text column.extra) (column.extra = "")
  comment : form.MayHave "comment" (· = .text column.comment) (column.comment = "")

theorem Column.ofForm?_eq_some_iff : Reads Column.ofForm? Column.HasForm := by
  intro form column
  simp only [Column.ofForm?, Option.bind_eq_bind, Option.bind_eq_some_iff,
    required_eq_some_iff reads_text, required_eq_some_iff reads_flag,
    optional_eq_some_iff reads_optionalText, textOrEmpty_eq_some_iff]
  constructor
  · rintro ⟨name, hname, type, htype, nullable, hnullable, key, hkey, defaultValue, hdefault,
      extra, hextra, comment, hcomment, h⟩
    obtain rfl := Option.some.inj h
    exact ⟨hname, htype, hnullable, hkey, hdefault, hextra, hcomment⟩
  · intro h
    exact ⟨_, h.name, _, h.type, _, h.nullable, _, h.key, _, h.defaultValue, _, h.extra, _,
      h.comment, rfl⟩

/-- **A column without default has no member for it**, and any other has one with its text. -/
theorem Column.member?_default (column : Column) :
    column.toForm.member? "default" = column.defaultValue.map Form.text := by
  obtain ⟨name, type, nullable, key, defaultValue, extra, comment⟩ := column
  cases defaultValue <;> rfl

theorem Column.hasForm_toForm (column : Column) : column.HasForm column.toForm := by
  have hdefault := column.member?_default
  obtain ⟨name, type, nullable, key, defaultValue, extra, comment⟩ := column
  cases defaultValue with
  | none =>
    exact ⟨⟨_, rfl, rfl⟩, ⟨_, rfl, rfl⟩, ⟨_, rfl, rfl⟩, .inl ⟨_, rfl, rfl⟩,
      .inr ⟨⟨rfl, hdefault⟩, rfl⟩, .inl ⟨_, rfl, rfl⟩, .inl ⟨_, rfl, rfl⟩⟩
  | some text =>
    exact ⟨⟨_, rfl, rfl⟩, ⟨_, rfl, rfl⟩, ⟨_, rfl, rfl⟩, .inl ⟨_, rfl, rfl⟩,
      .inl ⟨_, hdefault, rfl⟩, .inl ⟨_, rfl, rfl⟩, .inl ⟨_, rfl, rfl⟩⟩

/-! ### Keys -/

/-- The forms of a part of a key. -/
structure KeyPart.HasForm (part : KeyPart) (form : Form) : Prop where
  table : form.Has "table" (· = .text part.table)
  nonUnique : form.Has "non_unique" (· = .flag part.nonUnique)
  keyName : form.Has "key_name" (· = .text part.keyName)
  position : form.Has "seq_in_index" (· = .integer part.position.toNat)
  column : form.Has "column_name" (· = .text part.column)
  collation : form.MayHave "collation" (· = .text part.collation) (part.collation = "")
  nullable : form.MayHave "nullable" (· = .text part.nullable) (part.nullable = "")
  method : form.MayHave "index_type" (· = .text part.method) (part.method = "")
  comment : form.MayHave "comment" (· = .text part.comment) (part.comment = "")

theorem KeyPart.ofForm?_eq_some_iff : Reads KeyPart.ofForm? KeyPart.HasForm := by
  intro form part
  simp only [KeyPart.ofForm?, Option.bind_eq_bind, Option.bind_eq_some_iff,
    required_eq_some_iff reads_text, required_eq_some_iff reads_flag,
    required_eq_some_iff reads_unsigned32, textOrEmpty_eq_some_iff]
  constructor
  · rintro ⟨table, htable, nonUnique, hnonUnique, keyName, hkeyName, position, hposition, column,
      hcolumn, collation, hcollation, nullable, hnullable, method, hmethod, comment, hcomment, h⟩
    obtain rfl := Option.some.inj h
    exact ⟨htable, hnonUnique, hkeyName, hposition, hcolumn, hcollation, hnullable, hmethod,
      hcomment⟩
  · intro h
    exact ⟨_, h.table, _, h.nonUnique, _, h.keyName, _, h.position, _, h.column, _, h.collation,
      _, h.nullable, _, h.method, _, h.comment, rfl⟩

theorem KeyPart.hasForm_toForm (part : KeyPart) : part.HasForm part.toForm :=
  ⟨⟨_, rfl, rfl⟩, ⟨_, rfl, rfl⟩, ⟨_, rfl, rfl⟩, ⟨_, rfl, rfl⟩, ⟨_, rfl, rfl⟩, .inl ⟨_, rfl, rfl⟩,
    .inl ⟨_, rfl, rfl⟩, .inl ⟨_, rfl, rfl⟩, .inl ⟨_, rfl, rfl⟩⟩

/-! ### Structures -/

/-- The forms of a table structure. -/
structure TableStructure.HasForm (table : TableStructure) (form : Form) : Prop where
  name : form.Has "name" (· = .text table.name)
  columns : form.Has "columns" (IsList Column.HasForm table.columns)
  keys : form.MayHave "keys" (IsList KeyPart.HasForm table.keys) (table.keys = [])

theorem TableStructure.ofForm?_eq_some_iff :
    Reads TableStructure.ofForm? TableStructure.HasForm := by
  intro form table
  simp only [TableStructure.ofForm?, Option.bind_eq_bind, Option.bind_eq_some_iff,
    required_eq_some_iff reads_text, required_eq_some_iff (reads_list Column.ofForm?_eq_some_iff),
    optional_eq_some_iff (reads_list KeyPart.ofForm?_eq_some_iff)]
  constructor
  · rintro ⟨name, hname, columns, hcolumns, keys, hkeys, h⟩
    obtain rfl := Option.some.inj h
    exact ⟨hname, hcolumns, hkeys⟩
  · intro h
    exact ⟨_, h.name, _, h.columns, _, h.keys, rfl⟩

/-! ### Rows -/

/-- The forms of a field. -/
structure Field.HasForm (field : Field) (form : Form) : Prop where
  name : form.Has "name" (· = .text field.name)
  value : form.MayHave "value" (· = .ofOptionalText field.value) (field.value = none)

theorem Field.ofForm?_eq_some_iff : Reads Field.ofForm? Field.HasForm := by
  intro form field
  simp only [Field.ofForm?, Option.bind_eq_bind, Option.bind_eq_some_iff,
    required_eq_some_iff reads_text, optional_eq_some_iff reads_optionalText]
  constructor
  · rintro ⟨name, hname, value, hvalue, h⟩
    obtain rfl := Option.some.inj h
    exact ⟨hname, hvalue⟩
  · intro h
    exact ⟨_, h.name, _, h.value, rfl⟩

/-- **A field has a member for its value**, and NULL has one with nothing in it. -/
theorem Field.member?_value (field : Field) :
    field.toForm.member? "value" = some (.ofOptionalText field.value) :=
  rfl

theorem Field.hasForm_toForm (field : Field) : field.HasForm field.toForm :=
  ⟨⟨_, rfl, rfl⟩, .inl ⟨_, field.member?_value, rfl⟩⟩

/-- The forms of a row. -/
def Row.HasForm (row : Row) (form : Form) : Prop :=
  form.Has "fields" (IsList Field.HasForm row.fields)

theorem Row.ofForm?_eq_some_iff : Reads Row.ofForm? Row.HasForm := by
  intro form row
  simp only [Row.ofForm?, Option.map_eq_some_iff,
    required_eq_some_iff (reads_list Field.ofForm?_eq_some_iff)]
  constructor
  · rintro ⟨fields, hfields, rfl⟩
    exact hfields
  · intro h
    exact ⟨_, h, rfl⟩

theorem Row.hasForm_toForm (row : Row) : row.HasForm row.toForm :=
  ⟨_, rfl, isList_map Field.hasForm_toForm row.fields⟩

/-- The forms of the data of a table. -/
structure TableData.HasForm (data : TableData) (form : Form) : Prop where
  name : form.Has "name" (· = .text data.name)
  rows : form.MayHave "rows" (IsList Row.HasForm data.rows) (data.rows = [])

theorem TableData.ofForm?_eq_some_iff : Reads TableData.ofForm? TableData.HasForm := by
  intro form data
  simp only [TableData.ofForm?, Option.bind_eq_bind, Option.bind_eq_some_iff,
    required_eq_some_iff reads_text, optional_eq_some_iff (reads_list Row.ofForm?_eq_some_iff)]
  constructor
  · rintro ⟨name, hname, rows, hrows, h⟩
    obtain rfl := Option.some.inj h
    exact ⟨hname, hrows⟩
  · intro h
    exact ⟨_, h.name, _, h.rows, rfl⟩

/-! ### Entries -/

/-- What an entry is, in one word. -/
def Entry.kind : Entry → String
  | .ofStructure _ => "structure"
  | .ofData _ => "data"

/-- The forms of what an entry holds. -/
def Entry.HoldsForm : Entry → Form → Prop
  | .ofStructure table => table.HasForm
  | .ofData data => data.HasForm

/-- The forms of an entry: those of what it holds, with a tag that tells what it is. -/
structure Entry.HasForm (entry : Entry) (form : Form) : Prop where
  kind : form.Has "kind" (· = .text entry.kind)
  holds : entry.HoldsForm form

theorem Entry.ofForm?_eq_some_iff : Reads Entry.ofForm? Entry.HasForm := by
  intro form entry
  simp only [Entry.ofForm?, Option.bind_eq_bind, Option.bind_eq_some_iff,
    required_eq_some_iff reads_text]
  constructor
  · rintro ⟨kind, hkind, h⟩
    split at h
    · rename_i htag
      obtain ⟨table, htable, rfl⟩ := Option.map_eq_some_iff.1 h
      rw [beq_iff_eq.1 htag] at hkind
      exact ⟨hkind, (TableStructure.ofForm?_eq_some_iff form table).1 htable⟩
    · split at h
      · rename_i htag
        obtain ⟨data, hdata, rfl⟩ := Option.map_eq_some_iff.1 h
        rw [beq_iff_eq.1 htag] at hkind
        exact ⟨hkind, (TableData.ofForm?_eq_some_iff form data).1 hdata⟩
      · cases h
  · rintro ⟨hkind, hholds⟩
    refine ⟨entry.kind, hkind, ?_⟩
    cases entry with
    | ofStructure table =>
      have htable := (TableStructure.ofForm?_eq_some_iff form table).2 hholds
      have hread : (TableStructure.ofForm? form).map Entry.ofStructure
          = some (.ofStructure table) := by
        rw [htable, Option.map_some]
      exact hread
    | ofData data =>
      have hdata := (TableData.ofForm?_eq_some_iff form data).2 hholds
      have hread : (TableData.ofForm? form).map Entry.ofData = some (.ofData data) := by
        rw [hdata, Option.map_some]
      exact hread

/-- **An entry is tagged with what it is.** -/
theorem Entry.member?_kind (entry : Entry) :
    entry.toForm.member? "kind" = some (.text entry.kind) := by
  cases entry <;> rfl

theorem Entry.hasForm_toForm (entry : Entry) : entry.HasForm entry.toForm := by
  refine ⟨⟨_, entry.member?_kind, rfl⟩, ?_⟩
  cases entry with
  | ofStructure table =>
    have hcolumns := isList_map Column.hasForm_toForm table.columns
    have hkeys := isList_map KeyPart.hasForm_toForm table.keys
    exact TableStructure.HasForm.mk ⟨_, rfl, rfl⟩ ⟨_, rfl, hcolumns⟩ (.inl ⟨_, rfl, hkeys⟩)
  | ofData data =>
    have hrows := isList_map Row.hasForm_toForm data.rows
    exact TableData.HasForm.mk ⟨_, rfl, rfl⟩ (.inl ⟨_, rfl, hrows⟩)

/-! ### Dumps -/

/-- The forms of a database. -/
structure Dump.HasDatabaseForm (dump : Dump) (form : Form) : Prop where
  name : form.MayHave "name" (· = .text dump.database) (dump.database = "")
  tables : form.MayHave "tables" (IsList Entry.HasForm dump.entries) (dump.entries = [])

/-- The forms of a dump. -/
def Dump.HasForm (dump : Dump) (form : Form) : Prop :=
  form.Has "database" dump.HasDatabaseForm

theorem Dump.ofForm?_eq_some_iff : Reads Dump.ofForm? Dump.HasForm := by
  intro form dump
  rw [Dump.ofForm?]
  refine required_eq_some_iff ?_
  intro database held
  simp only [Option.bind_eq_bind, Option.bind_eq_some_iff, textOrEmpty_eq_some_iff,
    optional_eq_some_iff (reads_list Entry.ofForm?_eq_some_iff)]
  constructor
  · rintro ⟨name, hname, entries, hentries, h⟩
    obtain rfl := Option.some.inj h
    exact ⟨hname, hentries⟩
  · intro h
    exact ⟨_, h.name, _, h.tables, rfl⟩

theorem Dump.hasForm_toForm (dump : Dump) : dump.HasForm dump.toForm :=
  ⟨_, rfl, .inl ⟨_, rfl, rfl⟩, .inl ⟨_, rfl, isList_map Entry.hasForm_toForm dump.entries⟩⟩

/-- **A dump is read back from its form**, and from no form with named members but those that stand
    for it: members with a default may be missing where the dump has the default, and all others
    are there.  In what is written, entries are tagged, a default is left out exactly if there is
    none, and NULL is there as nothing.

    That no other form is read is said of records as objects with named members only.  Derived
    readers may also take a record from the list of its members in order.  The reader here does
    not, so it says nothing about what they make of such a list. -/
theorem Dump.ofForm?_toForm (dump : Dump) :
    Dump.ofForm? dump.toForm = some dump
      ∧ (∀ form, Dump.ofForm? form = some dump ↔ dump.HasForm form)
      ∧ (∀ entry : Entry, entry.toForm.member? "kind" = some (.text entry.kind))
      ∧ (∀ column : Column,
        column.toForm.member? "default" = column.defaultValue.map Form.text)
      ∧ ∀ field : Field, field.toForm.member? "value" = some (.ofOptionalText field.value) :=
  ⟨(ofForm?_eq_some_iff _ dump).2 dump.hasForm_toForm, fun form => ofForm?_eq_some_iff form dump,
    Entry.member?_kind, Column.member?_default, Field.member?_value⟩

end SchemaDump
