/-
  SchemaDump/Proofs/Document/Grammar.lean
  =======================================
  **The grammar of dump documents.**

  What a document has to look like and which dump it stands for, said over its
  elements and without a place to keep: a document has one root, the root one
  database, the database structures and data, each of these its own elements.
  Where the grammar speaks of attributes it relates them to the part of the dump
  that they stand for, so the dump is the meaning of the document.
-/
import Mathlib.Data.List.Forall2
import SchemaDump.Document.Cursor
import SchemaDump.Proofs.Markup.Content

namespace SchemaDump.Document

open Markup (Tag Content)

/-- Nothing but blanks between the elements. -/
def IsBlank (content : Content) : Prop :=
  ∀ text ∈ content.texts, Text.blankOnly text = true

/-- Nothing but blanks at all. -/
def IsEmpty (content : Content) : Prop :=
  content.elements = [] ∧ IsBlank content

/-! ### Fields, columns and keys -/

/-- A field of a row: its value is all text within it, unless it is marked as NULL. -/
structure IsField (child : Tag × Content) (field : Field) : Prop where
  tag : child.1.name = "field"
  name : child.1.get? "name" = some field.name
  elements : child.2.elements = []
  value :
    if isNil child.1 then field.value = none ∧ IsBlank child.2
    else field.value = some (String.join child.2.texts)

/-- A column, which is all in its attributes. -/
structure IsColumn (child : Tag × Content) (column : Column) : Prop where
  content : IsEmpty child.2
  name : child.1.get? "Field" = some column.name
  type : child.1.get? "Type" = some column.type
  nullable : ∃ flag, child.1.get? "Null" = some flag
    ∧ Text.sameLetters flag column.nullFlag = true
  key : column.key = child.1.getOrEmpty "Key"
  defaultValue : column.defaultValue = child.1.get? "Default"
  extra : column.extra = child.1.getOrEmpty "Extra"
  comment : column.comment = child.1.getOrEmpty "Comment"

/-- A part of a key, which is all in its attributes.  Positions count from 1. -/
structure IsKeyPart (child : Tag × Content) (part : KeyPart) : Prop where
  content : IsEmpty child.2
  table : child.1.get? "Table" = some part.table
  keyName : child.1.get? "Key_name" = some part.keyName
  column : child.1.get? "Column_name" = some part.column
  nonUnique : ∃ flag, child.1.get? "Non_unique" = some flag
    ∧ Text.trimmed flag = part.nonUniqueFlag
  position : ∃ numeral, child.1.get? "Seq_in_index" = some numeral
    ∧ Text.unsigned32? (Text.trim numeral.toList) = some part.position
  counted : 0 < part.position
  collation : part.collation = child.1.getOrEmpty "Collation"
  nullable : part.nullable = child.1.getOrEmpty "Null"
  method : part.method = child.1.getOrEmpty "Index_type"
  comment : part.comment = child.1.getOrEmpty "Comment"

/-! ### Tables -/

/-- The children of a table structure of a given name. -/
def named (name : String) (children : List (Tag × Content)) : List (Tag × Content) :=
  children.filter fun child => child.1.name == name

/-- The structure of a table.  Its columns and keys may stand in any order among each other, and
    its options may hold anything. -/
structure IsTableStructure (child : Tag × Content) (table : TableStructure) : Prop where
  tag : child.1.name = "table_structure"
  name : child.1.get? "name" = some table.name
  blank : IsBlank child.2
  children : ∀ item ∈ child.2.elements, item.1.name ∈ ["field", "key", "options"]
  columns : List.Forall₂ IsColumn (named "field" child.2.elements) table.columns
  keys : List.Forall₂ IsKeyPart (named "key" child.2.elements) table.keys

structure IsRow (child : Tag × Content) (row : Row) : Prop where
  tag : child.1.name = "row"
  blank : IsBlank child.2
  fields : List.Forall₂ IsField child.2.elements row.fields

structure IsTableData (child : Tag × Content) (table : TableData) : Prop where
  tag : child.1.name = "table_data"
  name : child.1.get? "name" = some table.name
  blank : IsBlank child.2
  rows : List.Forall₂ IsRow child.2.elements table.rows

/-! ### Documents -/

def IsEntry (child : Tag × Content) : Entry → Prop
  | .ofStructure table => IsTableStructure child table
  | .ofData table => IsTableData child table

structure IsDatabase (child : Tag × Content) (dump : Dump) : Prop where
  tag : child.1.name = "database"
  name : dump.database = child.1.getOrEmpty "name"
  blank : IsBlank child.2
  entries : List.Forall₂ IsEntry child.2.elements dump.entries

structure IsRoot (child : Tag × Content) (dump : Dump) : Prop where
  tag : child.1.name = "mysqldump" ∨ child.1.name = "dump"
  blank : IsBlank child.2
  database : ∃ database, child.2.elements = [database] ∧ IsDatabase database dump

/-- **A document and the dump that it stands for.** -/
structure IsDocument (content : Content) (dump : Dump) : Prop where
  blank : IsBlank content
  root : ∃ root, content.elements = [root] ∧ IsRoot root dump

end SchemaDump.Document
