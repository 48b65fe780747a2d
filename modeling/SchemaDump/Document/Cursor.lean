/-
  SchemaDump/Document/Cursor.lean
  ===============================
  **The cursor: a place in a dump document and what has been gathered there.**

  A document is read event by event.  The cursor tells which elements are open
  and holds, for each of them, what it will become: the dump so far, the table
  so far, the row so far.  An open table therefore always has the dump that it
  goes to, and an open field its row; closing an element puts it into the one
  around it.

      root > database > table_structure > field | key | options > (anything)
                      > table_data > row > field
-/
import SchemaDump.Document.Malformed
import SchemaDump.Markup.Event
import SchemaDump.Dump
import SchemaDump.Text.Blank
import SchemaDump.Text.Numeral

namespace SchemaDump.Document

open Markup (Tag Event)

/-- A place in a document.  A database read in full is kept until the end. -/
inductive Cursor where
  | start
  | root (database : Option Dump)
  | database (dump : Dump)
  | tableStructure (dump : Dump) (table : TableStructure)
  | column (dump : Dump) (table : TableStructure)
  | key (dump : Dump) (table : TableStructure)
  /-- Within a table's options and so many elements further in. -/
  | options (dump : Dump) (table : TableStructure) (depth : Nat)
  | tableData (dump : Dump) (table : TableData)
  | row (dump : Dump) (table : TableData) (row : Row)
  | field (dump : Dump) (table : TableData) (row : Row) (field : Field)
  | finish (database : Option Dump)
deriving DecidableEq, Repr

/-! ### Columns and keys from attributes -/

/-- The value of an attribute that an element must have. -/
def require (element : Element) (tag : Tag) (key : String) : Except Malformed String :=
  match tag.get? key with
  | some value => .ok value
  | none => .error (.missingAttribute element key)

/-- Whether a column takes NULL: `YES` or `NO`, in any case. -/
def readNull (value : String) : Except Malformed Bool :=
  if Text.sameLetters value "YES" then .ok true
  else if Text.sameLetters value "NO" then .ok false
  else .error (.invalidNull value)

/-- Whether a key allows duplicates: `0` or `1`, with blanks around. -/
def readNonUnique (value : String) : Except Malformed Bool :=
  if Text.trimmed value == "0" then .ok false
  else if Text.trimmed value == "1" then .ok true
  else .error (.invalidNonUnique (Text.trimmed value))

/-- The position of a part in its key: a positive numeral, with blanks around. -/
def readPosition (value : String) : Except Malformed UInt32 :=
  match Text.unsigned32? (Text.trim value.toList) with
  | some position => if 0 < position then .ok position else .error (.invalidPosition value)
  | none => .error (.invalidPosition value)

def readColumn (tag : Tag) : Except Malformed Column := do
  let nullable ← readNull (← require .field tag "Null")
  let name ← require .field tag "Field"
  let type ← require .field tag "Type"
  pure ⟨name, type, nullable, tag.getOrEmpty "Key", tag.get? "Default", tag.getOrEmpty "Extra",
    tag.getOrEmpty "Comment"⟩

def readKey (tag : Tag) : Except Malformed KeyPart := do
  let nonUnique ← readNonUnique (← require .key tag "Non_unique")
  let position ← readPosition (← require .key tag "Seq_in_index")
  let table ← require .key tag "Table"
  let keyName ← require .key tag "Key_name"
  let column ← require .key tag "Column_name"
  pure ⟨table, nonUnique, keyName, position, column, tag.getOrEmpty "Collation",
    tag.getOrEmpty "Null", tag.getOrEmpty "Index_type", tag.getOrEmpty "Comment"⟩

def isNil (tag : Tag) : Bool :=
  tag.get? "xsi:nil" == some "true" || tag.get? "xsi:nil" == some "1"

namespace Cursor

/-! ### Moving the cursor -/

/-- The element around the place, if one is open. -/
def element? : Cursor → Option Element
  | start | finish _ => none
  | root _ => some .root
  | database _ => some .database
  | tableStructure _ _ => some .tableStructure
  | column _ _ => some .field
  | key _ _ => some .key
  | options _ _ _ => some .options
  | tableData _ _ => some .tableData
  | row _ _ _ => some .row
  | field _ _ _ _ => some .field

/-- Opens an element within the place. -/
def opened (cursor : Cursor) (tag : Tag) : Except Malformed Cursor :=
  match cursor with
  | start =>
    if tag.name == "mysqldump" || tag.name == "dump" then .ok (root none)
    else .error (.unexpectedRoot tag.name)
  | finish _ => .error (.elementAfterRoot tag.name)
  | root dump =>
    if tag.name == "database" then
      match dump with
      | none => .ok (database ⟨tag.getOrEmpty "name", []⟩)
      | some _ => .error .secondDatabase
    else .error (.unexpectedElement tag.name .root)
  | database dump =>
    if tag.name == "table_structure" then
      (require .tableStructure tag "name").map fun name => tableStructure dump ⟨name, [], []⟩
    else if tag.name == "table_data" then
      (require .tableData tag "name").map fun name => tableData dump ⟨name, []⟩
    else .error (.unexpectedElement tag.name .database)
  | tableStructure dump table =>
    if tag.name == "field" then
      (readColumn tag).map fun read =>
        column dump { table with columns := table.columns ++ [read] }
    else if tag.name == "key" then
      (readKey tag).map fun read => key dump { table with keys := table.keys ++ [read] }
    else if tag.name == "options" then .ok (options dump table 0)
    else .error (.unexpectedElement tag.name .tableStructure)
  | options dump table depth => .ok (options dump table (depth + 1))
  | tableData dump table =>
    if tag.name == "row" then .ok (row dump table ⟨[]⟩)
    else .error (.unexpectedElement tag.name .tableData)
  | row dump table fields =>
    if tag.name == "field" then
      (require .field tag "name").map fun name =>
        field dump table fields ⟨name, if isNil tag then none else some ""⟩
    else .error (.unexpectedElement tag.name .row)
  | column _ _ => .error (.unexpectedElement tag.name .field)
  | key _ _ => .error (.unexpectedElement tag.name .key)
  | field _ _ _ _ => .error (.unexpectedElement tag.name .field)

/-- Closes the element around the place and puts what it became into the next one. -/
def closed : Cursor → Except Malformed Cursor
  | start | finish _ => .error .unmatchedEnd
  | root dump => .ok (finish dump)
  | database dump => .ok (root (some dump))
  | tableStructure dump table => .ok (database (dump.push (.ofStructure table)))
  | column dump table | key dump table | options dump table 0 => .ok (tableStructure dump table)
  | options dump table (depth + 1) => .ok (options dump table depth)
  | tableData dump table => .ok (database (dump.push (.ofData table)))
  | row dump table fields => .ok (tableData dump { table with rows := table.rows ++ [fields] })
  | field dump table fields last => .ok (row dump table ⟨fields.fields ++ [last]⟩)

/-- A text at the place.  It belongs to the value of a field that is not NULL, is of no interest
    within options and has to be blank elsewhere. -/
def withText (cursor : Cursor) (text : String) : Except Malformed Cursor :=
  match cursor with
  | field dump table fields ⟨name, some value⟩ =>
    .ok (field dump table fields ⟨name, some (value ++ text)⟩)
  | options _ _ _ => .ok cursor
  | _ => if Text.blankOnly text then .ok cursor else .error (.unexpectedText cursor.element?)

def after (cursor : Cursor) : Event → Except Malformed Cursor
  | .declaration => .ok cursor
  | .opening tag => cursor.opened tag
  | .single tag => do (← cursor.opened tag).closed
  | .closing _ => cursor.closed
  | .text content => cursor.withText content

def afterAll (cursor : Cursor) (events : List Event) : Except Malformed Cursor :=
  events.foldlM after cursor

/-! ### The end of a document -/

def dump : Cursor → Except Malformed Dump
  | start => .error .missingRoot
  | finish (some dump) => .ok dump
  | finish none => .error .missingDatabase
  | root _ => .error (.unexpectedEnd .root)
  | database _ => .error (.unexpectedEnd .database)
  | tableStructure _ _ => .error (.unexpectedEnd .tableStructure)
  | column _ _ => .error (.unexpectedEnd .field)
  | key _ _ => .error (.unexpectedEnd .key)
  | options _ _ _ => .error (.unexpectedEnd .options)
  | tableData _ _ => .error (.unexpectedEnd .tableData)
  | row _ _ _ => .error (.unexpectedEnd .row)
  | field _ _ _ _ => .error (.unexpectedEnd .field)

end Cursor

/-- Reads a dump document: its sound part first, then the fault that ended it, if there is
    one, and its end otherwise. -/
def read (text : String) : Except Malformed Dump := do
  let events := Event.readAll text
  let cursor ← Cursor.start.afterAll events.items
  match events.failure with
  | some fault => throw (.markup fault)
  | none => cursor.dump

end SchemaDump.Document
