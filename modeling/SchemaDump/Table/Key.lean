/-
  SchemaDump/Table/Key.lean
  =========================
  **Keys of a table structure.**

  The database lists keys part by part: one entry for each column of each key.
  A *key group* gathers the parts that share a key name, ordered by their
  position in the key; parts at the same position keep the order in which they
  were listed.  Groups stand in the order in which their names first appear.
-/
import SchemaDump.Text.Ascii
import SchemaDump.Text.Blank

namespace SchemaDump

/-- One column of one key. -/
structure KeyPart where
  table : String
  /-- False for unique and primary keys. -/
  nonUnique : Bool
  keyName : String
  /-- The position within the key, from 1. -/
  position : UInt32
  column : String
  /-- `A` for ascending, `D` for descending, or nothing. -/
  collation : String := ""
  /-- `YES` if the column may hold NULL, else nothing. -/
  nullable : String := ""
  /-- How the key is indexed: `BTREE`, `HASH`, `FULLTEXT`, `SPATIAL`. -/
  method : String := ""
  comment : String := ""
deriving DecidableEq, Repr

namespace KeyPart

def isDescending (part : KeyPart) : Bool := Text.sameLetters part.collation "D"

/-- `1` for a key that allows duplicates, `0` for a unique one. -/
def nonUniqueFlag (part : KeyPart) : String := if part.nonUnique then "1" else "0"

/-- An ascending part of a tree index without a comment. -/
def ascending (table keyName : String) (position : UInt32) (column : String) (nonUnique : Bool) :
    KeyPart :=
  ⟨table, nonUnique, keyName, position, column, "A", "", "BTREE", ""⟩

end KeyPart

/-! ### Key groups -/

/-- What a key is for. -/
inductive KeyKind where
  | primary
  | unique
  | index
deriving DecidableEq, Repr

def KeyKind.name : KeyKind → String
  | .primary => "primary"
  | .unique => "unique"
  | .index => "index"

/-- All parts of one key, by position. -/
structure KeyGroup where
  name : String
  parts : List KeyPart
deriving DecidableEq, Repr

namespace KeyGroup

/-- The parts with a given key name, by position; the sort is stable. -/
def partsNamed (name : String) (parts : List KeyPart) : List KeyPart :=
  (parts.filter (·.keyName == name)).mergeSort fun a b => a.position.toNat ≤ b.position.toNat

/-- Parts gathered by key name, in order of each name's first appearance. -/
def collect (parts : List KeyPart) : List KeyGroup :=
  (parts.map KeyPart.keyName).eraseDups.map fun name => ⟨name, partsNamed name parts⟩

/-- `PRIMARY` and `PRI`, in any case, name the primary key; another key is unique if each of
    its parts says so. -/
def kind (group : KeyGroup) : KeyKind :=
  if Text.sameLetters group.name "PRIMARY" || Text.sameLetters group.name "PRI" then .primary
  else if group.parts.all (!·.nonUnique) then .unique
  else .index

/-- How the key is indexed, in capitals, as its first part says; nothing if it does not say. -/
def method (group : KeyGroup) : String :=
  match group.parts with
  | [] => ""
  | part :: _ => Text.upper (Text.trimmed part.method)

/-- The comment of the key is that of its first part. -/
def comment (group : KeyGroup) : String :=
  match group.parts with
  | [] => ""
  | part :: _ => part.comment

def columns (group : KeyGroup) : List String := group.parts.map KeyPart.column

def hasDescending (group : KeyGroup) : Bool := group.parts.any KeyPart.isDescending

/-- Whether some part names no column, as in an index over an expression. -/
def lacksColumn (group : KeyGroup) : Bool := group.parts.any fun part => Text.blankOnly part.column

end KeyGroup
end SchemaDump
