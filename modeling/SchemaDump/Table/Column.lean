/-
  SchemaDump/Table/Column.lean
  ============================
  **Columns of a table structure.**

  A column is kept as the database describes it: its type is the raw type text
  (`int(11) unsigned`), so that a dump can be installed without loss in the
  dialect it came from.  Having no default is different from having the empty
  text as default.
-/
import SchemaDump.Text.Ascii

namespace SchemaDump

/-- One column, as the database describes it. -/
structure Column where
  name : String
  /-- The raw type text, modifiers included. -/
  type : String
  nullable : Bool
  /-- The role in keys: `PRI`, `UNI`, `MUL` or nothing. -/
  key : String := ""
  /-- The default value; none at all is not the empty text. -/
  defaultValue : Option String := none
  extra : String := ""
  comment : String := ""
deriving DecidableEq, Repr

namespace Column

def isPrimary (column : Column) : Bool := Text.sameLetters column.key "PRI"

/-- Whether the extras mention the auto-increment marker anywhere. -/
def isAutoIncrement (column : Column) : Bool :=
  Text.occursIn "auto_increment".toList (Text.lower column.extra).toList

/-- `YES` for a column that takes NULL, `NO` for any other. -/
def nullFlag (column : Column) : String := if column.nullable then "YES" else "NO"

end Column
end SchemaDump
