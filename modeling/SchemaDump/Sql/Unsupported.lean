/-
  SchemaDump/Sql/Unsupported.lean
  ===============================
  **What a dialect cannot express.**

  Nothing of a dump is dropped silently: a construct without a counterpart in
  the wanted dialect is refused.  Each constructor is one reason; `message` words
  it.  Tables are named by their live names.
-/
import SchemaDump.Text.Quoted

namespace SchemaDump.Sql

/-- Why a dialect refuses a table or its rows. -/
inductive Unsupported where
  /-- A key has a part that names no column. -/
  | keyWithoutColumn (key table : String)
  /-- Standard string literals cannot carry NUL. -/
  | nulCharacter
  | incompleteExtra (text : String)
  | unknownExtra (text : String)
  | unreadableType (text : String)
  | invalidValueList (arguments : String)
  | updateExpression (column : String)
  | autoIncrementType (type column : String)
  | unknownType (type column : String)
  | expressionDefault (expression column : String)
  | keyMethod (method key table : String)
  | indexMethod (method key table : String)
  | primaryKeyMethod (method table : String)
  | uniqueHashIndex (key table : String)
  | multiColumnHashIndex (key table : String)
  | descendingHashIndex (key table : String)
  | descendingConstraint (key table : String)
  | descendingPrimaryKey (table : String)
  | constraintComment (key table : String)
deriving DecidableEq, Repr

def Unsupported.message : Unsupported → String
  | .keyWithoutColumn key table =>
    "Key " ++ key ++ " on table " ++ table ++ " has a part without a column"
  | .nulCharacter => "String value contains a NUL character"
  | .incompleteExtra text => "Incomplete column extra " ++ Text.quoted text
  | .unknownExtra text => "Unknown column extra " ++ Text.quoted text
  | .unreadableType text => "Cannot parse column type " ++ Text.quoted text
  | .invalidValueList arguments => "Invalid value list (" ++ arguments ++ ")"
  | .updateExpression column => "ON UPDATE clause of column " ++ column
  | .autoIncrementType type column => "Auto-increment on " ++ type ++ " column " ++ column
  | .unknownType type column => "Column type " ++ type ++ " of column " ++ column
  | .expressionDefault expression column =>
    "Expression default " ++ expression ++ " of column " ++ column
  | .keyMethod method key table =>
    "Index type " ++ method ++ " of key " ++ key ++ " on table " ++ table
  | .indexMethod method key table => method ++ " index " ++ key ++ " on table " ++ table
  | .primaryKeyMethod method table => method ++ " primary key on table " ++ table
  | .uniqueHashIndex key table => "Unique hash index " ++ key ++ " on table " ++ table
  | .multiColumnHashIndex key table => "Multi-column hash index " ++ key ++ " on table " ++ table
  | .descendingHashIndex key table => "Descending hash index " ++ key ++ " on table " ++ table
  | .descendingConstraint key table =>
    "Descending column in constraint " ++ key ++ " on table " ++ table
  | .descendingPrimaryKey table => "Descending primary key column on table " ++ table
  | .constraintComment key table => "Comment on constraint " ++ key ++ " of table " ++ table

end SchemaDump.Sql
