/-
  SchemaDump/Sql/Statement.lean
  =============================
  **SQL statements as values.**

  A formatter decides which statements a table needs; how a statement is written
  is the same everywhere but for the spelling of names and string literals,
  which a `Spelling` gives.  Each statement is complete and ends with its
  semicolon.
-/
import SchemaDump.Sql.Quoting
import SchemaDump.Sql.Timestamp
import SchemaDump.Table.Row
import SchemaDump.Text.Numeral

namespace SchemaDump.Sql

/-- How a dialect writes names and string literals. -/
structure Spelling where
  name : String → String
  literal : String → String

/-! ### Columns -/

inductive Default where
  /-- The time of insertion, with a precision or with the empty text. -/
  | now (precision : String)
  | literal (text : String)
  /-- A bit literal, as the database reports it. -/
  | bits (text : String)
  | expression (text : String)
deriving DecidableEq, Repr

/-- A property of a column, in the order in which they are written. -/
inductive ColumnOption where
  | notNull
  | identity
  | default (value : Default)
  | autoIncrement
  | onUpdate (expression : String)
  | comment (text : String)
  /-- The column takes none but these values. -/
  | oneOf (values : List String)
deriving DecidableEq, Repr

structure ColumnClause where
  name : String
  type : String
  options : List ColumnOption
deriving DecidableEq, Repr

/-! ### Keys and tables -/

/-- A column of a key, upwards or downwards. -/
structure IndexColumn where
  name : String
  descending : Bool
deriving DecidableEq, Repr

inductive KeyWord where
  | key
  | uniqueKey
  | fulltextKey
  | spatialKey
deriving DecidableEq, Repr

/-- One line of a table definition.  An empty comment is none. -/
inductive Clause where
  | column (definition : ColumnClause)
  | primaryKey (columns : List IndexColumn) (hash : Bool) (comment : String)
  | key (word : KeyWord) (name : String) (columns : List IndexColumn) (hash : Bool)
      (comment : String)
  | uniqueConstraint (name : String) (columns : List IndexColumn)
deriving DecidableEq, Repr

/-! ### Statements -/

/-- What a comment is attached to. -/
inductive Subject where
  | column (table name : String)
  | index (name : String)
  | constraint (name table : String)
deriving DecidableEq, Repr

/-- A statement.  Tables are given by their live names. -/
inductive Statement where
  | createTable (table : String) (clauses : List Clause) (charset : Option String)
  | createIndex (unique : Bool) (name table : String) (hash : Bool) (columns : List IndexColumn)
  | comment (subject : Subject) (text : String)
  | insert (table : String) (fields : List Field)
  | insertDefaults (table : String)
  | delete (table : String)
  | truncate (table : String) (restartIdentity : Bool)
  /-- The identity column goes on with a given value. -/
  | restart (table column : String) (next : Int)
  /-- The column's sequence goes on after the column's greatest value. -/
  | advance (table column : String)
deriving DecidableEq, Repr

/-! ### Writing columns -/

def parenthesized (items : List String) : String := "(" ++ Text.joined ", " items ++ ")"

def Default.render (spelling : Spelling) : Default → String
  | .now precision => currentTimestamp precision
  | .literal text => spelling.literal text
  | .bits text => text
  | .expression text => "(" ++ text ++ ")"

/-- A property of the column of the given name. -/
def ColumnOption.render (spelling : Spelling) (column : String) : ColumnOption → String
  | .notNull => " NOT NULL"
  | .identity => " GENERATED BY DEFAULT AS IDENTITY"
  | .default value => " DEFAULT " ++ value.render spelling
  | .autoIncrement => " AUTO_INCREMENT"
  | .onUpdate expression => " ON UPDATE " ++ expression
  | .comment text => " COMMENT " ++ spelling.literal text
  | .oneOf values =>
    " CHECK (" ++ spelling.name column ++ " IN " ++ parenthesized (values.map spelling.literal)
      ++ ")"

def ColumnClause.render (spelling : Spelling) (clause : ColumnClause) : String :=
  spelling.name clause.name ++ " " ++ clause.type
    ++ String.join (clause.options.map (ColumnOption.render spelling clause.name))

/-! ### Writing keys and tables -/

def IndexColumn.render (spelling : Spelling) (column : IndexColumn) : String :=
  if column.descending then spelling.name column.name ++ " DESC" else spelling.name column.name

def renderColumns (spelling : Spelling) (columns : List IndexColumn) : String :=
  parenthesized (columns.map (IndexColumn.render spelling))

def KeyWord.render : KeyWord → String
  | .key => "KEY"
  | .uniqueKey => "UNIQUE KEY"
  | .fulltextKey => "FULLTEXT KEY"
  | .spatialKey => "SPATIAL KEY"

/-- What follows the columns of a key within a table. -/
def renderKeyEnd (spelling : Spelling) (hash : Bool) (comment : String) : String :=
  (if hash then " USING HASH" else "")
    ++ (if comment.toList.isEmpty then "" else " COMMENT " ++ spelling.literal comment)

/-- One line of a table definition, without the comma. -/
def Clause.render (spelling : Spelling) : Clause → String
  | .column definition => definition.render spelling
  | .primaryKey columns hash comment =>
    "PRIMARY KEY " ++ renderColumns spelling columns ++ renderKeyEnd spelling hash comment
  | .key word name columns hash comment =>
    word.render ++ " " ++ spelling.name name ++ " " ++ renderColumns spelling columns
      ++ renderKeyEnd spelling hash comment
  | .uniqueConstraint name columns =>
    "CONSTRAINT " ++ spelling.name name ++ " UNIQUE " ++ renderColumns spelling columns

/-! ### Writing statements -/

def Subject.render (spelling : Spelling) : Subject → String
  | .column table name => "COLUMN " ++ spelling.name table ++ "." ++ spelling.name name
  | .index name => "INDEX " ++ spelling.name name
  | .constraint name table =>
    "CONSTRAINT " ++ spelling.name name ++ " ON " ++ spelling.name table

def renderValue (spelling : Spelling) : Option String → String
  | some text => spelling.literal text
  | none => "NULL"

/-- A statement with its semicolon. -/
def Statement.render (spelling : Spelling) : Statement → String
  | .createTable table clauses charset =>
    "CREATE TABLE " ++ spelling.name table ++ " (\n"
      ++ Text.joined ",\n" (clauses.map fun clause => "  " ++ clause.render spelling)
      ++ "\n)" ++ (charset.elim "" (" DEFAULT CHARSET=" ++ ·)) ++ ";"
  | .createIndex unique name table hash columns =>
    "CREATE " ++ (if unique then "UNIQUE " else "") ++ "INDEX " ++ spelling.name name ++ " ON "
      ++ spelling.name table ++ (if hash then " USING hash" else "") ++ " "
      ++ renderColumns spelling columns ++ ";"
  | .comment subject text =>
    "COMMENT ON " ++ subject.render spelling ++ " IS " ++ spelling.literal text ++ ";"
  | .insert table fields =>
    "INSERT INTO " ++ spelling.name table ++ " "
      ++ parenthesized (fields.map fun field => spelling.name field.name) ++ " VALUES "
      ++ parenthesized (fields.map fun field => renderValue spelling field.value) ++ ";"
  | .insertDefaults table => "INSERT INTO " ++ spelling.name table ++ " DEFAULT VALUES;"
  | .delete table => "DELETE FROM " ++ spelling.name table ++ ";"
  | .truncate table restartIdentity =>
    "TRUNCATE TABLE " ++ spelling.name table ++ (if restartIdentity then " RESTART IDENTITY" else "")
      ++ ";"
  | .restart table column next =>
    "ALTER TABLE " ++ spelling.name table ++ " ALTER COLUMN " ++ spelling.name column
      ++ " RESTART WITH " ++ String.ofList (Text.signedDecimal next) ++ ";"
  | .advance table column =>
    "SELECT setval(pg_get_serial_sequence(" ++ spelling.literal (spelling.name table) ++ ", "
      ++ spelling.literal column ++ "), COALESCE((SELECT MAX(" ++ spelling.name column ++ ") FROM "
      ++ spelling.name table ++ "), 0) + 1, false);"

/-- Statements on lines of their own, closed by an empty line; nothing for no statement. -/
def block (spelling : Spelling) (statements : List Statement) : String :=
  if statements.isEmpty then ""
  else Text.joined "\n" (statements.map (Statement.render spelling)) ++ "\n\n"

end SchemaDump.Sql
