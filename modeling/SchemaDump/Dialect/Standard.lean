/-
  SchemaDump/Dialect/Standard.lean
  ================================
  **What the dialects with standard string literals share.**

  Generic SQL and PostgreSQL refuse the same extras, treat defaults and
  enumerations alike, and map most column types to the same types under
  different spellings.  They differ in how counters and keys are declared.
-/
import SchemaDump.Dialect.Formatter
import SchemaDump.ColumnType.Values
import SchemaDump.Sql.DataType

namespace SchemaDump.Dialect.Standard

open Sql (Unsupported Clause ColumnClause ColumnOption DataType Default Statement)

/-! ### What can be expressed at all -/

/-- The text, if a standard string literal can carry it. -/
def carried (text : String) : Except Unsupported String :=
  if Sql.carriesNul text then .error .nulCharacter else .ok text

/-- The extras of a column, which must not update it. -/
def plainExtras (column : Column) : Except Unsupported (List Extra) := do
  let extras ← extrasOf column
  if (Extra.updateExpression? extras).isSome then throw (.updateExpression column.name)
  pure extras

def valuesOf (type : ColumnType) : Except Unsupported (List String) :=
  match type.values? with
  | some values => .ok values
  | none => .error (.invalidValueList (type.arguments.getD ""))

/-! ### Columns -/

/-- The parameters of an exact number: a precision with or without a scale; any other count of
    numbers says nothing. -/
def decimalParameters (type : ColumnType) : List Nat :=
  match type.numbers with
  | [precision, scale] => [precision.toNat, scale.toNat]
  | [precision] => [precision.toNat]
  | _ => []

/-- The type of a plain column, for the base names that both dialects treat alike.  Unsigned
    numbers get the next wider type. -/
def commonType? (type : ColumnType) : Option DataType :=
  match type.base with
  | "bool" | "boolean" => some .boolean
  | "tinyint" | "year" => some .smallInteger
  | "smallint" => some (if type.unsigned then .integer else .smallInteger)
  | "mediumint" => some .integer
  | "int" | "integer" => some (if type.unsigned then .bigInteger else .integer)
  | "bigint" => some (if type.unsigned then .decimal [20] else .bigInteger)
  | "decimal" | "numeric" | "dec" | "fixed" => some (.decimal (decimalParameters type))
  | "float" => some .real
  | "double" | "double precision" | "real" => some .doublePrecision
  | "char" => some (.char (type.length?.elim 1 UInt32.toNat))
  | "varchar" => some (type.length?.elim .text fun length => .varchar length.toNat)
  | "tinytext" | "text" | "mediumtext" | "longtext" => some .text
  | "json" => some .json
  | "binary" => some (.binary (type.length?.elim 1 UInt32.toNat))
  | "varbinary" => some (type.length?.elim .bytes fun length => .varbinary length.toNat)
  | "tinyblob" | "blob" | "mediumblob" | "longblob" => some .bytes
  | "date" => some .date
  | "time" => some .time
  | "datetime" | "timestamp" => some (.timestamp (type.length?.map UInt32.toNat))
  | _ => none

/-- The default of a column: the current time on a date or time, and a string literal otherwise;
    no other expression is known outside MySQL. -/
def defaultOf (column : Column) (type : ColumnType) (extras : List Extra) (text : String) :
    Except Unsupported Default :=
  match (if type.isTemporal then Sql.currentTime? text else none) with
  | some precision => .ok (.now precision)
  | none =>
    if Extra.generatesDefault extras then .error (.expressionDefault text column.name)
    else (carried (if type.isTemporal then Sql.portableDate text else text)).map .literal

/-- The default of a column as an option of it; a counter has none. -/
def defaultOptions (column : Column) (type : ColumnType) (extras : List Extra) :
    Except Unsupported (List ColumnOption) :=
  match column.defaultValue with
  | none => .ok []
  | some text =>
    if Extra.autoIncrements extras then .ok []
    else (defaultOf column type extras text).map fun value => [.default value]

def enumerationOptions (type : ColumnType) : Except Unsupported (List ColumnOption) :=
  if type.base == "enum" then do
    let values ← (← valuesOf type).mapM carried
    pure [.oneOf values]
  else .ok []

/-- The line of a column, from the type and counter that the dialect gives it. -/
def columnClause (spell : DataType → String)
    (map : Column → ColumnType → List Extra → Except Unsupported DataType)
    (counter : List ColumnOption) (column : Column) : Except Unsupported ColumnClause := do
  let extras ← plainExtras column
  let type ← typeOf column
  let target ← map column type extras
  let default ← defaultOptions column type extras
  let values ← enumerationOptions type
  pure {
    name := column.name
    type := spell target
    options :=
      (if column.nullable then [] else [.notNull])
        ++ (if Extra.autoIncrements extras then counter else []) ++ default ++ values }

/-! ### Tables -/

/-- What a key adds to its table: lines of the table and statements after it. -/
structure KeyOutput where
  clauses : List Clause := []
  statements : List Statement := []
deriving DecidableEq, Repr

/-- A comment on something, unless the comment is empty. -/
def commentOn (subject : Sql.Subject) (comment : String) : Except Unsupported (List Statement) :=
  if comment.toList.isEmpty then .ok []
  else (carried comment).map fun text => [.comment subject text]

/-- A table with its keys, then what the keys add after it, then the comments of the columns. -/
def create (columnClause : Column → Except Unsupported ColumnClause)
    (keyOutput : String → KeyGroup → Except Unsupported KeyOutput)
    (table : String) (definition : TableStructure) : Except Unsupported (List Statement) := do
  let columns ← definition.columns.mapM columnClause
  let keys ← definition.keyGroups.mapM (keyOutput table)
  let comments ← definition.columns.mapM fun column =>
    commentOn (.column table column.name) column.comment
  pure (.createTable table (columns.map Clause.column ++ keys.flatMap KeyOutput.clauses) none
    :: (keys.flatMap KeyOutput.statements ++ comments.flatten))

/-! ### Rows -/

def carriedField (field : Field) : Except Unsupported Field :=
  match field.value with
  | some text => (carried text).map fun value => ⟨field.name, some value⟩
  | none => .ok field

/-- A statement for one row; a row without fields takes the defaults of all columns. -/
def insertRow (table : String) (row : Row) : Except Unsupported Statement :=
  if row.fields.isEmpty then .ok (.insertDefaults table)
  else (row.fields.mapM carriedField).map (.insert table)

def insert (table : String) (rows : List Row) : Except Unsupported (List Statement) :=
  rows.mapM (insertRow table)

end SchemaDump.Dialect.Standard
