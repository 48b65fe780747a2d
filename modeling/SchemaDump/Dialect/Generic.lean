/-
  SchemaDump/Dialect/Generic.lean
  ===============================
  **The generic dialect: standard SQL.**

  Names stay bare unless they have to be quoted.  Counters are identity columns,
  which go on after the greatest number put in; enumerations and sets are text
  long enough for any of their values.
-/
import SchemaDump.Dialect.Standard
import SchemaDump.Table.Name

namespace SchemaDump.Dialect.Generic

open Sql (Unsupported ColumnClause DataType Statement)
open Standard (KeyOutput)

/-- Names bare where they can be, literals with doubled quotes. -/
def spelling : Sql.Spelling := ⟨Sql.bareName, Sql.standardLiteral⟩

/-! ### Columns -/

/-- The length that holds every value of an enumeration: that of the longest, and at least 1. -/
def enumerationLength (values : List String) : Nat :=
  max (values.foldl (fun longest value => max longest value.toList.length) 0) 1

/-- The length that holds all values of a set with a comma after each, and at least 1. -/
def setLength (values : List String) : Nat :=
  max (values.foldl (fun sum value => sum + (value.toList.length + 1)) 0) 1

/-- The type of a column.  Only whole numbers count up. -/
def dataType (column : Column) (type : ColumnType) (extras : List Extra) :
    Except Unsupported DataType :=
  if Extra.autoIncrements extras && !type.isInteger then
    .error (.autoIncrementType column.type column.name)
  else if type.base == "enum" then
    (Standard.valuesOf type).map fun values => .varchar (enumerationLength values)
  else if type.base == "set" then
    (Standard.valuesOf type).map fun values => .varchar (setLength values)
  else match Standard.commonType? type with
    | some target => .ok target
    | none => .error (.unknownType column.type column.name)

def columnClause (column : Column) : Except Unsupported ColumnClause :=
  Standard.columnClause DataType.standard dataType [.identity] column

/-! ### Keys -/

/-- A key: a line of the table if it constrains it, and an index after it otherwise.
    Constraints have no directions and no comments. -/
def keyOutput (table : String) (key : KeyGroup) : Except Unsupported KeyOutput := do
  checkColumns table key
  if !(key.method == "" || key.method == "BTREE") then
    throw (.indexMethod key.method key.name table)
  if key.hasDescending && key.kind != .index then
    throw (.descendingConstraint key.name table)
  match key.kind with
  | .index =>
    let comment ← Standard.commentOn (.index (indexName table key)) key.comment
    pure { statements :=
      .createIndex false (indexName table key) table false (indexColumns key) :: comment }
  | .primary =>
    if !key.comment.toList.isEmpty then throw (.constraintComment key.name table)
    pure { clauses := [.primaryKey (indexColumns key) false ""] }
  | .unique =>
    if !key.comment.toList.isEmpty then throw (.constraintComment key.name table)
    pure { clauses := [.uniqueConstraint (indexName table key) (indexColumns key)] }

/-! ### Counters -/

def columnNumbers (column : String) (rows : List Row) : List Int :=
  rows.filterMap fun row =>
    (row.get? column).bind fun field =>
      field.value.bind fun text => Text.signed64? (Text.trim text.toList)

def greatest? : List Int → Option Int
  | [] => none
  | n :: rest => some (rest.foldl max n)

/-- The number after a given one, up to the greatest of 64 bits. -/
def following (n : Int) : Int := min (n + 1) Text.greatest64

/-- A new start for each counter that has numbers in the rows. -/
def reset (table : String) (columns : List Column) (rows : List Row) :
    Except Unsupported (List Statement) := do
  let statements ← columns.mapM fun column => do
    let extras ← extrasOf column
    if Extra.autoIncrements extras then
      match greatest? (columnNumbers column.name rows) with
      | some n => pure [Statement.restart table column.name (following n)]
      | none => pure []
    else pure []
  pure statements.flatten

/-! ### The formatter -/

def formatter (options : FormatOptions) : Formatter where
  name := "generic"
  create table := do
    let live := Table.liveName table.name options.tablePrefix
    pure (Sql.block spelling (← Standard.create columnClause keyOutput live table))
  insert data := do
    let live := Table.liveName data.name options.tablePrefix
    pure (Sql.block spelling (← Standard.insert live data.rows))
  clear table :=
    let statement := Statement.delete (Table.liveName table.name options.tablePrefix)
    pure (statement.render spelling ++ "\n")
  reset table data := do
    let live := Table.liveName table.name options.tablePrefix
    pure (Sql.block spelling (← reset live table.columns data.rows))

end SchemaDump.Dialect.Generic
