/-
  SchemaDump/Dialect/Postgresql.lean
  ==================================
  **The PostgreSQL dialect.**

  Counters are serial columns, whose sequences are set after the rows are in;
  keys other than the primary one are indexes after the table, named after table
  and key since the indexes of a schema share one space of names.
-/
import SchemaDump.Dialect.Standard
import SchemaDump.Table.Name

namespace SchemaDump.Dialect.Postgresql

open Sql (Unsupported ColumnClause DataType Statement)
open Standard (KeyOutput)

/-- Names between double quotes, literals with doubled quotes. -/
def spelling : Sql.Spelling := ⟨Sql.quotedName, Sql.standardLiteral⟩

/-! ### Columns -/

def serialType? (type : ColumnType) : Option DataType :=
  match type.base with
  | "tinyint" | "smallint" | "mediumint" => some .serial
  | "int" | "integer" => some (if type.unsigned then .bigSerial else .serial)
  | "bigint" => some .bigSerial
  | _ => none

def dataType (column : Column) (type : ColumnType) (extras : List Extra) :
    Except Unsupported DataType :=
  if Extra.autoIncrements extras then
    match serialType? type with
    | some target => .ok target
    | none => .error (.autoIncrementType column.type column.name)
  else if type.base == "enum" || type.base == "set" then .ok .text
  else match Standard.commonType? type with
    | some target => .ok target
    | none => .error (.unknownType column.type column.name)

def columnClause (column : Column) : Except Unsupported ColumnClause :=
  Standard.columnClause DataType.postgresql dataType [] column

/-! ### Keys -/

/-- Whether an index is hashed.  A hashed index is over one column, without direction, and not
    unique. -/
def isHashed (table : String) (key : KeyGroup) : Except Unsupported Bool :=
  if key.method == "" || key.method == "BTREE" then .ok false
  else if key.method == "HASH" then
    if key.kind == .unique then .error (.uniqueHashIndex key.name table)
    else if key.parts.length > 1 then .error (.multiColumnHashIndex key.name table)
    else if key.hasDescending then .error (.descendingHashIndex key.name table)
    else .ok true
  else .error (.indexMethod key.method key.name table)

/-- A key: the primary one is a line of the table, any other an index after it. -/
def keyOutput (table : String) (key : KeyGroup) : Except Unsupported KeyOutput := do
  checkColumns table key
  match key.kind with
  | .primary =>
    if !(key.method == "" || key.method == "BTREE") then
      throw (.primaryKeyMethod key.method table)
    if key.hasDescending then throw (.descendingPrimaryKey table)
    let comment ← Standard.commentOn (.constraint (table ++ "_pkey") table) key.comment
    pure { clauses := [.primaryKey (indexColumns key) false ""], statements := comment }
  | kind =>
    let hash ← isHashed table key
    let comment ← Standard.commentOn (.index (indexName table key)) key.comment
    pure { statements :=
      .createIndex (kind == .unique) (indexName table key) table hash (indexColumns key)
        :: comment }

/-! ### Counters -/

/-- A new start for the sequence of each counter. -/
def reset (table : String) (columns : List Column) : Except Unsupported (List Statement) := do
  let statements ← columns.mapM fun column => do
    let extras ← extrasOf column
    if Extra.autoIncrements extras then
      let _ ← Standard.carried table
      let _ ← Standard.carried column.name
      pure [Statement.advance table column.name]
    else pure []
  pure statements.flatten

/-! ### The formatter -/

def formatter (options : FormatOptions) : Formatter where
  name := "postgresql"
  create table := do
    let live := Table.liveName table.name options.tablePrefix
    pure (Sql.block spelling (← Standard.create columnClause keyOutput live table))
  insert data := do
    let live := Table.liveName data.name options.tablePrefix
    pure (Sql.block spelling (← Standard.insert live data.rows))
  clear table :=
    let statement := Statement.truncate (Table.liveName table.name options.tablePrefix) true
    pure (statement.render spelling ++ "\n")
  reset table data :=
    if data.rows.isEmpty then pure ""
    else do
      let live := Table.liveName table.name options.tablePrefix
      pure (Sql.block spelling (← reset live table.columns))

end SchemaDump.Dialect.Postgresql
