/-
  SchemaDump/Dialect/Mysql.lean
  =============================
  **The MySQL dialect.**

  Dumps come from MySQL, so raw types pass unchanged and every kind of key that
  the database reports can be made again.  Counters follow explicit values of
  their own accord.
-/
import SchemaDump.Dialect.Formatter
import SchemaDump.Table.Name

namespace SchemaDump.Dialect.Mysql

open Sql (Unsupported Clause ColumnClause ColumnOption Default Statement KeyWord)

/-- Names between grave accents, literals with backslash escapes. -/
def spelling : Sql.Spelling := ⟨Sql.graveName, Sql.escapedLiteral⟩

/-! ### Columns -/

def typeStarts (column : Column) (word : String) : Bool :=
  word.toList.isPrefixOf (Text.lower column.type).toList

/-- The default of a column: the current time on a moment, an expression, a bit literal on bits,
    and a string literal otherwise. -/
def defaultOf (column : Column) (extras : List Extra) (text : String) : Default :=
  let moment := typeStarts column "timestamp" || typeStarts column "datetime"
  match (if moment then Sql.currentTime? text else none) with
  | some precision => .now precision
  | none =>
    if Extra.generatesDefault extras then .expression text
    else if typeStarts column "bit" && Sql.isBitLiteral text then .bits text
    else .literal text

def columnClause (column : Column) : Except Unsupported ColumnClause := do
  let extras ← extrasOf column
  pure {
    name := column.name
    type := column.type
    options :=
      (if column.nullable then [] else [.notNull])
        ++ (column.defaultValue.elim [] fun text => [.default (defaultOf column extras text)])
        ++ (if Extra.autoIncrements extras then [.autoIncrement] else [])
        ++ ((Extra.updateExpression? extras).elim [] fun expression => [.onUpdate expression])
        ++ (if column.comment.toList.isEmpty then [] else [.comment column.comment]) }

/-! ### Keys -/

/-- The words for a key and whether it is hashed; nothing for a method that the kind of key does
    not have. -/
def keyForm? (kind : KeyKind) (method : String) : Option (Option KeyWord × Bool) :=
  let tree := method == "" || method == "BTREE"
  let hash := method == "HASH"
  let spatial := method == "SPATIAL" || method == "RTREE"
  match kind with
  | .primary => if tree || hash then some (none, hash) else none
  | .unique =>
    if tree || hash then some (some .uniqueKey, hash)
    else if spatial then some (some .spatialKey, false)
    else none
  | .index =>
    if tree || hash then some (some .key, hash)
    else if method == "FULLTEXT" then some (some .fulltextKey, false)
    else if spatial then some (some .spatialKey, false)
    else none

def keyClause (table : String) (key : KeyGroup) : Except Unsupported Clause := do
  checkColumns table key
  match keyForm? key.kind key.method with
  | some (none, hash) => pure (.primaryKey (indexColumns key) hash key.comment)
  | some (some word, hash) => pure (.key word key.name (indexColumns key) hash key.comment)
  | none => throw (.keyMethod key.method key.name table)

/-! ### Tables and rows -/

def create (table : String) (definition : TableStructure) : Except Unsupported Statement := do
  let columns ← definition.columns.mapM columnClause
  let keys ← definition.keyGroups.mapM (keyClause table)
  pure (.createTable table (columns.map Clause.column ++ keys) (some "utf8mb4"))

def insert (table : String) (rows : List Row) : List Statement :=
  rows.map fun row => .insert table row.fields

/-! ### The formatter -/

def formatter (options : FormatOptions) : Formatter where
  name := "mysql"
  create table := do
    let statement ← create (Table.liveName table.name options.tablePrefix) table
    pure (Sql.block spelling [statement])
  insert data :=
    pure (Sql.block spelling (insert (Table.liveName data.name options.tablePrefix) data.rows))
  clear table :=
    let statement := Statement.truncate (Table.liveName table.name options.tablePrefix) false
    pure (statement.render spelling ++ "\n")
  reset _ _ := pure ""

end SchemaDump.Dialect.Mysql
