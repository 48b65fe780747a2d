/-
  SchemaDump/Sql/DataType.lean
  ============================
  **Column types outside MySQL.**

  The types that columns get in dialects other than the one of the dump, and how
  standard SQL and PostgreSQL spell them.
-/
import SchemaDump.Sql.Quoting
import SchemaDump.Text.Blank
import SchemaDump.Text.Numeral

namespace SchemaDump.Sql

inductive DataType where
  | boolean
  /-- Signed whole numbers of 16 bits. -/
  | smallInteger
  /-- Signed whole numbers of 32 bits. -/
  | integer
  /-- Signed whole numbers of 64 bits. -/
  | bigInteger
  /-- Counts up within 32 bits. -/
  | serial
  /-- Counts up within 64 bits. -/
  | bigSerial
  /-- Exact numbers, with no parameter, a precision, or a precision and a scale. -/
  | decimal (parameters : List Nat)
  | real
  | doublePrecision
  | char (length : Nat)
  | varchar (length : Nat)
  | text
  | binary (length : Nat)
  | varbinary (length : Nat)
  | bytes
  | date
  | time
  | timestamp (precision : Option Nat)
  | json
deriving DecidableEq, Repr

namespace DataType

/-- Numbers between parentheses; nothing for none. -/
def parameterList (numbers : List Nat) : String :=
  if numbers.isEmpty then ""
  else "(" ++ Text.joined "," (numbers.map fun n => String.ofList (Text.decimal n)) ++ ")"

/-- The spelling of standard SQL.  Counters are whole numbers there, and structured text is
    text. -/
def standard : DataType → String
  | boolean => "BOOLEAN"
  | smallInteger => "SMALLINT"
  | integer | serial => "INTEGER"
  | bigInteger | bigSerial => "BIGINT"
  | decimal parameters => "DECIMAL" ++ parameterList parameters
  | real => "REAL"
  | doublePrecision => "DOUBLE PRECISION"
  | char length => "CHAR" ++ parameterList [length]
  | varchar length => "VARCHAR" ++ parameterList [length]
  | text | json => "CLOB"
  | binary length => "BINARY" ++ parameterList [length]
  | varbinary length => "VARBINARY" ++ parameterList [length]
  | bytes => "BLOB"
  | date => "DATE"
  | time => "TIME"
  | timestamp precision => "TIMESTAMP" ++ parameterList precision.toList

/-- The spelling of PostgreSQL.  All strings of bytes have one type there. -/
def postgresql : DataType → String
  | boolean => "boolean"
  | smallInteger => "smallint"
  | integer => "integer"
  | bigInteger => "bigint"
  | serial => "serial"
  | bigSerial => "bigserial"
  | decimal parameters => "numeric" ++ parameterList parameters
  | real => "real"
  | doublePrecision => "double precision"
  | char length => "char" ++ parameterList [length]
  | varchar length => "varchar" ++ parameterList [length]
  | text => "text"
  | binary _ | varbinary _ | bytes => "bytea"
  | date => "date"
  | time => "time"
  | timestamp precision => "timestamp" ++ parameterList precision.toList
  | json => "jsonb"

end DataType
end SchemaDump.Sql
