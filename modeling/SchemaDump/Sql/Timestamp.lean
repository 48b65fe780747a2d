/-
  SchemaDump/Sql/Timestamp.lean
  =============================
  **Defaults of date and time columns.**

  The database reports "the time of insertion" under several names, with or
  without a precision between parentheses; in SQL text there is one spelling,
  `CURRENT_TIMESTAMP`.  The zero date, which only MySQL takes, has a stand-in
  for the other dialects.
-/
import SchemaDump.Text.Blank
import SchemaDump.Text.DecimalDigit
import SchemaDump.Text.Fold

namespace SchemaDump.Sql

/-- The names of the current time, in small letters. -/
def currentTimeNames : List String := ["current_timestamp", "now", "localtimestamp", "localtime"]

/-- A parenthesised precision, of any number of digits, with blanks around all of it. -/
def precision? (cs : List Char) : Option (List Char) :=
  match Text.trimStart cs with
  | [] => some []
  | '(' :: rest =>
    let inner := Text.trimStart rest
    match Text.trimStart (inner.dropWhile Text.isDecimalDigit) with
    | ')' :: after =>
      if after.all Text.isBlank then some (inner.takeWhile Text.isDecimalDigit) else none
    | _ => none
  | _ => none

/-- The precision of a default that means the current time, empty where none is given. -/
def currentTime? (text : String) : Option String :=
  let cs := Text.trimStart text.toList
  let isWordChar := fun c => !(Text.isBlank c || c == '(')
  if currentTimeNames.any fun name => Text.folds name (cs.takeWhile isWordChar) then
    (precision? (cs.dropWhile isWordChar)).map String.ofList
  else none

/-- The current time, with a precision unless it is empty. -/
def currentTimestamp (precision : String) : String :=
  if precision.toList.isEmpty then "CURRENT_TIMESTAMP"
  else "CURRENT_TIMESTAMP(" ++ precision ++ ")"

/-- The first moment of the calendar in the zero date's place; other defaults as they are. -/
def portableDate (text : String) : String :=
  if text == "0000-00-00 00:00:00" then "1970-01-01 00:00:00"
  else if text == "0000-00-00" then "1970-01-01"
  else text

/-- Whether a default is a bit literal: `b`, then zeros and ones between quotes. -/
def isBitLiteral (text : String) : Bool :=
  match Text.trim text.toList with
  | b :: '\'' :: rest =>
    Text.fold b == 'b' && rest.getLast? == some '\''
      && rest.dropLast.all fun c => c == '0' || c == '1'
  | _ => false

end SchemaDump.Sql
