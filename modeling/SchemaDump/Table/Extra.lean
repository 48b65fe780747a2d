/-
  SchemaDump/Table/Extra.lean
  ===========================
  **The extras of a column.**

  The database reports properties of a column that are neither type nor default
  as one text of words: `auto_increment`, `DEFAULT_GENERATED` and
  `on update X`, in any number and order and any case.  The text is read word
  by word; `X` is one word, whatever it is, and never read as an extra itself.
-/
import SchemaDump.Text.Ascii
import SchemaDump.Text.Blank

namespace SchemaDump

inductive Extra where
  | autoIncrement
  /-- The default is an expression and not a value. -/
  | generatedDefault
  /-- The column takes the value of an expression whenever its row changes. -/
  | onUpdate (expression : String)
deriving DecidableEq, Repr

namespace Extra

/-- Why a text is no list of extras. -/
inductive Fault where
  /-- `on update` stands at the end. -/
  | incomplete
  | unknown
deriving DecidableEq, Repr

/-- Reads words as extras. -/
def ofWords : List String → Except Fault (List Extra)
  | [] => .ok []
  | word :: rest =>
    if Text.sameLetters word "auto_increment" then
      (ofWords rest).map (.autoIncrement :: ·)
    else if Text.sameLetters word "default_generated" then
      (ofWords rest).map (.generatedDefault :: ·)
    else if Text.sameLetters word "on" then
      match rest with
      | next :: expression :: more =>
        if Text.sameLetters next "update" then (ofWords more).map (.onUpdate expression :: ·)
        else .error .unknown
      | [next] => if Text.sameLetters next "update" then .error .incomplete else .error .unknown
      | [] => .error .unknown
    else .error .unknown

def read (text : String) : Except Fault (List Extra) :=
  ofWords ((Text.words text.toList).map String.ofList)

def autoIncrements (extras : List Extra) : Bool := extras.contains .autoIncrement

def generatesDefault (extras : List Extra) : Bool := extras.contains .generatedDefault

/-- The expression that updates the column; of several the last one counts. -/
def updateExpression? (extras : List Extra) : Option String :=
  extras.reverse.findSome? fun
    | .onUpdate expression => some expression
    | _ => none

end Extra
end SchemaDump
