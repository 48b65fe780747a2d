/-
  SchemaDump/ColumnType/Reading.lean
  ==================================
  **Reading a raw type text.**

      type       = blanks base blanks [ "(" arguments ")" ] { blanks modifier } blanks
      base       = a letter, then letters, digits and plain spaces
      modifier   = "unsigned" | "signed" | "zerofill"

  Letters of the base and the modifiers are read under case folding.  Arguments
  hold any characters but a line feed, parentheses and the words of modifiers
  among them.  Where several readings are possible the base is as short as it
  can be and the arguments are as long as they can be.
-/
import SchemaDump.ColumnType.Basic
import SchemaDump.Text.Ascii
import SchemaDump.Text.Blank
import SchemaDump.Text.Fold

namespace SchemaDump.ColumnType

def isBaseLetter (c : Char) : Bool := 'a' ≤ Text.fold c && Text.fold c ≤ 'z'

def isBaseChar (c : Char) : Bool := isBaseLetter c || c.isDigit || c == ' '

/-- Whether a word is a modifier, under case folding. -/
def isModifier (word : List Char) : Bool :=
  Text.folds "unsigned" word || Text.folds "signed" word || Text.folds "zerofill" word

/-- The modifiers of a text that holds nothing else: the text is empty or starts with a blank,
    so that its first word is set off from what stands before it. -/
def modifiers? (cs : List Char) : Option (List (List Char)) :=
  if (cs.head?.all Text.isBlank) && (Text.words cs).all isModifier then some (Text.words cs)
  else none

/-- Arguments up to the last closing parenthesis, on the same line, that only modifiers
    follow; and those modifiers. -/
def closing? : List Char → Option (List Char × List (List Char))
  | [] => none
  | c :: rest =>
    if c == '\n' then none
    else match closing? rest with
      | some (arguments, modifiers) => some (c :: arguments, modifiers)
      | none => if c == ')' then (modifiers? rest).map fun modifiers => ([], modifiers) else none

/-- What may follow a base name: arguments, if a parenthesis comes next, and modifiers. -/
def tail? (cs : List Char) : Option (Option (List Char) × List (List Char)) :=
  match Text.trimStart cs with
  | '(' :: rest => (closing? rest).map fun (arguments, modifiers) => (some arguments, modifiers)
  | _ => (modifiers? cs).map fun modifiers => (none, modifiers)

/-- The type with a given base text, arguments and modifiers.  The unsigned modifier is compared
    letter by letter, without folding. -/
def ofParts (base : List Char) (arguments : Option (List Char)) (modifiers : List (List Char)) :
    ColumnType where
  base := Text.lower (Text.joined " " ((Text.words base).map String.ofList))
  arguments := arguments.map fun cs => String.ofList (Text.trim cs)
  unsigned := modifiers.any fun word => Text.sameLetters (String.ofList word) "unsigned"

/-- Reads on after a nonempty part of the base; the shortest base that works is taken. -/
def readAfter (base : List Char) : List Char → Option ColumnType
  | [] => (tail? []).map fun (arguments, modifiers) => ofParts base arguments modifiers
  | c :: rest =>
    match tail? (c :: rest) with
    | some (arguments, modifiers) => some (ofParts base arguments modifiers)
    | none => if isBaseChar c then readAfter (base ++ [c]) rest else none

def read? (text : String) : Option ColumnType :=
  match Text.trimStart text.toList with
  | [] => none
  | c :: rest => if isBaseLetter c then readAfter [c] rest else none

end SchemaDump.ColumnType
