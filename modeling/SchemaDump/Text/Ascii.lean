/-
  SchemaDump/Text/Ascii.lean
  ==========================
  **Case of ASCII letters.**

  Keywords of the database's own metadata (`auto_increment`, `PRIMARY`, `YES`)
  and the names of formats are compared without regard to the case of the
  letters `A` to `Z`.  All other characters, letters of other scripts among
  them, stay as they are and only equal themselves.
-/

namespace SchemaDump.Text

/-- The text with `A` to `Z` made small. -/
def lower (s : String) : String := String.ofList (s.toList.map Char.toLower)

/-- The text with `a` to `z` made large. -/
def upper (s : String) : String := String.ofList (s.toList.map Char.toUpper)

def sameLetters (a b : String) : Bool := lower a == lower b

/-- Whether `word` stands somewhere in the text. -/
def occursIn (word : List Char) : List Char → Bool
  | [] => word.isEmpty
  | c :: rest => word.isPrefixOf (c :: rest) || occursIn word rest

end SchemaDump.Text
