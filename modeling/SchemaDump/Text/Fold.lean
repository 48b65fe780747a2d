/-
  SchemaDump/Text/Fold.lean
  =========================
  **Case folding of letters that fold to ASCII.**

  The grammars of column types and of timestamp defaults are read under simple
  Unicode case folding.  Their keywords hold ASCII letters only, so of the whole
  folding just the characters matter that fold to one: the letters `A` to `Z`,
  the long s (U+017F) and the Kelvin sign (U+212A).
-/
import SchemaDump.Text.Ascii

namespace SchemaDump.Text

/-- The ASCII letter that a character folds to, or the character itself. -/
def fold (c : Char) : Char :=
  if c.toNat == 0x17F then 's'
  else if c.toNat == 0x212A then 'k'
  else c.toLower

/-- Whether a text spells a keyword (given in small ASCII letters) under case folding. -/
def folds (keyword : String) (cs : List Char) : Bool := cs.map fold == keyword.toList

end SchemaDump.Text
