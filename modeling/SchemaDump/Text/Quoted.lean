/-
  SchemaDump/Text/Quoted.lean
  ===========================
  **Quoted text in messages.**

  A message that complains about a text shows it between double quotes.  The
  quote and the backslash are escaped with a backslash, line feed, carriage
  return, tab and NUL have letters of their own, any other hidden character is
  given by its code point in small hexadecimal digits, and all else stands for
  itself (the single quote too).
-/
import SchemaDump.Text.Visible

namespace SchemaDump.Text

/-- A character as it stands between the quotes. -/
def quotedChar (c : Char) : List Char :=
  if c == '"' then ['\\', '"']
  else if c == '\\' then ['\\', '\\']
  else if c == '\n' then ['\\', 'n']
  else if c == '\r' then ['\\', 'r']
  else if c == '\t' then ['\\', 't']
  else if c.toNat == 0 then ['\\', '0']
  else if isVisible c then [c]
  else ['\\', 'u', '\x7b'] ++ Nat.toDigits 16 c.toNat ++ ['\x7d']

/-- A text between double quotes, with escapes. -/
def quoted (s : String) : String :=
  String.ofList (['"'] ++ s.toList.flatMap quotedChar ++ ['"'])

end SchemaDump.Text
