/-
  SchemaDump/Markup/Reference.lean
  ================================
  **References to characters.**

  Five characters have a meaning in markup and are written as references in
  text and attribute values.  A reference runs from `&` to `;` and names one of
  the five or gives a code point, in decimal or, after `x`, in hexadecimal
  digits.  An `&` that starts no such reference is a fault; a `;` elsewhere is
  an ordinary character.
-/
import SchemaDump.Text.Numeral

namespace SchemaDump.Markup

/-- A character as it is written in text and attribute values. -/
def escapedChar (c : Char) : List Char :=
  if c == '<' then ['&', 'l', 't', ';']
  else if c == '>' then ['&', 'g', 't', ';']
  else if c == '&' then ['&', 'a', 'm', 'p', ';']
  else if c == '\'' then ['&', 'a', 'p', 'o', 's', ';']
  else if c == '"' then ['&', 'q', 'u', 'o', 't', ';']
  else [c]

def escape (cs : List Char) : List Char := cs.flatMap escapedChar

/-- The character of a code point; zero and the surrogates are none. -/
def charOf? (n : Nat) : Option Char :=
  if h : n.isValidChar then (if n == 0 then none else some (Char.ofNatAux n h)) else none

/-- The character that the text between `&` and `;` names. -/
def resolve? (name : List Char) : Option Char :=
  match name with
  | '#' :: 'x' :: digits =>
    if digits.isEmpty then none else (Text.hexValue? 0 digits).bind charOf?
  | '#' :: digits => (Text.natural? digits).bind charOf?
  | _ =>
    if name == ['l', 't'] then some '<'
    else if name == ['g', 't'] then some '>'
    else if name == ['a', 'm', 'p'] then some '&'
    else if name == ['a', 'p', 'o', 's'] then some '\''
    else if name == ['q', 'u', 'o', 't'] then some '"'
    else none

/-- Reads a text within a reference (given the characters of its name so far) or outside one. -/
def unescapeFrom? : Option (List Char) → List Char → Option (List Char)
  | none, [] => some []
  | some _, [] => none
  | none, c :: rest =>
    if c == '&' then unescapeFrom? (some []) rest else (unescapeFrom? none rest).map (c :: ·)
  | some name, c :: rest =>
    if c == ';' then
      (resolve? name).bind fun meant => (unescapeFrom? none rest).map (meant :: ·)
    else if c == '&' then none
    else unescapeFrom? (some (name ++ [c])) rest

def unescape? (cs : List Char) : Option (List Char) := unescapeFrom? none cs

end SchemaDump.Markup
