/-
  SchemaDump/Toml/Quoted.lean
  ===========================
  **Quoted texts of TOML.**

  There are four kinds: between double quotes with escapes or between single
  quotes without, and each of them on one line or, between three quotes, on
  several.  A text on several lines loses a line break directly after its
  opening, and one with escapes also whatever blanks and line breaks follow a
  backslash at the end of a line.  Control characters but the tab stand in none
  of them.  Each reader starts after the opening quotes and gives the text and
  what follows the closing quotes.
-/
import SchemaDump.Text.Numeral

namespace SchemaDump.Toml

def isSpace (c : Char) : Bool := c == ' ' || c == '\t'

/-- A character that may stand in comments and quoted texts. -/
def isPlain (c : Char) : Bool := c == '\t' || (0x20 ≤ c.toNat && c.toNat != 0x7F)

/-- What follows a line break, a line feed with or without a carriage return before it. -/
def afterBreak? : List Char → Option (List Char)
  | '\n' :: rest => some rest
  | '\r' :: '\n' :: rest => some rest
  | _ => none

/-- The text without the spaces and line breaks at its start. -/
def skipBreaks : List Char → List Char
  | [] => []
  | '\r' :: '\n' :: rest => skipBreaks rest
  | c :: rest => if isSpace c || c == '\n' then skipBreaks rest else c :: rest

/-! ### One line -/

/-- The character of a number of hexadecimal digits. -/
def codePoint? (count : Nat) (cs : List Char) : Option Char :=
  if cs.length < count then none
  else (Text.hexValue? 0 (cs.take count)).bind fun n =>
    if h : n.isValidChar then some (Char.ofNatAux n h) else none

/-- The character that an escape stands for, from the text after the backslash, and how much of
    that text the escape takes. -/
def escape? (cs : List Char) : Option (Char × Nat) :=
  match cs with
  | 'b' :: _ => some (Char.ofNat 8, 1)
  | 't' :: _ => some ('\t', 1)
  | 'n' :: _ => some ('\n', 1)
  | 'f' :: _ => some (Char.ofNat 12, 1)
  | 'r' :: _ => some ('\r', 1)
  | '"' :: _ => some ('"', 1)
  | '\\' :: _ => some ('\\', 1)
  | 'u' :: rest => (codePoint? 4 rest).map fun c => (c, 5)
  | 'U' :: rest => (codePoint? 8 rest).map fun c => (c, 9)
  | _ => none

/-- A text with escapes on one line. -/
def escapedLine? (cs : List Char) : Option (List Char × List Char) :=
  match cs with
  | [] => none
  | c :: rest =>
    if c == '"' then some ([], rest)
    else if c == '\\' then
      match escape? rest with
      | some (meant, used) =>
        (escapedLine? (rest.drop used)).map fun (text, after) => (meant :: text, after)
      | none => none
    else if isPlain c then (escapedLine? rest).map fun (text, after) => (c :: text, after)
    else none
termination_by cs.length
decreasing_by all_goals simp only [List.length_cons, List.length_drop]; omega

/-- A text without escapes on one line. -/
def literalLine? : List Char → Option (List Char × List Char)
  | [] => none
  | c :: rest =>
    if c == '\'' then some ([], rest)
    else if isPlain c then (literalLine? rest).map fun (text, after) => (c :: text, after)
    else none

/-! ### Several lines -/

/-- Quotes in a text on several lines: the closing three may follow up to two that belong to the
    text, and one or two alone belong to it.  Gives how many belong to it and whether the text
    ends. -/
def quoteRun? (count : Nat) : Option (Nat × Bool) :=
  if count < 3 then some (count, false)
  else if count ≤ 5 then some (count - 3, true)
  else none

/-- A text on several lines, with escapes if its quotes are double. -/
def block? (quote : Char) (cs : List Char) : Option (List Char × List Char) :=
  match cs with
  | [] => none
  | c :: rest =>
    if c == quote then
      let marks := rest.takeWhile (· == quote)
      let after := rest.drop marks.length
      match quoteRun? (marks.length + 1) with
      | none => none
      | some (kept, true) => some (List.replicate kept quote, after)
      | some (kept, false) =>
        (block? quote after).map fun (text, more) => (List.replicate kept quote ++ text, more)
    else if c == '\\' && quote == '"' then
      match afterBreak? (rest.dropWhile isSpace) with
      | some _ => block? quote (skipBreaks rest)
      | none => match escape? rest with
        | some (meant, used) =>
          (block? quote (rest.drop used)).map fun (text, after) => (meant :: text, after)
        | none => none
    else if c == '\r' then
      match rest with
      | '\n' :: more => (block? quote more).map fun (text, after) => ('\n' :: text, after)
      | _ => none
    else if isPlain c || c == '\n' then
      (block? quote rest).map fun (text, after) => (c :: text, after)
    else none
termination_by cs.length
decreasing_by
  all_goals simp only [List.length_cons, List.length_drop]
  all_goals try omega
  have : ∀ xs : List Char, (skipBreaks xs).length ≤ xs.length := by
    intro xs
    fun_induction skipBreaks xs with
    | case1 => simp
    | case2 rest ih => simp only [List.length_cons]; omega
    | case3 c rest _ _ ih => simp only [List.length_cons]; omega
    | case4 => simp
  have := this rest
  omega

/-! ### All kinds -/

/-- A quoted text on one line. -/
def quotedLine? : List Char → Option (String × List Char)
  | '"' :: rest => (escapedLine? rest).map fun (text, after) => (String.ofList text, after)
  | '\'' :: rest => (literalLine? rest).map fun (text, after) => (String.ofList text, after)
  | _ => none

/-- A quoted text of any kind. -/
def quoted? (cs : List Char) : Option (String × List Char) :=
  match cs with
  | a :: b :: c :: rest =>
    if (a == '"' || a == '\'') && b == a && c == a then
      (block? a ((afterBreak? rest).getD rest)).map fun (text, after) =>
        (String.ofList text, after)
    else quotedLine? cs
  | _ => quotedLine? cs

end SchemaDump.Toml
