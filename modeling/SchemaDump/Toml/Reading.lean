/-
  SchemaDump/Toml/Reading.lean
  ============================
  **Reading a TOML document.**

  A document is a list of lines: headers of tables, keys with values, comments
  and empty lines.  Lists may run over several lines, tables written as values
  may not.  Values are nested less than eighty deep and keys have less than
  eighty parts.  A reader of a part gives the part and the text after it, which
  is always the shorter one.
-/
import SchemaDump.Toml.Node
import SchemaDump.Toml.Quoted
import SchemaDump.Toml.Scalar

namespace SchemaDump.Toml

/-- Values and keys are nested less deep than this. -/
def depthLimit : Nat := 80

/-! ### Spaces, comments and keys -/

def isKeyChar (c : Char) : Bool := c.isAlphanum || c == '-' || c == '_'

def skipSpaces (cs : List Char) : List Char := cs.dropWhile isSpace

/-- The text without the comment at its start. -/
def skipComment : List Char → List Char
  | '#' :: rest => rest.dropWhile isPlain
  | cs => cs

/-- What follows the rest of a line that holds nothing but spaces and a comment. -/
def endLine? (cs : List Char) : Option (List Char) :=
  match skipComment (skipSpaces cs) with
  | [] => some []
  | rest => afterBreak? rest

/-- The text without the spaces, line breaks and comments at its start. -/
def skipLines (cs : List Char) : List Char :=
  match skipBreaks cs with
  | '#' :: rest =>
    let after := rest.dropWhile isPlain
    if after.length < cs.length then skipLines after else after
  | rest => rest
termination_by cs.length

def keyPart? (cs : List Char) : Option (String × List Char) :=
  match quotedLine? cs with
  | some (text, after) => some (text, after)
  | none =>
    let bare := cs.takeWhile isKeyChar
    if bare.isEmpty then none else some (String.ofList bare, cs.drop bare.length)

/-- A key: parts between points, with spaces around each. -/
def key? (cs : List Char) : Option (List String × List Char) :=
  match keyPart? (skipSpaces cs) with
  | none => none
  | some (part, after) =>
    match skipSpaces after with
    | '.' :: rest =>
      if rest.length < cs.length then
        (key? rest).map fun (parts, more) => (part :: parts, more)
      else none
    | rest => some ([part], rest)
termination_by cs.length

/-- A key within the limit, as the path to its table and its last part. -/
def path? (cs : List Char) : Option (List String × String × List Char) :=
  (key? cs).bind fun (parts, after) =>
    if parts.length < depthLimit then
      parts.getLast?.map fun last => (parts.dropLast, last, after)
    else none

/-! ### Values -/

abbrev ValueReader := List Char → Option (Node × List Char)

/-- The items of a list up to its closing bracket; a comma may follow the last. -/
def items? (value : ValueReader) (cs : List Char) : Option (List Node × List Char) :=
  match skipLines cs with
  | ']' :: rest => some ([], rest)
  | start =>
    match value start with
    | none => none
    | some (node, after) =>
      match skipLines after with
      | ']' :: rest => some ([node], rest)
      | ',' :: rest =>
        if rest.length < cs.length then
          (items? value rest).map fun (nodes, more) => (node :: nodes, more)
        else none
      | _ => none
termination_by cs.length

structure Pair where
  path : List String
  key : String
  node : Node

/-- A key, the sign `=` and a value; and what follows. -/
def pair? (value : ValueReader) (cs : List Char) : Option (Pair × List Char) := do
  let (path, key, afterKey) ← path? cs
  let (node, after) ← value (skipSpaces (← after? '=' afterKey))
  pure (⟨path, key, node⟩, after)

/-- The pairs of a table written as a value, from its first to its closing brace. -/
def pairs? (value : ValueReader) (cs : List Char) : Option (List Pair × List Char) :=
  match pair? value cs with
  | none => none
  | some (pair, after) =>
    match skipSpaces after with
    | '\x7d' :: rest => some ([pair], rest)
    | ',' :: rest =>
      if rest.length < cs.length then
        (pairs? value rest).map fun (pairs, more) => (pair :: pairs, more)
      else none
    | _ => none
termination_by cs.length

/-- The entries that pairs make, one after another. -/
def gather? (pairs : List Pair) : Option Entries :=
  pairs.foldlM (fun entries pair => entries.insert pair.key pair.node pair.path) []

/-- The inside of a table written as a value. -/
def inlineTable? (value : ValueReader) (cs : List Char) : Option (Node × List Char) :=
  match skipSpaces cs with
  | '\x7d' :: rest => some (.inline [], rest)
  | start => do
    let (pairs, after) ← pairs? value start
    pure (.inline (← gather? pairs), after)

def scalar? (cs : List Char) : Option (Node × List Char) :=
  match quoted? cs with
  | some (text, after) => some (.text text, after)
  | none =>
    if "true".toList.isPrefixOf cs then some (.flag true, cs.drop 4)
    else if "false".toList.isPrefixOf cs then some (.flag false, cs.drop 5)
    else match moment? cs with
      | some after => some (.moment, after)
      | none => (number? cs).map fun after => (.number, after)

/-- A value with so many levels of lists and tables within it. -/
def value? : Nat → ValueReader
  | 0, cs => scalar? cs
  | depth + 1, cs =>
    match cs with
    | '[' :: rest => (items? (value? depth) rest).map fun (nodes, after) => (.list nodes, after)
    | '\x7b' :: rest => inlineTable? (value? depth) rest
    | _ => scalar? cs

/-! ### Lines -/

/-- The entries after one line that is not empty, the header of the lines after it, and what
    follows. -/
def line? (header : List String) (entries : Entries) (cs : List Char) :
    Option (List String × Entries × List Char) :=
  match cs with
  | '[' :: '[' :: rest => do
    let (path, key, after) ← path? rest
    let after ← endLine? (← after? ']' (← after? ']' after))
    pure (path ++ [key], ← entries.openElement path key, after)
  | '[' :: rest => do
    let (path, key, after) ← path? rest
    let after ← endLine? (← after? ']' after)
    pure (path ++ [key], ← entries.openTable path key, after)
  | _ => do
    let (pair, after) ← pair? (value? (depthLimit - 1)) cs
    let made ← entries.within (Entries.insert pair.key pair.node pair.path) header
    pure (header, made, ← endLine? after)

/-- The entries after all lines. -/
def lines? (header : List String) (entries : Entries) (cs : List Char) : Option Entries :=
  if cs.isEmpty then some entries
  else match endLine? cs with
    | some rest => if rest.length < cs.length then lines? header entries rest else none
    | none =>
      match line? header entries (skipSpaces cs) with
      | some (header, entries, rest) =>
        if rest.length < cs.length then lines? header entries rest else none
      | none => none
termination_by cs.length

/-- The table of a document, which may start with a mark of byte order. -/
def read? (text : String) : Option Entries :=
  match text.toList with
  | c :: rest => lines? [] [] (if c.toNat == 0xFEFF then rest else c :: rest)
  | [] => some []

end SchemaDump.Toml
