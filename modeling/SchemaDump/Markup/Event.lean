/-
  SchemaDump/Markup/Event.lean
  ============================
  **Events: what a document says, in order.**

  Reading turns lexemes into events: tags with their attributes, texts with
  their references resolved, and closing tags, whose names have to match the
  elements that are open.  A tag that opens and closes an element is one event.
  Asides say nothing.  A document is read up to its first fault, and the events
  before it are those of the sound part.
-/
import SchemaDump.Markup.Lexeme

namespace SchemaDump.Markup

/-- Something that a document says. -/
inductive Event where
  | declaration
  | opening (tag : Tag)
  /-- An element without content. -/
  | single (tag : Tag)
  | closing (name : String)
  | text (content : String)
deriving DecidableEq, Repr

namespace Event

/-- Events of lexemes while the named elements are open, the innermost first; `failure` is what
    ended the lexemes. -/
def ofLexemes (opened : List String) (failure : Option Fault) : List Lexeme → Run Fault Event
  | [] => ⟨[], failure⟩
  | .aside :: rest => ofLexemes opened failure rest
  | .text raw :: rest =>
    match unescape? raw with
    | some cs => (ofLexemes opened failure rest).cons (.text (String.ofList cs))
    | none => Run.broken .textReference
  | .verbatim content :: rest =>
    (ofLexemes opened failure rest).cons (.text (String.ofList content))
  | .opening inside :: rest =>
    match Tag.read inside with
    | .ok tag => (ofLexemes (tag.name :: opened) failure rest).cons (.opening tag)
    | .error fault => Run.broken fault
  | .single inside :: rest =>
    match Tag.read inside with
    | .ok tag => (ofLexemes opened failure rest).cons (.single tag)
    | .error fault => Run.broken fault
  | .closing inside :: rest =>
    let name := String.ofList (Lexeme.closingName inside)
    match opened with
    | innermost :: others =>
      if name == innermost then (ofLexemes others failure rest).cons (.closing name)
      else Run.broken .malformed
    | [] => Run.broken .malformed

/-- Reads a text, after the mark of byte order at its start, if there is one. -/
def readAll (text : String) : Run Fault Event :=
  let cs := match text.toList with
    | c :: rest => if c.toNat == 0xFEFF then rest else c :: rest
    | [] => []
  let lexemes := Lexeme.readAll cs
  ofLexemes [] lexemes.failure lexemes.items

end Event
end SchemaDump.Markup
