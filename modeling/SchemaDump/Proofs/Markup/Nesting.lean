/-
  SchemaDump/Proofs/Markup/Nesting.lean
  =====================================
  **Events whose closing tags match.**

  A reader lets a closing tag through only if it names the innermost open
  element.  `openAfterAll?` follows the open elements along a list of events and
  fails at the first closing tag that does not match, and
  `openAfterAll?_readAll` says that what is read of any text never fails so.
-/
import SchemaDump.Markup.Event

namespace SchemaDump.Markup.Event

/-- The open elements after an event, the innermost first; nothing if the event closes an element
    that is not the innermost. -/
def openAfter? (opened : List String) : Event → Option (List String)
  | .opening tag => some (tag.name :: opened)
  | .closing name =>
    match opened with
    | innermost :: others => if name == innermost then some others else none
    | [] => none
  | .declaration | .single _ | .text _ => some opened

def openAfterAll? (opened : List String) : List Event → Option (List String)
  | [] => some opened
  | event :: rest => (openAfter? opened event).bind fun next => openAfterAll? next rest

theorem openAfterAll?_append (opened : List String) (first second : List Event) :
    openAfterAll? opened (first ++ second)
      = (openAfterAll? opened first).bind fun next => openAfterAll? next second := by
  induction first generalizing opened with
  | nil => rfl
  | cons event rest ih =>
    simp only [List.cons_append, openAfterAll?, Option.bind_assoc]
    congr 1
    funext next
    exact ih next

/-- What lexemes say never closes another element than the innermost. -/
theorem isSome_openAfterAll?_ofLexemes (opened : List String) (failure : Option Fault)
    (lexemes : List Lexeme) :
    (openAfterAll? opened (ofLexemes opened failure lexemes).items).isSome = true := by
  induction lexemes generalizing opened with
  | nil => rfl
  | cons lexeme rest ih =>
    cases lexeme with
    | aside => exact ih opened
    | text raw =>
      rw [ofLexemes]
      split
      · exact ih opened
      · rfl
    | verbatim content => exact ih opened
    | opening inside =>
      rw [ofLexemes]
      split
      · rename_i tag _
        exact ih (tag.name :: opened)
      · rfl
    | single inside =>
      rw [ofLexemes]
      split
      · exact ih opened
      · rfl
    | closing inside =>
      cases opened with
      | nil => rfl
      | cons innermost others =>
        rw [ofLexemes]
        by_cases hname : (String.ofList (Lexeme.closingName inside) == innermost) = true
        · rw [if_pos hname]
          simpa only [Run.cons, openAfterAll?, openAfter?, if_pos hname, Option.bind_some] using ih others
        · rw [if_neg hname]
          rfl

/-- **What is read of a text never closes another element than the innermost.** -/
theorem isSome_openAfterAll?_readAll (text : String) :
    (openAfterAll? [] (readAll text).items).isSome = true :=
  isSome_openAfterAll?_ofLexemes [] _ _

end SchemaDump.Markup.Event
