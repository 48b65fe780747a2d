/-
  SchemaDump/Output/Cutting.lean
  ==============================
  **Events in pieces.**

  What is written for an event reaches a sink in pieces, and the sink takes or
  refuses each of them as a whole.  Where a text is cut changes nothing about the
  text; it only counts for a sink that runs full, which then keeps the pieces of
  an event that still fit.
-/
import SchemaDump.Markup.Layout

namespace SchemaDump

open Markup (Event Layout)

/-- A way of cutting what is written for an event into pieces; nothing gets lost. -/
structure Cutting where
  pieces : Layout → Event → List String
  join_pieces : ∀ layout event, String.join (pieces layout event) = layout.write event

namespace Cutting

/-- The line break before a tag, and its spaces. -/
def indentPieces (layout : Layout) : List String :=
  if layout.breaks then ["\n", String.ofList (List.replicate layout.depth ' ')] else []

theorem join_indentPieces (layout : Layout) : String.join (indentPieces layout) = layout.indent := by
  rw [indentPieces, Layout.indent]
  split
  · simp
  · rfl

/-- A tag: what stands before it, its opening mark, what is inside, and its closing mark. -/
def tagPieces (layout : Layout) (start inside stop : String) : List String :=
  indentPieces layout ++ [start, inside, stop]

theorem join_tagPieces (layout : Layout) (start inside stop : String) :
    String.join (tagPieces layout start inside stop)
      = layout.indent ++ (start ++ (inside ++ stop)) := by
  rw [tagPieces, String.join_append, join_indentPieces]
  simp

/-- Tags are cut at their marks, and texts are not cut. -/
def marked : Cutting where
  pieces layout event :=
    match event with
    | .declaration => tagPieces layout "<?" "xml version=\"1.0\"" "?>"
    | .opening tag => tagPieces layout "<" tag.write ">"
    | .single tag => tagPieces layout "<" tag.write "/>"
    | .closing name => tagPieces ⟨layout.depth - 1, layout.breaks⟩ "</" name ">"
    | .text content => [String.ofList (Markup.escape content.toList)]
  join_pieces layout event := by
    cases event with
    | declaration => exact join_tagPieces layout _ _ _
    | text content => simp [Layout.write]
    | _ => simp only [join_tagPieces, Layout.write, String.append_assoc]

end Cutting
end SchemaDump
