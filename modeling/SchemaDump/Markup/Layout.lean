/-
  SchemaDump/Markup/Layout.lean
  =============================
  **Writing events, indented.**

  Each tag stands on a line of its own, indented by one space for each element
  that is open around it, except directly after a text: so no blank gets into a
  text.  Nothing stands before the first tag either.  The layout is all that
  writing one event has to know of those before it.
-/
import SchemaDump.Markup.Event

namespace SchemaDump.Markup

/-- How far the next tag is indented and whether it starts a line. -/
structure Layout where
  depth : Nat := 0
  breaks : Bool := false
deriving DecidableEq, Repr

namespace Layout

/-- The line break and the spaces before a tag. -/
def indent (layout : Layout) : String :=
  if layout.breaks then String.ofList ('\n' :: List.replicate layout.depth ' ') else ""

/-- The layout after an event.  Closing more than was opened stays at the margin. -/
def after (layout : Layout) : Event → Layout
  | .declaration | .single _ => ⟨layout.depth, true⟩
  | .opening _ => ⟨layout.depth + 1, true⟩
  | .closing _ => ⟨layout.depth - 1, true⟩
  | .text _ => ⟨layout.depth, false⟩

def write (layout : Layout) : Event → String
  | .declaration => layout.indent ++ "<?xml version=\"1.0\"?>"
  | .opening tag => layout.indent ++ "<" ++ tag.write ++ ">"
  | .single tag => layout.indent ++ "<" ++ tag.write ++ "/>"
  | .closing name => indent ⟨layout.depth - 1, layout.breaks⟩ ++ "</" ++ name ++ ">"
  | .text content => String.ofList (escape content.toList)

def writeAll (layout : Layout) : List Event → List String
  | [] => []
  | event :: rest => layout.write event :: (layout.after event).writeAll rest

def afterAll (layout : Layout) (events : List Event) : Layout := events.foldl after layout

/-- Writing a list of events after another goes on where the first left off. -/
theorem writeAll_append (layout : Layout) (first second : List Event) :
    layout.writeAll (first ++ second)
      = layout.writeAll first ++ (layout.afterAll first).writeAll second := by
  induction first generalizing layout with
  | nil => rfl
  | cons event rest ih => simp [writeAll, afterAll, ih]

end Layout
end SchemaDump.Markup
