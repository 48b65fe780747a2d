/-
  SchemaDump/Proofs/Markup/Content.lean
  =====================================
  **Content: well-nested events as elements within elements.**

  Events come one after another; what they say is nested.  `Content` is what
  stands between two tags of one element, or in a whole document: texts, asides
  and elements, each element with content of its own.  A list of events is
  content exactly if every closing tag closes the innermost open element and
  none stays open (`exists_content_iff`).
-/
import SchemaDump.Proofs.Markup.Nesting

namespace SchemaDump.Markup

/-- What stands within an element, in order.  Each constructor adds one piece in front. -/
inductive Content where
  | nil
  | aside (rest : Content)
  | text (content : String) (rest : Content)
  | element (tag : Tag) (inner rest : Content)
  /-- An element without content, in one tag. -/
  | single (tag : Tag) (rest : Content)
deriving DecidableEq, Repr

namespace Content

def events : Content → List Event
  | nil => []
  | aside rest => .declaration :: rest.events
  | text content rest => .text content :: rest.events
  | element tag inner rest => .opening tag :: (inner.events ++ .closing tag.name :: rest.events)
  | single tag rest => .single tag :: rest.events

/-- The elements of the content, each with its own content, but not the elements within them. -/
def elements : Content → List (Tag × Content)
  | nil => []
  | aside rest | text _ rest => rest.elements
  | element tag inner rest => (tag, inner) :: rest.elements
  | single tag rest => (tag, nil) :: rest.elements

/-- The texts of the content, but not those within its elements. -/
def texts : Content → List String
  | nil => []
  | text content rest => content :: rest.texts
  | aside rest | element _ _ rest | single _ rest => rest.texts

theorem openAfterAll?_events (content : Content) (opened : List String) :
    Event.openAfterAll? opened content.events = some opened := by
  induction content generalizing opened with
  | nil => rfl
  | aside rest ih => exact ih opened
  | text content rest ih => exact ih opened
  | single tag rest ih => exact ih opened
  | element tag inner rest ihinner ih =>
    have hopening : Event.openAfter? opened (.opening tag) = some (tag.name :: opened) := rfl
    have hclosing : Event.openAfter? (tag.name :: opened) (.closing tag.name) = some opened := by
      simp [Event.openAfter?]
    rw [events, Event.openAfterAll?, hopening, Option.bind_some, Event.openAfterAll?_append,
      ihinner, Option.bind_some, Event.openAfterAll?, hclosing, Option.bind_some, ih]

/-- Events that close the open elements one after another, with content before each closing tag
    and after the last. -/
def Unwinds : List String → List Event → Prop
  | [], events => ∃ content : Content, content.events = events
  | name :: others, events =>
    ∃ (content : Content) (rest : List Event),
      content.events ++ .closing name :: rest = events ∧ Unwinds others rest

theorem Unwinds.prepend {opened : List String} {rest : List Event}
    (h : Unwinds opened rest) (first : List Event) (f : Content → Content)
    (hf : ∀ content, (f content).events = first ++ content.events) :
    Unwinds opened (first ++ rest) := by
  cases opened with
  | nil =>
    obtain ⟨content, rfl⟩ := h
    exact ⟨f content, hf content⟩
  | cons name others =>
    obtain ⟨content, more, rfl, hothers⟩ := h
    exact ⟨f content, more, by rw [hf, List.append_assoc], hothers⟩

theorem unwinds_of_openAfterAll? {opened : List String} {events : List Event}
    (h : Event.openAfterAll? opened events = some []) : Unwinds opened events := by
  induction events generalizing opened with
  | nil =>
    obtain rfl : opened = [] := Option.some.inj h
    exact ⟨nil, rfl⟩
  | cons event rest ih =>
    obtain ⟨next, hnext, hrest⟩ := Option.bind_eq_some_iff.1 h
    have hunwinds := ih hrest
    cases event with
    | declaration =>
      obtain rfl : opened = next := Option.some.inj hnext
      exact hunwinds.prepend [.declaration] aside fun _ => rfl
    | text content =>
      obtain rfl : opened = next := Option.some.inj hnext
      exact hunwinds.prepend [.text content] (text content) fun _ => rfl
    | single tag =>
      obtain rfl : opened = next := Option.some.inj hnext
      exact hunwinds.prepend [.single tag] (single tag) fun _ => rfl
    | opening tag =>
      obtain rfl : tag.name :: opened = next := Option.some.inj hnext
      obtain ⟨inner, more, rfl, hothers⟩ := hunwinds
      have helement := hothers.prepend (.opening tag :: (inner.events ++ [.closing tag.name]))
        (element tag inner) (by intro content; simp [events])
      simpa using helement
    | closing name =>
      cases opened with
      | nil => simp [Event.openAfter?] at hnext
      | cons innermost others =>
        obtain ⟨hname, rfl⟩ : name = innermost ∧ others = next := by
          simpa [Event.openAfter?] using hnext
        exact ⟨nil, rest, by rw [hname]; rfl, hunwinds⟩

/-- **Well-nested events are content**, and content is well nested. -/
theorem exists_content_iff (events : List Event) :
    (∃ content : Content, content.events = events) ↔ Event.openAfterAll? [] events = some [] := by
  constructor
  · rintro ⟨content, rfl⟩
    exact openAfterAll?_events content []
  · exact unwinds_of_openAfterAll?

end Content
end SchemaDump.Markup
