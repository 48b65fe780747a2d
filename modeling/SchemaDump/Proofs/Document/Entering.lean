/-
  SchemaDump/Proofs/Document/Entering.lean
  ========================================
  **The cursor along nested content.**

  Over content the cursor moves element by element: it enters a child, goes
  along what is inside and leaves it again, and is back where the same elements
  are open (`path_of_afterAll_events`).  Where text means nothing, going along
  content is therefore entering its elements, one after another, with nothing
  but blanks between them (`afterAll_events_iff`).
-/
import SchemaDump.Proofs.Document.Cursor
import SchemaDump.Proofs.Document.Grammar

namespace SchemaDump.Document.Cursor

open Markup (Tag Content)
open Checked (bind_ok bind_eq_ok_iff)

def enter (cursor : Cursor) (child : Tag × Content) : Except Malformed Cursor :=
  ((cursor.opened child.1).bind fun inside => inside.afterAll child.2.events).bind closed

theorem enter_eq_ok_iff {cursor next : Cursor} {child : Tag × Content} :
    cursor.enter child = .ok next
      ↔ ∃ inside last, cursor.opened child.1 = .ok inside
        ∧ inside.afterAll child.2.events = .ok last ∧ last.closed = .ok next := by
  constructor
  · intro h
    obtain ⟨last, hlast, hclosed⟩ := bind_eq_ok_iff.1 h
    obtain ⟨inside, hinside, halong⟩ := bind_eq_ok_iff.1 hlast
    exact ⟨inside, last, hinside, halong, hclosed⟩
  · rintro ⟨inside, last, hinside, halong, hclosed⟩
    exact bind_eq_ok_iff.2 ⟨last, bind_eq_ok_iff.2 ⟨inside, hinside, halong⟩, hclosed⟩

theorem afterAll_events_element (cursor : Cursor) (tag : Tag) (inner rest : Content) :
    cursor.afterAll (Content.element tag inner rest).events
      = (cursor.enter (tag, inner)).bind fun next => next.afterAll rest.events := by
  simp only [Content.events, afterAll_cons, after, enter]
  cases cursor.opened tag with
  | error cause => rfl
  | ok inside =>
    simp only [bind_ok, afterAll_append]
    cases inside.afterAll inner.events with
    | error cause => rfl
    | ok last => rfl

theorem afterAll_events_single (cursor : Cursor) (tag : Tag) (rest : Content) :
    cursor.afterAll (Content.single tag rest).events
      = (cursor.enter (tag, .nil)).bind fun next => next.afterAll rest.events := by
  simp only [Content.events, afterAll_cons, after, enter]
  cases cursor.opened tag with
  | error cause => rfl
  | ok inside => rfl

/-! ### The path along content -/

theorem path_of_enter {cursor next : Cursor} {tag : Tag} {inner : Content}
    (hinner : ∀ {inside last : Cursor},
      inside.afterAll inner.events = .ok last → last.path = inside.path)
    (h : cursor.enter (tag, inner) = .ok next) : next.path = cursor.path := by
  obtain ⟨inside, last, hinside, halong, hclosed⟩ := enter_eq_ok_iff.1 h
  obtain ⟨element, hpath⟩ := path_of_opened hinside
  rw [path_of_closed hclosed, hinner halong, hpath, List.tail_cons]

/-- Content leaves the same elements open. -/
theorem path_of_afterAll_events {content : Content} {cursor last : Cursor}
    (h : cursor.afterAll content.events = .ok last) : last.path = cursor.path := by
  induction content generalizing cursor last with
  | nil =>
    obtain rfl := Except.ok.inj h
    rfl
  | aside rest ih => exact ih h
  | text text rest ih =>
    obtain ⟨next, hnext, hrest⟩ := bind_eq_ok_iff.1 h
    rw [ih hrest, path_of_withText hnext]
  | element tag inner rest ihinner ih =>
    rw [afterAll_events_element] at h
    obtain ⟨next, hnext, hrest⟩ := bind_eq_ok_iff.1 h
    rw [ih hrest, path_of_enter ihinner hnext]
  | single tag rest ih =>
    rw [afterAll_events_single] at h
    obtain ⟨next, hnext, hrest⟩ := bind_eq_ok_iff.1 h
    have hnil : ∀ {inside last : Cursor},
        inside.afterAll Content.nil.events = .ok last → last.path = inside.path := by
      intro inside last hlast
      obtain rfl := Except.ok.inj hlast
      rfl
    rw [ih hrest, path_of_enter hnil hnext]

/-- Where text means nothing before an element, it means nothing after it. -/
theorem takesText_of_enter {cursor next : Cursor} {child : Tag × Content}
    (htext : cursor.takesText = false) (h : cursor.enter child = .ok next) :
    next.takesText = false := by
  have hpath : next.path = cursor.path := path_of_enter path_of_afterAll_events h
  cases next with
  | options dump table depth =>
    exfalso
    cases cursor with
    | options dump table depth => simp [takesText] at htext
    | _ => simp [path, List.replicate_succ] at hpath
  | field dump table row last =>
    exfalso
    cases cursor with
    | field dump table row last =>
      -- A field has no elements within it, whether it is NULL or not.
      simp [enter, opened] at h
    | options dump table depth => simp [takesText] at htext
    | _ => simp [path] at hpath
  | _ => rfl

/-! ### Content where text means nothing -/

theorem enter_bind_iff {cursor last : Cursor} {child : Tag × Content} {rest : Content}
    (htext : cursor.takesText = false)
    (hrest : ∀ {next : Cursor}, next.takesText = false →
      (next.afterAll rest.events = .ok last
        ↔ IsBlank rest ∧ rest.elements.foldlM enter next = .ok last)) :
    ((cursor.enter child).bind fun next => next.afterAll rest.events) = .ok last
      ↔ IsBlank rest ∧ (child :: rest.elements).foldlM enter cursor = .ok last := by
  rw [List.foldlM_cons]
  cases h : cursor.enter child with
  | error cause => simp [bind]
  | ok next => exact hrest (takesText_of_enter htext h)

/-- **Where text means nothing, going along content is entering its elements.** -/
theorem afterAll_events_iff {cursor last : Cursor} (htext : cursor.takesText = false)
    (content : Content) :
    cursor.afterAll content.events = .ok last
      ↔ IsBlank content ∧ content.elements.foldlM enter cursor = .ok last := by
  induction content generalizing cursor with
  | nil =>
    constructor
    · intro h
      exact ⟨fun text hmem => absurd hmem List.not_mem_nil, h⟩
    · exact fun h => h.2
  | aside rest ih => exact ih htext
  | text text rest ih =>
    have hblank : IsBlank (.text text rest) ↔ Text.blankOnly text = true ∧ IsBlank rest :=
      List.forall_mem_cons
    have hstep : cursor.afterAll (Content.text text rest).events
        = (cursor.withText text).bind fun next => next.afterAll rest.events := rfl
    rw [hstep, hblank, withText_of_not_takesText htext]
    by_cases hb : Text.blankOnly text = true
    · rw [if_pos hb, bind_ok, ih htext]
      simp only [hb, true_and]
      rfl
    · simp [hb]
  | element tag inner rest ihinner ih =>
    rw [afterAll_events_element]
    exact enter_bind_iff htext ih
  | single tag rest ih =>
    rw [afterAll_events_single]
    exact enter_bind_iff htext ih

/-- Elements that each add one part to what has been gathered at a place add a list of parts. -/
theorem foldlM_enter_iff {β : Type} {R : Tag × Content → β → Prop} (place : List β → Cursor)
    (h : ∀ done child next,
      (place done).enter child = .ok next ↔ ∃ part, R child part ∧ next = place (done ++ [part]))
    (children : List (Tag × Content)) (done : List β) (last : Cursor) :
    children.foldlM enter (place done) = .ok last
      ↔ ∃ parts, List.Forall₂ R children parts ∧ last = place (done ++ parts) := by
  induction children generalizing done with
  | nil =>
    constructor
    · intro hlast
      obtain rfl := Except.ok.inj hlast
      exact ⟨[], .nil, by rw [List.append_nil]⟩
    · rintro ⟨parts, hparts, rfl⟩
      cases hparts
      rw [List.append_nil]
      rfl
  | cons child rest ih =>
    rw [List.foldlM_cons]
    constructor
    · intro hlast
      obtain ⟨next, hnext, hrest⟩ := bind_eq_ok_iff.1 hlast
      obtain ⟨part, hpart, rfl⟩ := (h done child next).1 hnext
      obtain ⟨parts, hparts, rfl⟩ := (ih (done ++ [part])).1 hrest
      exact ⟨part :: parts, .cons hpart hparts, by rw [List.append_assoc, List.singleton_append]⟩
    · rintro ⟨parts, hparts, rfl⟩
      cases hparts with
      | cons hpart hmore =>
        rename_i part more
        refine bind_eq_ok_iff.2 ⟨place (done ++ [part]), (h done child _).2 ⟨part, hpart, rfl⟩, ?_⟩
        exact (ih (done ++ [part])).2
          ⟨more, hmore, by rw [List.append_assoc, List.singleton_append]⟩

end SchemaDump.Document.Cursor
