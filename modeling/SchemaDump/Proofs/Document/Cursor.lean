/-
  SchemaDump/Proofs/Document/Cursor.lean
  ======================================
  **How the cursor moves along events.**

  Moving along a list of events is moving along its parts, one after another,
  up to the first failure.  Between elements the cursor passes over blank texts:
  the two places where text means something else are the value of a field and
  the options of a table.
-/
import Mathlib.Tactic.SplitIfs
import SchemaDump.Document.Cursor
import SchemaDump.Proofs.Checked
import SchemaDump.Proofs.Markup.Content

namespace SchemaDump.Document.Cursor

open Markup (Tag Event)
open Checked (bind_eq_ok_iff map_eq_ok_iff)

@[simp] theorem afterAll_nil (cursor : Cursor) : cursor.afterAll [] = .ok cursor := rfl

@[simp] theorem afterAll_cons (cursor : Cursor) (event : Event) (rest : List Event) :
    cursor.afterAll (event :: rest) = (cursor.after event).bind fun next => next.afterAll rest :=
  rfl

theorem afterAll_append (cursor : Cursor) (first second : List Event) :
    cursor.afterAll (first ++ second)
      = (cursor.afterAll first).bind fun next => next.afterAll second := by
  induction first generalizing cursor with
  | nil => rfl
  | cons event rest ih =>
    rw [List.cons_append, afterAll_cons, afterAll_cons]
    cases cursor.after event with
    | error cause => rfl
    | ok next => exact ih next

/-! ### Where text means nothing -/

/-- Whether text at the place belongs to a value or to options. -/
def takesText : Cursor → Bool
  | field _ _ _ ⟨_, some _⟩ | options _ _ _ => true
  | _ => false

/-- Where text means nothing, a blank one is passed over and any other refused. -/
theorem withText_of_not_takesText {cursor : Cursor} (h : cursor.takesText = false)
    (text : String) :
    cursor.withText text
      = if Text.blankOnly text then .ok cursor else .error (.unexpectedText cursor.element?) := by
  cases cursor with
  | field dump table row last =>
    obtain ⟨name, value⟩ := last
    cases value with
    | none => rfl
    | some value => simp [takesText] at h
  | options dump table depth => simp [takesText] at h
  | _ => rfl

/-! ### The open elements -/

/-- The elements that are open around the place, the innermost first. -/
def path : Cursor → List Element
  | start | finish _ => []
  | root _ => [.root]
  | database _ => [.database, .root]
  | tableStructure _ _ => [.tableStructure, .database, .root]
  | column _ _ => [.field, .tableStructure, .database, .root]
  | key _ _ => [.key, .tableStructure, .database, .root]
  | options _ _ depth =>
    List.replicate (depth + 1) .options ++ [.tableStructure, .database, .root]
  | tableData _ _ => [.tableData, .database, .root]
  | row _ _ _ => [.row, .tableData, .database, .root]
  | field _ _ _ _ => [.field, .row, .tableData, .database, .root]

/-- **Opening an element adds it to the path.** -/
theorem path_of_opened {cursor next : Cursor} {tag : Tag} (h : cursor.opened tag = .ok next) :
    ∃ element, next.path = element :: cursor.path := by
  cases cursor with
  | start =>
    simp only [opened] at h
    split_ifs at h
    obtain rfl := Except.ok.inj h
    exact ⟨_, rfl⟩
  | root database =>
    simp only [opened] at h
    split_ifs at h
    cases database with
    | none =>
      obtain rfl := Except.ok.inj h
      exact ⟨_, rfl⟩
    | some dump => cases h
  | database dump =>
    simp only [opened] at h
    split_ifs at h
    · obtain ⟨name, -, rfl⟩ := map_eq_ok_iff.1 h
      exact ⟨_, rfl⟩
    · obtain ⟨name, -, rfl⟩ := map_eq_ok_iff.1 h
      exact ⟨_, rfl⟩
  | tableStructure dump table =>
    simp only [opened] at h
    split_ifs at h
    · obtain ⟨read, -, rfl⟩ := map_eq_ok_iff.1 h
      exact ⟨_, rfl⟩
    · obtain ⟨read, -, rfl⟩ := map_eq_ok_iff.1 h
      exact ⟨_, rfl⟩
    · obtain rfl := Except.ok.inj h
      exact ⟨_, rfl⟩
  | options dump table depth =>
    obtain rfl := Except.ok.inj h
    exact ⟨.options, by simp [path, List.replicate_succ]⟩
  | tableData dump table =>
    simp only [opened] at h
    split_ifs at h
    obtain rfl := Except.ok.inj h
    exact ⟨_, rfl⟩
  | row dump table fields =>
    simp only [opened] at h
    by_cases hname : (tag.name == "field") = true
    · rw [if_pos hname] at h
      obtain ⟨name, -, rfl⟩ := map_eq_ok_iff.1 h
      exact ⟨_, rfl⟩
    · rw [if_neg hname] at h
      cases h
  | _ => cases h

/-- **Closing takes the innermost element off the path.** -/
theorem path_of_closed {cursor next : Cursor} (h : cursor.closed = .ok next) :
    next.path = cursor.path.tail := by
  cases cursor with
  | options dump table depth =>
    cases depth with
    | zero =>
      obtain rfl := Except.ok.inj h
      rfl
    | succ depth =>
      obtain rfl := Except.ok.inj h
      simp [path, List.replicate_succ]
  | start | finish database => cases h
  | _ =>
    obtain rfl := Except.ok.inj h
    rfl

theorem path_of_withText {cursor next : Cursor} {text : String}
    (h : cursor.withText text = .ok next) : next.path = cursor.path := by
  cases htext : cursor.takesText with
  | false =>
    rw [withText_of_not_takesText htext] at h
    split_ifs at h
    obtain rfl := Except.ok.inj h
    rfl
  | true =>
    cases cursor with
    | field dump table row last =>
      obtain ⟨name, value⟩ := last
      cases value with
      | none => simp [takesText] at htext
      | some value =>
        obtain rfl := Except.ok.inj h
        rfl
    | options dump table depth =>
      obtain rfl := Except.ok.inj h
      rfl
    | _ => simp [takesText] at htext

/-- **The path is as long as the list of open elements**, along all events that are accepted. -/
theorem length_path_of_afterAll {events : List Event} {cursor last : Cursor}
    {opened remaining : List String} (h : cursor.afterAll events = .ok last)
    (ho : Event.openAfterAll? opened events = some remaining)
    (hlength : cursor.path.length = opened.length) : last.path.length = remaining.length := by
  induction events generalizing cursor opened with
  | nil =>
    obtain rfl := Except.ok.inj h
    obtain rfl := Option.some.inj ho
    exact hlength
  | cons event rest ih =>
    obtain ⟨next, hnext, hrest⟩ := bind_eq_ok_iff.1 h
    obtain ⟨names, hnames, horest⟩ := Option.bind_eq_some_iff.1 ho
    refine ih hrest horest ?_
    cases event with
    | declaration =>
      obtain rfl := Except.ok.inj hnext
      obtain rfl := Option.some.inj hnames
      exact hlength
    | text content =>
      obtain rfl := Option.some.inj hnames
      rw [path_of_withText hnext, hlength]
    | opening tag =>
      obtain rfl := Option.some.inj hnames
      obtain ⟨element, hpath⟩ := path_of_opened hnext
      simp [hpath, hlength]
    | single tag =>
      obtain rfl := Option.some.inj hnames
      obtain ⟨inside, hinside, hclosed⟩ := bind_eq_ok_iff.1 hnext
      obtain ⟨element, hpath⟩ := path_of_opened hinside
      rw [path_of_closed hclosed, hpath, List.tail_cons, hlength]
    | closing name =>
      have hpath := path_of_closed hnext
      cases opened with
      | nil => simp [Event.openAfter?] at hnames
      | cons innermost others =>
        obtain ⟨-, rfl⟩ : name = innermost ∧ others = names := by
          simpa [Event.openAfter?] using hnames
        rw [hpath, List.length_tail, hlength]
        rfl

end SchemaDump.Document.Cursor
