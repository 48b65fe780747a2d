/-
  SchemaDump/Proofs/Document/Truncation.lean
  ==========================================
  **A truncated document is refused.**

  The root element stays open until the last tag of a written document, so a
  document that breaks off before the end of that tag either ends within an
  element, or has none at all, or is no sound markup.  After the last tag only
  the line feed is left, which may be missing.
-/
import SchemaDump.Proofs.Document.Acceptance
import SchemaDump.Proofs.Document.RoundTrip
import SchemaDump.Proofs.Markup.Truncated

namespace SchemaDump

open Markup (Content Event Layout Tag)

/-! ### Elements that stay open -/

namespace Markup.Event

theorem openAfterAll?_of_isText {texts : List Event} (h : ∀ event ∈ texts, event.isText = true)
    (opened : List String) : openAfterAll? opened texts = some opened := by
  induction texts with
  | nil => rfl
  | cons event texts ih =>
    rw [List.forall_mem_cons] at h
    cases event with
    | text content => exact ih h.2
    | _ => cases h.1

/-- Line breaks open and close nothing. -/
theorem openAfterAll?_heardAll (events : List Event) (layout : Layout) (opened : List String) :
    openAfterAll? opened (layout.heardAll events) = openAfterAll? opened events := by
  have hgap : ∀ (margin : Layout) (names : List String),
      openAfterAll? names margin.gap = some names := by
    intro margin names
    unfold Layout.gap
    split_ifs <;> rfl
  induction events generalizing layout opened with
  | nil => rfl
  | cons event events ih =>
    have hheard : openAfterAll? opened (layout.heard event) = openAfter? opened event := by
      cases event with
      | declaration => exact hgap layout opened
      | text content =>
        rw [Layout.heard]
        split_ifs <;> rfl
      | _ =>
        rw [Layout.heard, openAfterAll?_append, hgap]
        simp [openAfterAll?]
    rw [Layout.heardAll, openAfterAll?_append, hheard, openAfterAll?]
    congr 1
    funext next
    exact ih (layout.after event) next

/-- Elements around events stay open along them. -/
theorem openAfterAll?_within {events : List Event} {opened last : List String}
    (h : openAfterAll? opened events = some last) (outer : List String) :
    openAfterAll? (opened ++ outer) events = some (last ++ outer) := by
  induction events generalizing opened with
  | nil =>
    obtain rfl := Option.some.inj h
    rfl
  | cons event events ih =>
    obtain ⟨next, hnext, hlast⟩ := Option.bind_eq_some_iff.1 h
    have houter : openAfter? (opened ++ outer) event = some (next ++ outer) := by
      cases event with
      | closing name =>
        cases opened with
        | nil => cases hnext
        | cons innermost others =>
          simp only [openAfter?, List.cons_append] at hnext ⊢
          split_ifs at hnext ⊢
          obtain rfl := Option.some.inj hnext
          rfl
      | _ =>
        obtain rfl := Option.some.inj hnext
        rfl
    rw [openAfterAll?, houter, Option.bind_some, ih hlast]

end Markup.Event

/-- Content that is all text has no elements. -/
theorem Markup.Content.elements_of_isText {content : Content}
    (h : ∀ event ∈ content.events, event.isText = true) : content.elements = [] := by
  induction content with
  | nil => rfl
  | text text rest ih =>
    rw [Content.events, List.forall_mem_cons] at h
    exact ih h.2
  | _ =>
    rw [Content.events, List.forall_mem_cons] at h
    cases h.1

namespace Document

/-- **The root stays open until the last event**: before it, either an element is open or the
    root has not been opened yet. -/
theorem heardAll_of_closed {dump : Dump} {first more : List Event}
    (h : events dump = first ++ more) (hmore : more ≠ [])
    (hclosed : Event.openAfterAll? [] first = some []) : Layout.heardAll {} first = [] := by
  -- all events between the opening and the closing of the root
  let inner := [Event.opening ⟨"database", [⟨"name", dump.database⟩]⟩]
    ++ dump.entries.flatMap entryEvents ++ [Event.closing "database"]
  have hinner : IsBlock inner := IsBlock.element ⟨"database", [⟨"name", dump.database⟩]⟩
    (namedTag_isWritable (by decide) dump.database) (entries_isBlock dump.entries)
  have hevents : events dump = Event.declaration
      :: Event.opening ⟨"mysqldump", [⟨"xmlns:xsi", "http://www.w3.org/2001/XMLSchema-instance"⟩]⟩
      :: (inner ++ [Event.closing "mysqldump"]) := by
    simp [events, startEvents, endEvents, inner]
  rw [hevents] at h
  cases first with
  | nil => rfl
  | cons event first =>
    obtain ⟨hdeclaration, htail⟩ := List.cons.inj h
    subst hdeclaration
    cases first with
    | nil => rfl
    | cons root first =>
      obtain ⟨hroot, hinside⟩ := List.cons.inj htail
      subst hroot
      obtain ⟨init, event, rfl⟩ := (List.eq_nil_or_concat' more).resolve_left hmore
      have hsplit : inner ++ [Event.closing "mysqldump"] = first ++ init ++ [event] :=
        hinside.trans (List.append_assoc first init [event]).symm
      have hbegins : inner = first ++ init := List.append_inj_left' hsplit rfl
      have hbalanced := hinner.balanced []
      rw [hbegins, Event.openAfterAll?_append] at hbalanced
      obtain ⟨opened, hopened, -⟩ := Option.bind_eq_some_iff.1 hbalanced
      have hwithin := Event.openAfterAll?_within hopened ["mysqldump"]
      have hnil : opened ++ ["mysqldump"] = [] := Option.some.inj (hwithin.symm.trans hclosed)
      simp at hnil

/-! ### Documents that break off -/

/-- A beginning of a written document has no mark of byte order. -/
theorem readAll_of_append {dump : Dump} {part rest : String} (h : write dump = part ++ rest) :
    Event.readAll part = Event.readFrom [] part.toList := by
  obtain ⟨tail, htail⟩ := exists_write_eq_angle dump
  rw [h, String.toList_append] at htail
  rw [Event.readAll]
  cases hpart : part.toList with
  | nil => rfl
  | cons c cs =>
    rw [hpart, List.cons_append] at htail
    obtain ⟨rfl, -⟩ := List.cons.inj htail
    rfl

theorem toList_write (dump : Dump) :
    (write dump).toList = (String.join (Layout.writeAll {} (events dump))).toList ++ ['\n'] := by
  simp [write]

theorem exists_read_eq_error {dump : Dump} {part rest : String} (h : write dump = part ++ rest)
    (hrest : 2 ≤ rest.length) : ∃ cause, read part = .error cause := by
  have hlist : (String.join (Layout.writeAll {} (events dump))).toList ++ ['\n']
      = part.toList ++ rest.toList := by
    rw [← toList_write, h, String.toList_append]
  have hlength : 2 ≤ rest.toList.length := hrest
  -- the break is before the end of the last tag
  obtain ⟨more, last, hmore⟩ := (List.eq_nil_or_concat' rest.toList).resolve_left <| by
    intro hnil
    rw [hnil] at hlength
    cases hlength
  have hne : more ≠ [] := by
    rintro rfl
    rw [hmore] at hlength
    simp at hlength
  rw [hmore, ← List.append_assoc] at hlist
  have hcut := List.append_inj_left' hlist rfl
  have hbreak := Event.readFrom_truncated (events_isWritable dump) (events_textsApart dump)
    (openAfterAll?_events dump) {} hcut hne
  rw [← readAll_of_append h] at hbreak
  cases hread : read part with
  | error cause => exact ⟨cause, rfl⟩
  | ok other =>
    obtain ⟨hfailure, content, hcontent, hdocument⟩ := (read_eq_ok_iff part other).1 hread
    rcases hbreak with hfault | ⟨first, left, texts, hsplit, hleft, htexts, hitems⟩
    · exact absurd hfailure hfault
    · have hopen := content.openAfterAll?_events []
      rw [hcontent, hitems, Event.openAfterAll?_append, Event.openAfterAll?_heardAll] at hopen
      obtain ⟨opened, hfirst, htail⟩ := Option.bind_eq_some_iff.1 hopen
      rw [Event.openAfterAll?_of_isText htexts] at htail
      obtain rfl := Option.some.inj htail
      rw [heardAll_of_closed hsplit hleft hfirst, List.nil_append] at hitems
      have helements := Content.elements_of_isText (hcontent.trans hitems ▸ htexts)
      obtain ⟨root, hroot, -⟩ := hdocument.root
      rw [helements] at hroot
      cases hroot

/-! ### The line feed at the end -/

/-- A blank text at the end changes nothing. -/
theorem dump_withText (cursor : Cursor) {text : String} (h : Text.blankOnly text = true) :
    (cursor.withText text).bind Cursor.dump = cursor.dump := by
  cases htakes : cursor.takesText with
  | false =>
    rw [Cursor.withText_of_not_takesText htakes, if_pos h]
    rfl
  | true =>
    cases cursor with
    | field dump table row last =>
      obtain ⟨name, value⟩ := last
      cases value with
      | none => cases htakes
      | some value => rfl
    | options dump table depth => rfl
    | _ => cases htakes

theorem read_of_readAll {text : String} {items : List Event}
    (h : Event.readAll text = .ofList items) :
    read text = (Cursor.start.afterAll items).bind Cursor.dump := by
  rw [read, h]
  rfl

theorem read_without_lineFeed {dump : Dump} {part rest : String} (h : write dump = part ++ rest)
    (hrest : rest.length = 1) : read part = read (write dump) := by
  have hlist : (String.join (Layout.writeAll {} (events dump))).toList ++ ['\n']
      = part.toList ++ rest.toList := by
    rw [← toList_write, h, String.toList_append]
  have hlength : rest.toList.length = 1 := hrest
  have hpart := List.append_inj_left' hlist hlength.symm
  have hread := Event.readFrom_written (events_isWritable dump) (events_textsApart dump)
    (openAfterAll?_events dump) {} []
  rw [List.append_nil, hpart, ← readAll_of_append h] at hread
  have hitems : Event.readAll part = .ofList (Layout.heardAll {} (events dump)) := by
    have hnil : Event.readFrom [] [] = .ofList [] := by
      rw [Event.readFrom, Markup.Lexeme.readAll]
      rfl
    rw [hread, hnil, Run.ofList_append]
    simp [Run.ofList]
  rw [read_of_readAll hitems, read_of_readAll (readAll_write dump), Cursor.afterAll_append]
  cases Cursor.start.afterAll (Layout.heardAll {} (events dump)) with
  | error cause => rfl
  | ok last =>
    have hblank := dump_withText last (show Text.blankOnly "\n" = true from rfl)
    rw [Checked.bind_ok, Checked.bind_ok, Cursor.afterAll_cons, Cursor.after, ← hblank]
    cases last.withText "\n" <;> rfl

/-- **A written document that breaks off is refused**, wherever it does; only the line feed at its
    end may be missing. -/
theorem read_of_write_eq_append (dump : Dump) (part rest : String) (h : write dump = part ++ rest) :
    (2 ≤ rest.length → ∃ cause, read part = .error cause)
      ∧ (rest.length = 1 → read part = read (write dump)) :=
  ⟨exists_read_eq_error h, read_without_lineFeed h⟩

def oneFieldDump : Dump := ⟨"", [.ofData ⟨"#__t", [⟨[⟨"id", some "<4"⟩]⟩]⟩]⟩

/-- The text of the dump up to a place within a reference. -/
def oneFieldStart : String :=
  "<?xml version=\"1.0\"?>
<mysqldump xmlns:xsi=\"http://www.w3.org/2001/XMLSchema-instance\">
 <database name=\"\">
  <table_data name=\"#__t\">
   <row>
    <field name=\"id\">&l"

def oneFieldRest : String :=
  "t;4</field>
   </row>
  </table_data>
 </database>
</mysqldump>"

theorem write_oneFieldDump : write oneFieldDump = oneFieldStart ++ oneFieldRest ++ "\n" := by
  simp [write, oneFieldDump, oneFieldStart, oneFieldRest, events, startEvents, endEvents,
    entryEvents, dataStartEvents, dataEndEvents, rowEvents, fieldEvents, Layout.writeAll,
    Layout.write, Layout.after, Layout.indent, Tag.write, Tag.writeAttribute, Markup.escape,
    Markup.escapedChar]

theorem read_oneFieldStart :
    (∃ cause, read oneFieldStart = .error cause)
      ∧ read (oneFieldStart ++ oneFieldRest) = read (write oneFieldDump) :=
  have hstart : write oneFieldDump = oneFieldStart ++ (oneFieldRest ++ "\n") := by
    rw [write_oneFieldDump, String.append_assoc]
  have hlength : 2 ≤ (oneFieldRest ++ "\n").length := by cbv
  ⟨(read_of_write_eq_append oneFieldDump _ _ hstart).1 hlength,
    (read_of_write_eq_append oneFieldDump _ _ write_oneFieldDump).2 (by rfl)⟩

end Document
end SchemaDump
