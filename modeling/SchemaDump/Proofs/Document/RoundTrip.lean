/-
  SchemaDump/Proofs/Document/RoundTrip.lean
  =========================================
  **A written document reads back.**

  The writer and the reader of documents are two machines: one keeps a layout,
  the other a cursor.  They are compared block by block.  The line breaks of the
  layout reach the cursor as blank texts between elements, where it passes over
  them, and along each block it adds to the dump exactly the part that the block
  was written for.  There is one exception: a key part must have a position, and
  the position 0 is refused.
-/
import SchemaDump.Proofs.Document.Attributes
import SchemaDump.Proofs.Document.Block
import SchemaDump.Proofs.Document.Cursor
import SchemaDump.Proofs.Output.Writer

namespace SchemaDump

/-! ### Positions of keys -/

def KeyPart.isNumbered (part : KeyPart) : Bool := decide (0 < part.position)

/-- Whether all keys of an entry have positions; an entry of rows has no keys. -/
def Entry.isNumbered : Entry → Bool
  | .ofStructure table => table.keys.all KeyPart.isNumbered
  | .ofData _ => true

def Dump.isNumbered (dump : Dump) : Bool := dump.entries.all Entry.isNumbered

/-- Every key part of the dump has a position, counted from 1. -/
def Dump.IsNumbered (dump : Dump) : Prop :=
  ∀ table ∈ dump.structures, ∀ part ∈ table.keys, 1 ≤ part.position

theorem Dump.isNumbered_iff (dump : Dump) : dump.isNumbered = true ↔ dump.IsNumbered := by
  have hpart : ∀ part : KeyPart, part.isNumbered = true ↔ 1 ≤ part.position := by
    intro part
    rw [KeyPart.isNumbered, decide_eq_true_eq, UInt32.lt_iff_toNat_lt, UInt32.le_iff_toNat_le]
    exact Iff.rfl
  simp only [isNumbered, IsNumbered, mem_structures_iff, List.all_eq_true]
  constructor
  · intro h table hentry part hmem
    have hkeys := h _ hentry
    rw [Entry.isNumbered, List.all_eq_true] at hkeys
    exact (hpart part).1 (hkeys part hmem)
  · intro h entry hentry
    cases entry with
    | ofStructure table =>
      rw [Entry.isNumbered, List.all_eq_true]
      intro part hmem
      exact (hpart part).2 (h table hentry part hmem)
    | ofData table => rfl

namespace Document

open Markup (Tag Event Layout)

/-! ### The cursor along blocks -/

theorem blankOnly_indent (layout : Layout) : Text.blankOnly layout.indent = true := by
  unfold Layout.indent
  split
  · simp [Text.blankOnly, Text.isBlank]
  · rfl

theorem afterAll_gap (cursor : Cursor) (h : cursor.takesText = false) (layout : Layout) :
    cursor.afterAll layout.gap = .ok cursor := by
  unfold Layout.gap
  split
  · simp [Cursor.after, Cursor.withText_of_not_takesText h, blankOnly_indent]
  · rfl

/-- Along an element the cursor goes in, along what is in the element, and out again. -/
theorem afterAll_element {cursor inside : Cursor} {tag : Tag} {inner : List Event} {depth : Nat}
    (hinner : IsBlock inner) (hcursor : cursor.takesText = false)
    (hopened : cursor.opened tag = .ok inside) (name : String) {reached : Except Malformed Cursor}
    (hinside : inside.afterAll (Layout.heardAll ⟨depth + 1, true⟩ inner) = reached)
    (hreached : ∀ last, reached = .ok last → last.takesText = false) :
    cursor.afterAll
        (Layout.heardAll ⟨depth, true⟩ ([Event.opening tag] ++ inner ++ [Event.closing name]))
      = reached.bind Cursor.closed := by
  rw [heardAll_element (hinner.aligned (depth + 1)), Cursor.afterAll_append,
    afterAll_gap cursor hcursor]
  simp only [Checked.bind_ok, List.singleton_append, Cursor.afterAll_cons, Cursor.after, hopened]
  rw [Cursor.afterAll_append, hinside]
  cases reached with
  | error cause => rfl
  | ok last =>
    rw [Checked.bind_ok, Checked.bind_ok, Cursor.afterAll_append,
      afterAll_gap last (hreached last rfl)]
    simp only [Checked.bind_ok, Cursor.afterAll_cons, Cursor.after, Cursor.afterAll_nil]
    cases last.closed <;> rfl

/-- Along one block after another the cursor gathers what they were written for, up to the first
    that is refused. -/
theorem afterAll_flatMap {α : Type} {f : α → List Event} (place : List α → Cursor)
    (accepts : α → Bool) (failure : Malformed) {depth : Nat} (hblock : ∀ a, IsBlock (f a))
    (step : ∀ done a, (place done).afterAll (Layout.heardAll ⟨depth, true⟩ (f a))
      = if accepts a then .ok (place (done ++ [a])) else .error failure)
    (xs done : List α) :
    (place done).afterAll (Layout.heardAll ⟨depth, true⟩ (xs.flatMap f))
      = if xs.all accepts then .ok (place (done ++ xs)) else .error failure := by
  induction xs generalizing done with
  | nil => simp [Layout.heardAll]
  | cons a xs ih =>
    rw [List.flatMap_cons, Layout.heardAll_append, (hblock a).aligned, Cursor.afterAll_append,
      step]
    cases ha : accepts a with
    | false => simp [ha]
    | true => simp [ha, ih]

theorem afterAll_fieldEvents (dump : Dump) (table : TableData) (depth : Nat)
    (done : List Field) (field : Field) :
    (Cursor.row dump table ⟨done⟩).afterAll (Layout.heardAll ⟨depth, true⟩ (fieldEvents field))
      = .ok (.row dump table ⟨done ++ [field]⟩) := by
  have hgap := afterAll_gap (.row dump table ⟨done⟩) rfl ⟨depth, true⟩
  obtain ⟨name, value⟩ := field
  cases value with
  | none =>
    rw [heardAll_null, Cursor.afterAll_append, hgap]
    rfl
  | some value =>
    rw [heardAll_value, Cursor.afterAll_append, hgap]
    cases hvalue : value.toList.isEmpty with
    | true =>
      obtain rfl : value = "" := by simpa using hvalue
      rfl
    | false =>
      simp [Cursor.after, Cursor.opened, require, Tag.get?, isNil, Except.map, Cursor.withText,
        Cursor.closed]

theorem afterAll_rowEvents (dump : Dump) (name : String) (depth : Nat) (done : List Row)
    (row : Row) :
    (Cursor.tableData dump ⟨name, done⟩).afterAll
        (Layout.heardAll ⟨depth, true⟩ (rowEvents row))
      = .ok (.tableData dump ⟨name, done ++ [row]⟩) := by
  have hinside : (Cursor.row dump ⟨name, done⟩ ⟨[]⟩).afterAll
      (Layout.heardAll ⟨depth + 1, true⟩ (row.fields.flatMap fieldEvents))
      = .ok (.row dump ⟨name, done⟩ row) := by
    have hfields := afterAll_flatMap (fun fields => .row dump ⟨name, done⟩ ⟨fields⟩)
      (fun _ => true) .missingRoot fieldEvents_isBlock
      (fun fields field => afterAll_fieldEvents dump ⟨name, done⟩ (depth + 1) fields field)
      row.fields []
    simpa using hfields
  rw [rowEvents, afterAll_element (IsBlock.flatMap fieldEvents_isBlock _) rfl rfl _ hinside]
  · rfl
  · intro last hlast
    obtain rfl := Except.ok.inj hlast
    rfl

theorem afterAll_dataEvents (name : String) (depth : Nat) (done : List Entry)
    (table : TableData) :
    (Cursor.database ⟨name, done⟩).afterAll
        (Layout.heardAll ⟨depth, true⟩ (entryEvents (.ofData table)))
      = .ok (.database ⟨name, done ++ [Entry.ofData table]⟩) := by
  have hinside : (Cursor.tableData ⟨name, done⟩ ⟨table.name, []⟩).afterAll
      (Layout.heardAll ⟨depth + 1, true⟩ (table.rows.flatMap rowEvents))
      = .ok (.tableData ⟨name, done⟩ table) := by
    have hrows := afterAll_flatMap (fun rows => .tableData ⟨name, done⟩ ⟨table.name, rows⟩)
      (fun _ => true) .missingRoot rowEvents_isBlock
      (fun rows row => afterAll_rowEvents ⟨name, done⟩ table.name (depth + 1) rows row)
      table.rows []
    simpa using hrows
  have hevents : entryEvents (.ofData table)
      = [Event.opening ⟨"table_data", [⟨"name", table.name⟩]⟩] ++ table.rows.flatMap rowEvents
        ++ [Event.closing "table_data"] := rfl
  rw [hevents, afterAll_element (IsBlock.flatMap rowEvents_isBlock _) rfl rfl _ hinside]
  · rfl
  · intro last hlast
    obtain rfl := Except.ok.inj hlast
    rfl

theorem afterAll_column (dump : Dump) (name : String) (keys : List KeyPart) (depth : Nat)
    (done : List Column) (column : Column) :
    (Cursor.tableStructure dump ⟨name, done, keys⟩).afterAll
        (Layout.heardAll ⟨depth, true⟩ [Event.single (columnTag column)])
      = .ok (.tableStructure dump ⟨name, done ++ [column], keys⟩) := by
  have hheard : Layout.heardAll ⟨depth, true⟩ [Event.single (columnTag column)]
      = Layout.gap ⟨depth, true⟩ ++ [Event.single (columnTag column)] := rfl
  have hopened : (Cursor.tableStructure dump ⟨name, done, keys⟩).opened (columnTag column)
      = (readColumn (columnTag column)).map fun read =>
        .column dump ⟨name, done ++ [read], keys⟩ := rfl
  rw [readColumn_columnTag] at hopened
  rw [hheard, Cursor.afterAll_append, afterAll_gap _ rfl, Checked.bind_ok, Cursor.afterAll_cons,
    Cursor.after, hopened]
  rfl

theorem afterAll_key (dump : Dump) (name : String) (columns : List Column) (depth : Nat)
    (done : List KeyPart) (part : KeyPart) :
    (Cursor.tableStructure dump ⟨name, columns, done⟩).afterAll
        (Layout.heardAll ⟨depth, true⟩ [Event.single (keyTag part)])
      = if part.isNumbered then .ok (.tableStructure dump ⟨name, columns, done ++ [part]⟩)
        else .error (.invalidPosition "0") := by
  have hheard : Layout.heardAll ⟨depth, true⟩ [Event.single (keyTag part)]
      = Layout.gap ⟨depth, true⟩ ++ [Event.single (keyTag part)] := rfl
  have hopened : (Cursor.tableStructure dump ⟨name, columns, done⟩).opened (keyTag part)
      = (readKey (keyTag part)).map fun read =>
        .key dump ⟨name, columns, done ++ [read]⟩ := rfl
  rw [readKey_keyTag] at hopened
  rw [hheard, Cursor.afterAll_append, afterAll_gap _ rfl, Checked.bind_ok, Cursor.afterAll_cons,
    Cursor.after, hopened]
  simp only [KeyPart.isNumbered, decide_eq_true_eq]
  split_ifs <;> rfl

theorem afterAll_structureEvents (name : String) (depth : Nat) (done : List Entry)
    (table : TableStructure) :
    (Cursor.database ⟨name, done⟩).afterAll
        (Layout.heardAll ⟨depth, true⟩ (entryEvents (.ofStructure table)))
      = if table.keys.all KeyPart.isNumbered then .ok (.database ⟨name, done ++ [Entry.ofStructure table]⟩)
        else .error (.invalidPosition "0") := by
  have hcolumns := afterAll_flatMap
    (fun columns => .tableStructure ⟨name, done⟩ ⟨table.name, columns, []⟩)
    (fun _ => true) .missingRoot (fun column => IsBlock.single (columnTag_isWritable column))
    (afterAll_column ⟨name, done⟩ table.name [] (depth + 1)) table.columns []
  have hkeys := afterAll_flatMap
    (fun keys => .tableStructure ⟨name, done⟩ ⟨table.name, table.columns, keys⟩)
    KeyPart.isNumbered (.invalidPosition "0") (fun part => IsBlock.single (keyTag_isWritable part))
    (afterAll_key ⟨name, done⟩ table.name table.columns (depth + 1)) table.keys []
  have hinside : (Cursor.tableStructure ⟨name, done⟩ ⟨table.name, [], []⟩).afterAll
      (Layout.heardAll ⟨depth + 1, true⟩ (partEvents table))
      = if table.keys.all KeyPart.isNumbered then .ok (.tableStructure ⟨name, done⟩ table)
        else .error (.invalidPosition "0") := by
    have halign := (IsBlock.flatMap
      (fun column => IsBlock.single (columnTag_isWritable column)) table.columns).aligned
    rw [partEvents, Layout.heardAll_append, halign, Cursor.afterAll_append, hcolumns]
    simpa using hkeys
  rw [entryEvents, structureEvents_eq,
    afterAll_element (partEvents_isBlock table) rfl rfl _ hinside]
  · split_ifs <;> rfl
  · intro last hlast
    split_ifs at hlast
    obtain rfl := Except.ok.inj hlast
    rfl

/-! ### The whole document -/

theorem afterAll_entryEvents (name : String) (depth : Nat) (done : List Entry) (entry : Entry) :
    (Cursor.database ⟨name, done⟩).afterAll (Layout.heardAll ⟨depth, true⟩ (entryEvents entry))
      = if entry.isNumbered then .ok (.database ⟨name, done ++ [entry]⟩)
        else .error (.invalidPosition "0") := by
  cases entry with
  | ofStructure table => exact afterAll_structureEvents name depth done table
  | ofData table => exact afterAll_dataEvents name depth done table

/-- The text starts with an angle bracket, not with a mark of byte order. -/
theorem exists_write_eq_angle (dump : Dump) : ∃ rest, (write dump).toList = '<' :: rest := by
  obtain ⟨more, hmore⟩ : ∃ more, (Layout.write {} .declaration).toList = '<' :: more :=
    Event.exists_write_eq_angle {} rfl rfl
  have hfirst : Layout.writeAll {} (events dump)
      = Layout.write {} .declaration :: Layout.writeAll ⟨0, true⟩ (events dump).tail := rfl
  refine ⟨more ++ (String.join (Layout.writeAll ⟨0, true⟩ (events dump).tail) ++ "\n").toList, ?_⟩
  rw [write, hfirst, String.join_cons, String.append_assoc, String.toList_append, hmore]
  rfl

theorem events_textsApart (dump : Dump) : Event.textsApart (events dump) = true :=
  Event.textsApart_append (Event.textsApart_append rfl (entries_isBlock dump.entries).apart) rfl

theorem openAfterAll?_events (dump : Dump) : Event.openAfterAll? [] (events dump) = some [] := by
  rw [events, Event.openAfterAll?_append, Event.openAfterAll?_append]
  simp [startEvents, endEvents, Event.openAfterAll?, Event.openAfter?,
    (entries_isBlock dump.entries).balanced]

/-- **What a reader hears of a written document**: its events, line breaks between them and the
    line feed at the end. -/
theorem readAll_write (dump : Dump) :
    Event.readAll (write dump)
      = .ofList (Layout.heardAll {} (events dump) ++ [.text "\n"]) := by
  have hend : Event.readFrom [] ['\n'] = .ofList [.text "\n"] := by
    have hnext : Markup.Lexeme.next? '\n' [] = some (.text ['\n'], []) := rfl
    rw [Event.readFrom, Markup.Lexeme.readAll_of_next? hnext, Markup.Lexeme.readAll]
    rfl
  have hread := Event.readFrom_written (events_isWritable dump) (events_textsApart dump)
    (openAfterAll?_events dump) {} ['\n']
  have hlist : (write dump).toList
      = (String.join (Layout.writeAll {} (events dump))).toList ++ ['\n'] := by
    simp [write]
  obtain ⟨rest, hrest⟩ := exists_write_eq_angle dump
  have hfrom : Event.readAll (write dump) = Event.readFrom [] (write dump).toList := by
    rw [Event.readAll, hrest]
    rfl
  rw [hfrom, hlist, hread, hend]
  rfl

/-- What is heard of a written document: its start, its entries and its end. -/
theorem heardAll_events (dump : Dump) :
    Layout.heardAll {} (events dump)
      = Layout.heardAll {} (startEvents dump.database)
        ++ (Layout.heardAll ⟨2, true⟩ (dump.entries.flatMap entryEvents)
          ++ Layout.heardAll ⟨2, true⟩ endEvents) := by
  have hlayout : Layout.afterAll {} (startEvents dump.database) = ⟨2, true⟩ := rfl
  rw [events, Layout.heardAll_append, Layout.heardAll_append, Layout.afterAll_append, hlayout,
    (entries_isBlock dump.entries).aligned, List.append_assoc]

/-- **Reading a written document**, in all cases. -/
theorem read_write_eq (dump : Dump) :
    read (write dump)
      = if dump.isNumbered then .ok dump else .error (.invalidPosition "0") := by
  have hstart : Cursor.start.afterAll (Layout.heardAll {} (startEvents dump.database))
      = .ok (.database ⟨dump.database, []⟩) := rfl
  have hentries := afterAll_flatMap (fun entries => .database ⟨dump.database, entries⟩)
    Entry.isNumbered (.invalidPosition "0") entryEvents_isBlock
    (afterAll_entryEvents dump.database 2) dump.entries []
  have hend : ∀ entries, (Cursor.database ⟨dump.database, entries⟩).afterAll
      (Layout.heardAll ⟨2, true⟩ endEvents ++ [Event.text "\n"])
      = .ok (.finish (some ⟨dump.database, entries⟩)) := fun _ => rfl
  have hcursor : Cursor.start.afterAll (Layout.heardAll {} (events dump) ++ [Event.text "\n"])
      = if dump.isNumbered then .ok (.finish (some dump))
        else .error (.invalidPosition "0") := by
    rw [heardAll_events, List.append_assoc, List.append_assoc, Cursor.afterAll_append, hstart,
      Checked.bind_ok, Cursor.afterAll_append, hentries, Dump.isNumbered]
    split_ifs with h
    · rw [Checked.bind_ok, hend]
      rfl
    · rfl
  rw [read, readAll_write]
  simp only [Run.ofList, hcursor]
  split_ifs <;> rfl

theorem read_write_of_isNumbered {dump : Dump} (h : dump.IsNumbered) :
    read (write dump) = .ok dump := by
  rw [read_write_eq, if_pos ((Dump.isNumbered_iff dump).2 h)]

/-- **A document can always be written, and it reads back exactly if all keys have positions.**
    Otherwise it is refused for the first position 0. -/
theorem read_write_iff_isNumbered (dump : Dump) :
    (∃ opened closed : Writer,
        ({} : Writer).putAll (startEvents dump.database ++ dump.entries.flatMap entryEvents)
            = (opened, none)
          ∧ opened.finish = (closed, none) ∧ closed.sink.held = write dump)
      ∧ (read (write dump) = .ok dump ↔ dump.IsNumbered)
      ∧ (¬dump.IsNumbered → read (write dump) = .error (.invalidPosition "0")) := by
  refine ⟨?_, ?_, ?_⟩
  · refine ⟨_, _, Writer.putAll_of_unlimited rfl _, Writer.finish_of_unlimited rfl rfl, ?_⟩
    simp [write, events, Sink.push, Layout.writeAll_append, Layout.afterAll_append,
      String.append_assoc]
  · rw [read_write_eq, ← Dump.isNumbered_iff]
    split_ifs with h <;> simp [h]
  · intro h
    rw [← Dump.isNumbered_iff] at h
    rw [read_write_eq, if_neg h]

end Document
end SchemaDump
