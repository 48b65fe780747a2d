/-
  SchemaDump/Proofs/Document/Assembly.lean
  ========================================
  **A document put together from loose parts.**

  A reader may keep the scopes that are open on a stack and, beside it, one part
  of each kind: the dump, the table, the row and the field that are being
  gathered.  Such a state has room for what cannot be, such as a field without a
  row to go to, and closing an element there would drop it without a word.

  The cursor has no such places.  It is what is left of the state once the stack
  and the parts agree (`Cursor.assembly`): one event moves both alike, whether it
  is taken or refused (`after_assembly`), and so does a run of events.  Every
  state that can be reached is therefore that of a cursor, where the stack
  follows the nesting of a document, a part is there exactly while its scope is
  open, and whatever is closed finds the part that it goes into.
-/
import Mathlib.Tactic.SplitIfs
import SchemaDump.Document.Cursor
import SchemaDump.Proofs.Checked

namespace SchemaDump.Document

open Markup (Tag Event)

/-! ### Scopes -/

/-- What an open element is to the reader. -/
inductive Scope where
  | root
  | database
  | tableStructure
  | tableData
  | row
  /-- A field of a row, which holds text. -/
  | value
  /-- A column or a key, which holds nothing. -/
  | leaf (element : Element)
  /-- The options of a table and whatever stands in them. -/
  | skipped
deriving DecidableEq, Repr

/-- The element that an error within the scope names. -/
def Scope.element : Scope → Element
  | root => .root
  | database => .database
  | tableStructure => .tableStructure
  | tableData => .tableData
  | row => .row
  | value => .field
  | leaf element => element
  | skipped => .options

/-- Which scopes may stand directly within which. -/
inductive Scope.Holds : Scope → Scope → Prop
  | database : Holds root database
  | tableStructure : Holds database tableStructure
  | tableData : Holds database tableData
  | column : Holds tableStructure (leaf .field)
  | key : Holds tableStructure (leaf .key)
  | options : Holds tableStructure skipped
  | skipped : Holds skipped skipped
  | row : Holds tableData row
  | value : Holds row value

/-- Scopes that may be open at one time, the innermost first. -/
inductive IsNested : List Scope → Prop
  | outside : IsNested []
  | root : IsNested [.root]
  | within {inner outer : Scope} {rest : List Scope} (hholds : outer.Holds inner)
      (houter : IsNested (outer :: rest)) : IsNested (inner :: outer :: rest)

/-! ### The state -/

/-- The open scopes, the innermost first, and the parts that are being gathered. -/
structure Assembly where
  scopes : List Scope := []
  rootSeen : Bool := false
  database : Option Dump := none
  tableStructure : Option TableStructure := none
  tableData : Option TableData := none
  row : Option Row := none
  field : Option Field := none
deriving DecidableEq, Repr

namespace Assembly

def entered (assembly : Assembly) (scope : Scope) : Assembly :=
  { assembly with scopes := scope :: assembly.scopes }

/-- Opens an element.  A column or key goes into the structure that is being gathered, if any. -/
def opened (assembly : Assembly) (tag : Tag) : Except Malformed Assembly :=
  match assembly.scopes with
  | [] =>
    if assembly.rootSeen then .error (.elementAfterRoot tag.name)
    else if tag.name == "mysqldump" || tag.name == "dump" then
      .ok ({ assembly with rootSeen := true }.entered .root)
    else .error (.unexpectedRoot tag.name)
  | .root :: _ =>
    if tag.name == "database" then
      if assembly.database.isSome then .error .secondDatabase
      else .ok ({ assembly with database := some ⟨tag.getOrEmpty "name", []⟩ }.entered .database)
    else .error (.unexpectedElement tag.name .root)
  | .database :: _ =>
    if tag.name == "table_structure" then
      (require .tableStructure tag "name").map fun name =>
        { assembly with tableStructure := some ⟨name, [], []⟩ }.entered .tableStructure
    else if tag.name == "table_data" then
      (require .tableData tag "name").map fun name =>
        { assembly with tableData := some ⟨name, []⟩ }.entered .tableData
    else .error (.unexpectedElement tag.name .database)
  | .tableStructure :: _ =>
    if tag.name == "field" then
      (readColumn tag).map fun column =>
        { assembly with
          tableStructure := assembly.tableStructure.map fun table : TableStructure =>
            { table with columns := table.columns ++ [column] } }.entered (.leaf .field)
    else if tag.name == "key" then
      (readKey tag).map fun part =>
        { assembly with
          tableStructure := assembly.tableStructure.map fun table : TableStructure =>
            { table with keys := table.keys ++ [part] } }.entered (.leaf .key)
    else if tag.name == "options" then .ok (assembly.entered .skipped)
    else .error (.unexpectedElement tag.name .tableStructure)
  | .tableData :: _ =>
    if tag.name == "row" then .ok ({ assembly with row := some ⟨[]⟩ }.entered .row)
    else .error (.unexpectedElement tag.name .tableData)
  | .row :: _ =>
    if tag.name == "field" then
      (require .field tag "name").map fun name =>
        { assembly with field := some ⟨name, if isNil tag then none else some ""⟩ }.entered .value
    else .error (.unexpectedElement tag.name .row)
  | .skipped :: _ => .ok (assembly.entered .skipped)
  | scope :: _ => .error (.unexpectedElement tag.name scope.element)

/-- Closes the innermost element.  What it became goes into the part around it if both are
    there; otherwise it is dropped. -/
def closed (assembly : Assembly) : Except Malformed Assembly :=
  match assembly.scopes with
  | [] => .error .unmatchedEnd
  | .tableStructure :: outer =>
    let left := { assembly with scopes := outer, tableStructure := none }
    match assembly.tableStructure, assembly.database with
    | some table, some dump => .ok { left with database := some (dump.push (.ofStructure table)) }
    | _, _ => .ok left
  | .tableData :: outer =>
    let left := { assembly with scopes := outer, tableData := none }
    match assembly.tableData, assembly.database with
    | some table, some dump => .ok { left with database := some (dump.push (.ofData table)) }
    | _, _ => .ok left
  | .row :: outer =>
    let left := { assembly with scopes := outer, row := none }
    match assembly.row, assembly.tableData with
    | some row, some table =>
      .ok { left with tableData := some { table with rows := table.rows ++ [row] } }
    | _, _ => .ok left
  | .value :: outer =>
    let left := { assembly with scopes := outer, field := none }
    match assembly.field, assembly.row with
    | some field, some row => .ok { left with row := some ⟨row.fields ++ [field]⟩ }
    | _, _ => .ok left
  | _ :: outer => .ok { assembly with scopes := outer }

def withText (assembly : Assembly) (text : String) : Except Malformed Assembly :=
  match assembly.scopes.head?, assembly.field with
  | some .value, some ⟨name, some value⟩ =>
    .ok { assembly with field := some ⟨name, some (value ++ text)⟩ }
  | some .skipped, _ => .ok assembly
  | scope, _ =>
    if Text.blankOnly text then .ok assembly
    else .error (.unexpectedText (scope.map Scope.element))

/-- An element without content is opened and closed at once; the name of a closing tag does not
    matter here. -/
def after (assembly : Assembly) : Event → Except Malformed Assembly
  | .declaration => .ok assembly
  | .opening tag => assembly.opened tag
  | .single tag => do (← assembly.opened tag).closed
  | .closing _ => assembly.closed
  | .text content => assembly.withText content

def afterAll (assembly : Assembly) (events : List Event) : Except Malformed Assembly :=
  events.foldlM after assembly

/-- The dump at the end of a document. -/
def dump (assembly : Assembly) : Except Malformed Dump :=
  if !assembly.rootSeen then .error .missingRoot
  else match assembly.scopes with
    | scope :: _ => .error (.unexpectedEnd scope.element)
    | [] => match assembly.database with
      | some dump => .ok dump
      | none => .error .missingDatabase

/-- Reads a document through loose parts. -/
def read (text : String) : Except Malformed Dump := do
  let events := Event.readAll text
  let assembly ← ({} : Assembly).afterAll events.items
  match events.failure with
  | some fault => throw (.markup fault)
  | none => assembly.dump

end Assembly

/-! ### The state of a cursor -/

/-- The loose parts that a cursor stands for. -/
def Cursor.assembly : Cursor → Assembly
  | start => {}
  | root read => { scopes := [.root], rootSeen := true, database := read }
  | database dump => { scopes := [.database, .root], rootSeen := true, database := dump }
  | tableStructure dump table =>
    { scopes := [.tableStructure, .database, .root], rootSeen := true, database := dump,
      tableStructure := table }
  | column dump table =>
    { scopes := [.leaf .field, .tableStructure, .database, .root], rootSeen := true,
      database := dump, tableStructure := table }
  | key dump table =>
    { scopes := [.leaf .key, .tableStructure, .database, .root], rootSeen := true,
      database := dump, tableStructure := table }
  | options dump table depth =>
    { scopes := .skipped :: (List.replicate depth .skipped ++ [.tableStructure, .database, .root]),
      rootSeen := true, database := dump, tableStructure := table }
  | tableData dump table =>
    { scopes := [.tableData, .database, .root], rootSeen := true, database := dump,
      tableData := table }
  | row dump table fields =>
    { scopes := [.row, .tableData, .database, .root], rootSeen := true, database := dump,
      tableData := table, row := fields }
  | field dump table fields last =>
    { scopes := [.value, .row, .tableData, .database, .root], rootSeen := true, database := dump,
      tableData := table, row := fields, field := last }
  | finish read => { rootSeen := true, database := read }

namespace Assembly

open Checked (map_eq_ok_iff)

/-- **An element opens in a cursor's state as it does at the cursor.** -/
theorem opened_assembly (cursor : Cursor) (tag : Tag) :
    cursor.assembly.opened tag = (cursor.opened tag).map Cursor.assembly := by
  cases cursor with
  | start =>
    simp only [Cursor.assembly, opened, Cursor.opened, Bool.false_eq_true, if_false]
    split <;> rfl
  | root held =>
    simp only [Cursor.assembly, opened, Cursor.opened]
    cases held <;> split_ifs <;> rfl
  | database dump =>
    simp only [Cursor.assembly, opened, Cursor.opened]
    split_ifs
    · cases require .tableStructure tag "name" <;> rfl
    · cases require .tableData tag "name" <;> rfl
    · rfl
  | tableStructure dump table =>
    simp only [Cursor.assembly, opened, Cursor.opened]
    split_ifs
    · cases readColumn tag <;> rfl
    · cases readKey tag <;> rfl
    · rfl
    · rfl
  | tableData dump table =>
    simp only [Cursor.assembly, opened, Cursor.opened]
    split_ifs <;> rfl
  | row dump table row =>
    simp only [Cursor.assembly, opened, Cursor.opened]
    split
    · cases require .field tag "name" <;> rfl
    · rfl
  | _ => rfl

/-- **An element closes in a cursor's state as it does at the cursor.** -/
theorem closed_assembly (cursor : Cursor) :
    cursor.assembly.closed = cursor.closed.map Cursor.assembly := by
  cases cursor with
  | options dump table depth => cases depth <;> rfl
  | _ => rfl

theorem withText_assembly (cursor : Cursor) (text : String) :
    cursor.assembly.withText text = (cursor.withText text).map Cursor.assembly := by
  cases cursor with
  | options dump table depth => rfl
  | field dump table row field =>
    obtain ⟨name, _ | value⟩ := field
    · simp only [Cursor.assembly, withText, Cursor.withText]
      split_ifs <;> rfl
    · rfl
  | _ =>
    simp only [Cursor.assembly, withText, Cursor.withText]
    split_ifs <;> rfl

/-- **One event does the same to a cursor and to its state**, and is refused for the same
    reason. -/
theorem after_assembly (cursor : Cursor) (event : Event) :
    cursor.assembly.after event = (cursor.after event).map Cursor.assembly := by
  cases event with
  | declaration => rfl
  | opening tag => exact opened_assembly cursor tag
  | closing name => exact closed_assembly cursor
  | text content => exact withText_assembly cursor content
  | single tag =>
    simp only [after, Cursor.after, opened_assembly]
    cases cursor.opened tag with
    | error cause => rfl
    | ok inside => exact closed_assembly inside

theorem afterAll_assembly (cursor : Cursor) (events : List Event) :
    cursor.assembly.afterAll events = (cursor.afterAll events).map Cursor.assembly := by
  induction events generalizing cursor with
  | nil => rfl
  | cons event rest ih =>
    simp only [afterAll, Cursor.afterAll, List.foldlM_cons, after_assembly]
    cases cursor.after event with
    | error cause => rfl
    | ok next => exact ih next

theorem dump_assembly (cursor : Cursor) : cursor.assembly.dump = cursor.dump := by
  cases cursor with
  | finish database => cases database <;> rfl
  | _ => rfl

/-- **Reading through loose parts is reading**: the same dumps and the same refusals. -/
theorem read_eq (text : String) : read text = Document.read text := by
  have hrun : ({} : Assembly).afterAll (Event.readAll text).items
      = (Cursor.start.afterAll (Event.readAll text).items).map Cursor.assembly :=
    afterAll_assembly .start _
  simp only [read, Document.read, hrun]
  cases Cursor.start.afterAll (Event.readAll text).items with
  | error cause => rfl
  | ok cursor =>
    cases (Event.readAll text).failure with
    | some fault => rfl
    | none => exact dump_assembly cursor

/-! ### What holds of every state that can be reached -/

/-- The stack follows the nesting of a document, and a part is there exactly while its scope is
    open; the dump stays when its scope is closed. -/
structure IsSound (assembly : Assembly) : Prop where
  nested : IsNested assembly.scopes
  database : .database ∈ assembly.scopes → assembly.database.isSome = true
  tableStructure : assembly.tableStructure.isSome = true ↔ .tableStructure ∈ assembly.scopes
  tableData : assembly.tableData.isSome = true ↔ .tableData ∈ assembly.scopes
  row : assembly.row.isSome = true ↔ .row ∈ assembly.scopes
  field : assembly.field.isSome = true ↔ .value ∈ assembly.scopes

/-- Scopes within the options of a table, however deep. -/
theorem isNested_options (depth : Nat) :
    IsNested (.skipped :: (List.replicate depth .skipped
      ++ [.tableStructure, .database, .root])) := by
  induction depth with
  | zero => exact .within .options (.within .tableStructure (.within .database .root))
  | succ depth ih => exact .within .skipped ih

theorem isNested_assembly (cursor : Cursor) : IsNested cursor.assembly.scopes := by
  cases cursor with
  | start => exact .outside
  | root database => exact .root
  | database dump => exact .within .database .root
  | tableStructure dump table => exact .within .tableStructure (.within .database .root)
  | column dump table =>
    exact .within .column (.within .tableStructure (.within .database .root))
  | key dump table => exact .within .key (.within .tableStructure (.within .database .root))
  | options dump table depth => exact isNested_options depth
  | tableData dump table => exact .within .tableData (.within .database .root)
  | row dump table row => exact .within .row (.within .tableData (.within .database .root))
  | field dump table row field =>
    exact .within .value (.within .row (.within .tableData (.within .database .root)))
  | finish database => exact .outside

theorem isSound_assembly (cursor : Cursor) : cursor.assembly.IsSound where
  nested := isNested_assembly cursor
  database := by cases cursor <;> simp [Cursor.assembly]
  tableStructure := by cases cursor <;> simp [Cursor.assembly]
  tableData := by cases cursor <;> simp [Cursor.assembly]
  row := by cases cursor <;> simp [Cursor.assembly]
  field := by cases cursor <;> simp [Cursor.assembly]

/-! ### Nothing is dropped -/

/-- Whatever is closed is there and so is the part that it goes into, and that is where it ends
    up; so do the columns and keys of a structure. -/
structure KeepsParts (assembly : Assembly) : Prop where
  tableStructure : ∀ outer, assembly.scopes = .tableStructure :: outer →
    ∃ table dump, assembly.tableStructure = some table ∧ assembly.database = some dump
      ∧ assembly.closed = .ok { assembly with
          scopes := outer, tableStructure := none,
          database := some (dump.push (.ofStructure table)) }
  tableData : ∀ outer, assembly.scopes = .tableData :: outer →
    ∃ table dump, assembly.tableData = some table ∧ assembly.database = some dump
      ∧ assembly.closed = .ok { assembly with
          scopes := outer, tableData := none,
          database := some (dump.push (.ofData table)) }
  row : ∀ outer, assembly.scopes = .row :: outer →
    ∃ row table, assembly.row = some row ∧ assembly.tableData = some table
      ∧ assembly.closed = .ok { assembly with
          scopes := outer, row := none,
          tableData := some { table with rows := table.rows ++ [row] } }
  field : ∀ outer, assembly.scopes = .value :: outer →
    ∃ field row, assembly.field = some field ∧ assembly.row = some row
      ∧ assembly.closed = .ok { assembly with
          scopes := outer, field := none, row := some ⟨row.fields ++ [field]⟩ }
  column : ∀ outer tag column, assembly.scopes = .tableStructure :: outer →
    tag.name = "field" → readColumn tag = .ok column →
    ∃ table, assembly.tableStructure = some table
      ∧ assembly.opened tag = .ok ({ assembly with
          tableStructure := some { table with columns := table.columns ++ [column] } }.entered
            (.leaf .field))
  key : ∀ outer tag part, assembly.scopes = .tableStructure :: outer →
    tag.name = "key" → readKey tag = .ok part →
    ∃ table, assembly.tableStructure = some table
      ∧ assembly.opened tag = .ok ({ assembly with
          tableStructure := some { table with keys := table.keys ++ [part] } }.entered
            (.leaf .key))

namespace IsSound

variable {assembly : Assembly}

/-- What may stand in one scope only finds that scope around it. -/
theorem mem_of_scopes (h : assembly.IsSound) {inner outer : Scope} {rest : List Scope}
    (hscopes : assembly.scopes = inner :: rest) (hinner : inner ≠ .root)
    (honly : ∀ scope : Scope, scope.Holds inner → scope = outer) : outer ∈ assembly.scopes := by
  have hnested := h.nested
  rw [hscopes] at hnested ⊢
  cases hnested with
  | root => exact absurd rfl hinner
  | within hholds houter =>
    rw [honly _ hholds]
    exact List.mem_cons_of_mem _ List.mem_cons_self

/-- Where a scope and the one around it have their parts, both are there to be put together. -/
theorem exists_parts (h : assembly.IsSound) {inner outer : Scope} {rest : List Scope}
    {Part Whole : Type} {part : Option Part} {whole : Option Whole}
    (hscopes : assembly.scopes = inner :: rest) (hinner : inner ≠ .root)
    (honly : ∀ scope : Scope, scope.Holds inner → scope = outer)
    (hpart : inner ∈ assembly.scopes → part.isSome = true)
    (hwhole : outer ∈ assembly.scopes → whole.isSome = true) :
    ∃ held around, part = some held ∧ whole = some around := by
  have hhere : inner ∈ assembly.scopes := hscopes ▸ List.mem_cons_self
  obtain ⟨held, hheld⟩ := Option.isSome_iff_exists.1 (hpart hhere)
  obtain ⟨around, haround⟩ :=
    Option.isSome_iff_exists.1 (hwhole (h.mem_of_scopes hscopes hinner honly))
  exact ⟨held, around, hheld, haround⟩

/-- **Where stack and parts agree, nothing is dropped.** -/
theorem keepsParts (h : assembly.IsSound) : assembly.KeepsParts where
  tableStructure := by
    intro outer hscopes
    obtain ⟨table, dump, htable, hdump⟩ := h.exists_parts hscopes (by decide)
      (fun scope hholds => by cases hholds; rfl) h.tableStructure.2 h.database
    refine ⟨table, dump, htable, hdump, ?_⟩
    simp only [closed, hscopes, htable, hdump]
  tableData := by
    intro outer hscopes
    obtain ⟨table, dump, htable, hdump⟩ := h.exists_parts hscopes (by decide)
      (fun scope hholds => by cases hholds; rfl) h.tableData.2 h.database
    refine ⟨table, dump, htable, hdump, ?_⟩
    simp only [closed, hscopes, htable, hdump]
  row := by
    intro outer hscopes
    obtain ⟨row, table, hrow, htable⟩ := h.exists_parts hscopes (by decide)
      (fun scope hholds => by cases hholds; rfl) h.row.2 h.tableData.2
    refine ⟨row, table, hrow, htable, ?_⟩
    simp only [closed, hscopes, hrow, htable]
  field := by
    intro outer hscopes
    obtain ⟨field, row, hfield, hrow⟩ := h.exists_parts hscopes (by decide)
      (fun scope hholds => by cases hholds; rfl) h.field.2 h.row.2
    refine ⟨field, row, hfield, hrow, ?_⟩
    simp only [closed, hscopes, hfield, hrow]
  column := by
    intro outer tag column hscopes hname hcolumn
    have hhere : .tableStructure ∈ assembly.scopes := hscopes ▸ List.mem_cons_self
    obtain ⟨table, htable⟩ := Option.isSome_iff_exists.1 (h.tableStructure.2 hhere)
    refine ⟨table, htable, ?_⟩
    simp only [opened, hscopes, hname, hcolumn, htable]
    rfl
  key := by
    intro outer tag part hscopes hname hpart
    have hhere : .tableStructure ∈ assembly.scopes := hscopes ▸ List.mem_cons_self
    obtain ⟨table, htable⟩ := Option.isSome_iff_exists.1 (h.tableStructure.2 hhere)
    refine ⟨table, htable, ?_⟩
    simp only [opened, hscopes, hname, hpart, htable]
    rfl

end IsSound

/-- **In every state that a run of events reaches, stack and parts agree and nothing is dropped**,
    and so it is in the state that an element without content is closed in.  The state is that of
    the cursor which goes along the same events. -/
theorem isSound_of_afterAll {events : List Event} {assembly : Assembly}
    (h : ({} : Assembly).afterAll events = .ok assembly) :
    assembly.IsSound ∧ assembly.KeepsParts
      ∧ (∀ tag inside, assembly.opened tag = .ok inside → inside.IsSound ∧ inside.KeepsParts)
      ∧ ∃ cursor, Cursor.start.afterAll events = .ok cursor ∧ cursor.assembly = assembly := by
  have hrun : (Cursor.start.afterAll events).map Cursor.assembly = .ok assembly := by
    rw [← afterAll_assembly, ← h]
    rfl
  obtain ⟨cursor, hcursor, rfl⟩ := map_eq_ok_iff.1 hrun
  have hsound := isSound_assembly cursor
  refine ⟨hsound, hsound.keepsParts, ?_, cursor, hcursor, rfl⟩
  intro tag inside hinside
  rw [opened_assembly] at hinside
  obtain ⟨next, -, rfl⟩ := map_eq_ok_iff.1 hinside
  exact ⟨isSound_assembly next, (isSound_assembly next).keepsParts⟩

/-- A document as far as a field: a table with options is read, of its data one field is NULL
    and the next one open. -/
def openFieldEvents : List Event :=
  [.declaration, .opening ⟨"dump", []⟩, .text "\n", .opening ⟨"database", [⟨"name", "site"⟩]⟩,
    .opening ⟨"table_structure", [⟨"name", "#__visits"⟩]⟩,
    .single ⟨"field", [⟨"Field", "id"⟩, ⟨"Type", "int(11)"⟩, ⟨"Null", "no"⟩]⟩,
    .opening ⟨"options", []⟩, .opening ⟨"row", []⟩, .text "any", .single ⟨"field", []⟩,
    .closing "row", .closing "options", .closing "table_structure",
    .opening ⟨"table_data", [⟨"name", "#__visits"⟩]⟩, .opening ⟨"row", []⟩,
    .single ⟨"field", [⟨"name", "seen"⟩, ⟨"xsi:nil", "1"⟩]⟩,
    .opening ⟨"field", [⟨"name", "id"⟩]⟩, .text "4", .text "2"]

def openField : Assembly where
  scopes := [.value, .row, .tableData, .database, .root]
  rootSeen := true
  database := some
    ⟨"site", [.ofStructure ⟨"#__visits", [⟨"id", "int(11)", false, "", none, "", ""⟩], []⟩]⟩
  tableData := some ⟨"#__visits", []⟩
  row := some ⟨[⟨"seen", none⟩]⟩
  field := some ⟨"id", some "42"⟩

theorem isSound_openField :
    ({} : Assembly).afterAll openFieldEvents = .ok openField
      ∧ openField.IsSound ∧ openField.KeepsParts
      ∧ (∀ tag inside, openField.opened tag = .ok inside → inside.IsSound ∧ inside.KeepsParts)
      ∧ ∃ cursor, Cursor.start.afterAll openFieldEvents = .ok cursor
        ∧ cursor.assembly = openField :=
  have hrun : ({} : Assembly).afterAll openFieldEvents = .ok openField := by decide +kernel
  ⟨hrun, isSound_of_afterAll hrun⟩

end Assembly
end SchemaDump.Document
