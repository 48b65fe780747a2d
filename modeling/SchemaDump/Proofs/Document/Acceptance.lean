/-
  SchemaDump/Proofs/Document/Acceptance.lean
  ==========================================
  **The cursor accepts exactly the grammar.**

  Each place where elements may stand has one lemma: which children it can be
  led over, and what they add to what has been gathered there.  From the fields
  of a row outwards these give that a document is accepted with a dump as its
  result exactly if the grammar relates the two.
-/
import SchemaDump.Proofs.Document.Attributes
import SchemaDump.Proofs.Document.Entering

namespace SchemaDump.Document

open Markup (Tag Event Content)
open Cursor (enter enter_eq_ok_iff afterAll_events_iff foldlM_enter_iff)
open Checked (bind_ok bind_eq_ok_iff map_eq_ok_iff)

/-! ### Elements without elements -/

/-- What stands in the options of a table is passed over. -/
theorem afterAll_options (content : Content) (dump : Dump) (table : TableStructure) (depth : Nat) :
    (Cursor.options dump table depth).afterAll content.events
      = .ok (.options dump table depth) := by
  induction content generalizing depth with
  | nil => rfl
  | aside rest ih => exact ih depth
  | text text rest ih => exact ih depth
  | element tag inner rest ihinner ih =>
    have henter : (Cursor.options dump table depth).enter (tag, inner)
        = .ok (.options dump table depth) := by
      simp [enter, Cursor.opened, ihinner, Cursor.closed]
    rw [Cursor.afterAll_events_element, henter, bind_ok, ih]
  | single tag rest ih =>
    have henter : (Cursor.options dump table depth).enter (tag, .nil)
        = .ok (.options dump table depth) := rfl
    rw [Cursor.afterAll_events_single, henter, bind_ok, ih]

/-- The value of a field is the text within it. -/
theorem afterAll_value_iff {content : Content} {dump : Dump} {table : TableData} {row : Row}
    {name value : String} {last : Cursor} :
    (Cursor.field dump table row ⟨name, some value⟩).afterAll content.events = .ok last
      ↔ content.elements = []
        ∧ last = .field dump table row ⟨name, some (value ++ String.join content.texts)⟩ := by
  induction content generalizing value with
  | nil =>
    simp only [Content.events, Content.elements, Content.texts, Cursor.afterAll_nil,
      Except.ok.injEq, true_and]
    rw [show String.join [] = "" from rfl, String.append_empty]
    exact eq_comm
  | aside rest ih => exact ih
  | text text rest ih =>
    have hstep : (Cursor.field dump table row ⟨name, some value⟩).afterAll
          (Content.text text rest).events
        = (Cursor.field dump table row ⟨name, some (value ++ text)⟩).afterAll rest.events := rfl
    rw [hstep, ih, Content.elements, Content.texts, String.join_cons, String.append_assoc]
  | element tag inner rest ihinner ih =>
    simp [Cursor.afterAll_events_element, enter, Cursor.opened, Content.elements]
  | single tag rest ih =>
    simp [Cursor.afterAll_events_single, enter, Cursor.opened, Content.elements]

/-- Where no element may stand and text means nothing, content is empty. -/
theorem afterAll_leaf_iff {cursor last : Cursor} {content : Content}
    (htext : cursor.takesText = false) (hopened : ∀ tag next, cursor.opened tag ≠ .ok next) :
    cursor.afterAll content.events = .ok last ↔ IsEmpty content ∧ last = cursor := by
  rw [afterAll_events_iff htext, IsEmpty]
  cases content.elements with
  | nil =>
    constructor
    · rintro ⟨hblank, hlast⟩
      exact ⟨⟨rfl, hblank⟩, (Except.ok.inj hlast).symm⟩
    · rintro ⟨⟨-, hblank⟩, rfl⟩
      exact ⟨hblank, rfl⟩
  | cons child rest =>
    constructor
    · rintro ⟨-, hlast⟩
      obtain ⟨next, hnext, -⟩ := bind_eq_ok_iff.1 hlast
      obtain ⟨inside, -, hinside, -⟩ := enter_eq_ok_iff.1 hnext
      exact absurd hinside (hopened child.1 inside)
    · rintro ⟨⟨h, -⟩, -⟩
      cases h

theorem enter_leaf_iff {α : Type} {cursor next : Cursor} {child : Tag × Content}
    {read : Except Malformed α} {inside outside : α → Cursor}
    (hopened : cursor.opened child.1 = read.map inside)
    (htext : ∀ a, (inside a).takesText = false)
    (hleaf : ∀ a tag deeper, (inside a).opened tag ≠ .ok deeper)
    (hclosed : ∀ a, (inside a).closed = .ok (outside a)) :
    cursor.enter child = .ok next
      ↔ ∃ a, (read = .ok a ∧ IsEmpty child.2) ∧ next = outside a := by
  rw [enter_eq_ok_iff, hopened]
  constructor
  · rintro ⟨place, last, hplace, halong, hnext⟩
    obtain ⟨a, hread, rfl⟩ := map_eq_ok_iff.1 hplace
    obtain ⟨hempty, rfl⟩ := (afterAll_leaf_iff (htext a) (hleaf a)).1 halong
    rw [hclosed] at hnext
    exact ⟨a, ⟨hread, hempty⟩, (Except.ok.inj hnext).symm⟩
  · rintro ⟨a, ⟨hread, hempty⟩, rfl⟩
    refine ⟨inside a, inside a, map_eq_ok_iff.2 ⟨a, hread, rfl⟩, ?_, hclosed a⟩
    exact (afterAll_leaf_iff (htext a) (hleaf a)).2 ⟨hempty, rfl⟩

/-! ### Rows and their tables -/

/-- A place that takes elements of one name only. -/
theorem ite_name_eq_ok_iff {tag : Tag} {name : String} {read : Except Malformed Cursor}
    {cause : Malformed} {inside : Cursor} :
    (if tag.name == name then read else .error cause) = .ok inside
      ↔ tag.name = name ∧ read = .ok inside := by
  by_cases h : tag.name = name
  · simp [h]
  · simp [h]

theorem enter_row_iff {child : Tag × Content} {dump : Dump} {table : TableData} {row : Row}
    {next : Cursor} :
    (Cursor.row dump table row).enter child = .ok next
      ↔ ∃ field, IsField child field ∧ next = .row dump table ⟨row.fields ++ [field]⟩ := by
  rw [enter_eq_ok_iff]
  constructor
  · rintro ⟨inside, last, hinside, halong, hclosed⟩
    obtain ⟨htag, hread⟩ := ite_name_eq_ok_iff.1 hinside
    obtain ⟨name, hname, rfl⟩ := map_eq_ok_iff.1 hread
    have hname := require_eq_ok_iff.1 hname
    by_cases hnil : isNil child.1 = true
    · rw [if_pos hnil, afterAll_leaf_iff rfl (by simp [Cursor.opened])] at halong
      obtain ⟨⟨helements, hblank⟩, rfl⟩ := halong
      refine ⟨⟨name, none⟩, ⟨htag, hname, helements, ?_⟩, (Except.ok.inj hclosed).symm⟩
      rw [if_pos hnil]
      exact ⟨rfl, hblank⟩
    · rw [if_neg hnil, afterAll_value_iff, String.empty_append] at halong
      obtain ⟨helements, rfl⟩ := halong
      refine ⟨⟨name, some (String.join child.2.texts)⟩, ⟨htag, hname, helements, ?_⟩,
        (Except.ok.inj hclosed).symm⟩
      rw [if_neg hnil]
  · rintro ⟨⟨name, value⟩, h, rfl⟩
    refine ⟨.field dump table row ⟨name, if isNil child.1 then none else some ""⟩,
      .field dump table row ⟨name, value⟩, ite_name_eq_ok_iff.2 ⟨h.tag, ?_⟩, ?_, rfl⟩
    · exact map_eq_ok_iff.2 ⟨name, require_eq_ok_iff.2 h.name, rfl⟩
    · have hvalue := h.value
      by_cases hnil : isNil child.1 = true
      · rw [if_pos hnil] at hvalue ⊢
        obtain ⟨rfl, hblank⟩ := hvalue
        rw [afterAll_leaf_iff rfl (by simp [Cursor.opened])]
        exact ⟨⟨h.elements, hblank⟩, rfl⟩
      · rw [if_neg hnil] at hvalue ⊢
        obtain rfl : value = some (String.join child.2.texts) := hvalue
        rw [afterAll_value_iff, String.empty_append]
        exact ⟨h.elements, rfl⟩

theorem afterAll_row_iff {content : Content} {dump : Dump} {table : TableData} {last : Cursor} :
    (Cursor.row dump table ⟨[]⟩).afterAll content.events = .ok last
      ↔ IsBlank content ∧ ∃ fields, List.Forall₂ IsField content.elements fields
        ∧ last = .row dump table ⟨fields⟩ := by
  rw [afterAll_events_iff rfl]
  exact and_congr_right fun _ =>
    foldlM_enter_iff (fun fields => .row dump table ⟨fields⟩) (fun _ _ _ => enter_row_iff) _ [] _

theorem enter_tableData_iff {child : Tag × Content} {dump : Dump} {table : TableData}
    {next : Cursor} :
    (Cursor.tableData dump table).enter child = .ok next
      ↔ ∃ row, IsRow child row
        ∧ next = .tableData dump { table with rows := table.rows ++ [row] } := by
  rw [enter_eq_ok_iff]
  constructor
  · rintro ⟨inside, last, hinside, halong, hclosed⟩
    obtain ⟨htag, hread⟩ := ite_name_eq_ok_iff.1 hinside
    obtain rfl := Except.ok.inj hread
    obtain ⟨hblank, fields, hfields, rfl⟩ := afterAll_row_iff.1 halong
    exact ⟨⟨fields⟩, ⟨htag, hblank, hfields⟩, (Except.ok.inj hclosed).symm⟩
  · rintro ⟨row, h, rfl⟩
    refine ⟨.row dump table ⟨[]⟩, .row dump table row, ite_name_eq_ok_iff.2 ⟨h.tag, rfl⟩, ?_, rfl⟩
    exact afterAll_row_iff.2 ⟨h.blank, row.fields, h.fields, rfl⟩

theorem afterAll_tableData_iff {content : Content} {dump : Dump} {name : String} {last : Cursor} :
    (Cursor.tableData dump ⟨name, []⟩).afterAll content.events = .ok last
      ↔ IsBlank content ∧ ∃ rows, List.Forall₂ IsRow content.elements rows
        ∧ last = .tableData dump ⟨name, rows⟩ := by
  rw [afterAll_events_iff rfl]
  exact and_congr_right fun _ =>
    foldlM_enter_iff (fun rows => .tableData dump ⟨name, rows⟩)
      (fun _ _ _ => enter_tableData_iff) _ [] _

/-! ### Columns and keys of a table -/

theorem named_cons_of_eq {name : String} {child : Tag × Content} (h : child.1.name = name)
    (rest : List (Tag × Content)) : named name (child :: rest) = child :: named name rest :=
  List.filter_cons_of_pos (beq_iff_eq.2 h)

theorem named_cons_of_ne {name : String} {child : Tag × Content} (h : child.1.name ≠ name)
    (rest : List (Tag × Content)) : named name (child :: rest) = named name rest :=
  List.filter_cons_of_neg (by simpa using h)

theorem enter_column_iff {child : Tag × Content} {dump : Dump} {table : TableStructure}
    {next : Cursor} (htag : child.1.name = "field") :
    (Cursor.tableStructure dump table).enter child = .ok next
      ↔ ∃ column, IsColumn child column
        ∧ next = .tableStructure dump { table with columns := table.columns ++ [column] } := by
  have hopened : (Cursor.tableStructure dump table).opened child.1
      = (readColumn child.1).map fun read =>
          .column dump { table with columns := table.columns ++ [read] } := by
    rw [Cursor.opened, htag]
    rfl
  rw [enter_leaf_iff hopened (fun _ => rfl) (by simp [Cursor.opened]) (fun _ => rfl)]
  exact exists_congr fun column => and_congr_left fun _ => readColumn_eq_ok_iff

theorem enter_key_iff {child : Tag × Content} {dump : Dump} {table : TableStructure}
    {next : Cursor} (htag : child.1.name = "key") :
    (Cursor.tableStructure dump table).enter child = .ok next
      ↔ ∃ part, IsKeyPart child part
        ∧ next = .tableStructure dump { table with keys := table.keys ++ [part] } := by
  have hopened : (Cursor.tableStructure dump table).opened child.1
      = (readKey child.1).map fun read => .key dump { table with keys := table.keys ++ [read] } := by
    rw [Cursor.opened, htag]
    rfl
  rw [enter_leaf_iff hopened (fun _ => rfl) (by simp [Cursor.opened]) (fun _ => rfl)]
  exact exists_congr fun part => and_congr_left fun _ => readKey_eq_ok_iff

theorem enter_options {child : Tag × Content} {dump : Dump} {table : TableStructure}
    (htag : child.1.name = "options") :
    (Cursor.tableStructure dump table).enter child = .ok (.tableStructure dump table) := by
  have hopened : (Cursor.tableStructure dump table).opened child.1
      = .ok (.options dump table 0) := by
    rw [Cursor.opened, htag]
    rfl
  exact enter_eq_ok_iff.2 ⟨_, _, hopened, afterAll_options child.2 dump table 0, rfl⟩

/-- **Along the children of a table structure** the columns go one way and the keys the other. -/
theorem foldlM_enter_tableStructure_iff {children : List (Tag × Content)} {dump : Dump}
    {table : TableStructure} {last : Cursor} :
    children.foldlM enter (.tableStructure dump table) = .ok last
      ↔ (∀ item ∈ children, item.1.name ∈ ["field", "key", "options"])
        ∧ ∃ columns keys, List.Forall₂ IsColumn (named "field" children) columns
          ∧ List.Forall₂ IsKeyPart (named "key" children) keys
          ∧ last = .tableStructure dump
              ⟨table.name, table.columns ++ columns, table.keys ++ keys⟩ := by
  induction children generalizing table with
  | nil =>
    constructor
    · intro h
      obtain rfl := Except.ok.inj h
      exact ⟨by simp, [], [], .nil, .nil, by simp⟩
    · rintro ⟨-, columns, keys, hcolumns, hkeys, rfl⟩
      cases hcolumns
      cases hkeys
      simp only [List.append_nil]
      rfl
  | cons child rest ih =>
    rw [List.foldlM_cons, List.forall_mem_cons]
    by_cases hfield : child.1.name = "field"
    · have hkey : child.1.name ≠ "key" := by rw [hfield]; decide
      rw [named_cons_of_eq hfield, named_cons_of_ne hkey]
      constructor
      · intro h
        obtain ⟨next, hnext, hrest⟩ := bind_eq_ok_iff.1 h
        obtain ⟨column, hcolumn, rfl⟩ := (enter_column_iff hfield).1 hnext
        obtain ⟨hnames, columns, keys, hcolumns, hkeys, rfl⟩ := ih.1 hrest
        refine ⟨⟨by simp [hfield], hnames⟩, column :: columns, keys, .cons hcolumn hcolumns, hkeys, ?_⟩
        rw [List.append_assoc, List.singleton_append]
      · rintro ⟨⟨-, hnames⟩, columns, keys, hcolumns, hkeys, rfl⟩
        obtain ⟨column, more, hcolumn, hmore, rfl⟩ := List.forall₂_cons_left_iff.1 hcolumns
        refine bind_eq_ok_iff.2 ⟨_, (enter_column_iff hfield).2 ⟨column, hcolumn, rfl⟩, ?_⟩
        refine ih.2 ⟨hnames, more, keys, hmore, hkeys, ?_⟩
        rw [List.append_assoc, List.singleton_append]
    · rw [named_cons_of_ne hfield]
      by_cases hkey : child.1.name = "key"
      · rw [named_cons_of_eq hkey]
        constructor
        · intro h
          obtain ⟨next, hnext, hrest⟩ := bind_eq_ok_iff.1 h
          obtain ⟨part, hpart, rfl⟩ := (enter_key_iff hkey).1 hnext
          obtain ⟨hnames, columns, keys, hcolumns, hkeys, rfl⟩ := ih.1 hrest
          refine ⟨⟨by simp [hkey], hnames⟩, columns, part :: keys, hcolumns, .cons hpart hkeys, ?_⟩
          rw [List.append_assoc, List.singleton_append]
        · rintro ⟨⟨-, hnames⟩, columns, keys, hcolumns, hkeys, rfl⟩
          obtain ⟨part, more, hpart, hmore, rfl⟩ := List.forall₂_cons_left_iff.1 hkeys
          refine bind_eq_ok_iff.2 ⟨_, (enter_key_iff hkey).2 ⟨part, hpart, rfl⟩, ?_⟩
          refine ih.2 ⟨hnames, columns, more, hcolumns, hmore, ?_⟩
          rw [List.append_assoc, List.singleton_append]
      · rw [named_cons_of_ne hkey]
        by_cases hoptions : child.1.name = "options"
        · have hbind : (enter (.tableStructure dump table) child >>= fun next =>
              rest.foldlM enter next) = rest.foldlM enter (.tableStructure dump table) := by
            rw [enter_options hoptions]
            rfl
          rw [hbind, ih]
          simp [hoptions]
        · constructor
          · intro h
            obtain ⟨next, hnext, -⟩ := bind_eq_ok_iff.1 h
            obtain ⟨inside, -, hinside, -⟩ := enter_eq_ok_iff.1 hnext
            simp [Cursor.opened, hfield, hkey, hoptions] at hinside
          · rintro ⟨⟨hname, -⟩, -⟩
            simp [hfield, hkey, hoptions] at hname

theorem afterAll_tableStructure_iff {content : Content} {dump : Dump} {name : String}
    {last : Cursor} :
    (Cursor.tableStructure dump ⟨name, [], []⟩).afterAll content.events = .ok last
      ↔ IsBlank content
        ∧ (∀ item ∈ content.elements, item.1.name ∈ ["field", "key", "options"])
        ∧ ∃ columns keys, List.Forall₂ IsColumn (named "field" content.elements) columns
          ∧ List.Forall₂ IsKeyPart (named "key" content.elements) keys
          ∧ last = .tableStructure dump ⟨name, columns, keys⟩ := by
  rw [afterAll_events_iff rfl, foldlM_enter_tableStructure_iff]
  rfl

/-! ### Databases and documents -/

theorem enter_database_iff {child : Tag × Content} {dump : Dump} {next : Cursor} :
    (Cursor.database dump).enter child = .ok next
      ↔ ∃ entry, IsEntry child entry ∧ next = .database (dump.push entry) := by
  rw [enter_eq_ok_iff]
  constructor
  · rintro ⟨inside, last, hinside, halong, hclosed⟩
    rw [Cursor.opened] at hinside
    by_cases hstructure : (child.1.name == "table_structure") = true
    · rw [if_pos hstructure] at hinside
      obtain ⟨name, hname, rfl⟩ := map_eq_ok_iff.1 hinside
      obtain ⟨hblank, hchildren, columns, keys, hcolumns, hkeys, rfl⟩ :=
        afterAll_tableStructure_iff.1 halong
      refine ⟨.ofStructure ⟨name, columns, keys⟩, ?_, (Except.ok.inj hclosed).symm⟩
      exact ⟨beq_iff_eq.1 hstructure, require_eq_ok_iff.1 hname, hblank, hchildren, hcolumns, hkeys⟩
    · rw [if_neg hstructure] at hinside
      obtain ⟨hdata, hread⟩ := ite_name_eq_ok_iff.1 hinside
      obtain ⟨name, hname, rfl⟩ := map_eq_ok_iff.1 hread
      obtain ⟨hblank, rows, hrows, rfl⟩ := afterAll_tableData_iff.1 halong
      refine ⟨.ofData ⟨name, rows⟩, ?_, (Except.ok.inj hclosed).symm⟩
      exact ⟨hdata, require_eq_ok_iff.1 hname, hblank, hrows⟩
  · rintro ⟨entry, h, rfl⟩
    cases entry with
    | ofStructure table =>
      refine ⟨.tableStructure dump ⟨table.name, [], []⟩, .tableStructure dump table, ?_, ?_, rfl⟩
      · rw [Cursor.opened, if_pos (beq_iff_eq.2 h.tag)]
        exact map_eq_ok_iff.2 ⟨table.name, require_eq_ok_iff.2 h.name, rfl⟩
      · exact afterAll_tableStructure_iff.2
          ⟨h.blank, h.children, table.columns, table.keys, h.columns, h.keys, rfl⟩
    | ofData table =>
      refine ⟨.tableData dump ⟨table.name, []⟩, .tableData dump table, ?_, ?_, rfl⟩
      · rw [Cursor.opened, h.tag]
        exact map_eq_ok_iff.2 ⟨table.name, require_eq_ok_iff.2 h.name, rfl⟩
      · exact afterAll_tableData_iff.2 ⟨h.blank, table.rows, h.rows, rfl⟩

theorem afterAll_database_iff {content : Content} {name : String} {last : Cursor} :
    (Cursor.database ⟨name, []⟩).afterAll content.events = .ok last
      ↔ IsBlank content ∧ ∃ entries, List.Forall₂ IsEntry content.elements entries
        ∧ last = .database ⟨name, entries⟩ := by
  rw [afterAll_events_iff rfl]
  exact and_congr_right fun _ =>
    foldlM_enter_iff (fun entries => .database ⟨name, entries⟩)
      (fun _ _ _ => enter_database_iff) _ [] _

theorem enter_root_iff {child : Tag × Content} {next : Cursor} :
    (Cursor.root none).enter child = .ok next
      ↔ ∃ dump, IsDatabase child dump ∧ next = .root (some dump) := by
  rw [enter_eq_ok_iff]
  constructor
  · rintro ⟨inside, last, hinside, halong, hclosed⟩
    obtain ⟨htag, hread⟩ := ite_name_eq_ok_iff.1 hinside
    obtain rfl := Except.ok.inj hread
    obtain ⟨hblank, entries, hentries, rfl⟩ := afterAll_database_iff.1 halong
    exact ⟨⟨child.1.getOrEmpty "name", entries⟩, ⟨htag, rfl, hblank, hentries⟩,
      (Except.ok.inj hclosed).symm⟩
  · rintro ⟨dump, h, rfl⟩
    refine ⟨.database ⟨child.1.getOrEmpty "name", []⟩, .database dump,
      ite_name_eq_ok_iff.2 ⟨h.tag, rfl⟩, ?_, rfl⟩
    refine afterAll_database_iff.2 ⟨h.blank, dump.entries, h.entries, ?_⟩
    rw [← h.name]

/-- A root has taken up a dump exactly if its only child is a database. -/
theorem afterAll_root_iff {content : Content} {dump : Dump} :
    (Cursor.root none).afterAll content.events = .ok (.root (some dump))
      ↔ IsBlank content ∧ ∃ database, content.elements = [database] ∧ IsDatabase database dump := by
  rw [afterAll_events_iff rfl]
  refine and_congr_right fun _ => ?_
  cases content.elements with
  | nil => simp [pure, Except.pure]
  | cons child rest =>
    rw [List.foldlM_cons]
    constructor
    · intro h
      obtain ⟨next, hnext, hrest⟩ := bind_eq_ok_iff.1 h
      obtain ⟨first, hfirst, rfl⟩ := enter_root_iff.1 hnext
      cases rest with
      | nil =>
        obtain rfl : first = dump := by simpa [pure, Except.pure] using hrest
        exact ⟨child, rfl, hfirst⟩
      | cons second more =>
        obtain ⟨after, hafter, -⟩ := bind_eq_ok_iff.1 hrest
        obtain ⟨inside, -, hinside, -⟩ := enter_eq_ok_iff.1 hafter
        obtain ⟨-, hread⟩ := ite_name_eq_ok_iff.1 hinside
        cases hread
    · rintro ⟨database, hchildren, h⟩
      obtain ⟨rfl, rfl⟩ := List.cons.inj hchildren
      exact bind_eq_ok_iff.2 ⟨_, enter_root_iff.2 ⟨dump, h, rfl⟩, rfl⟩

theorem exists_eq_root {cursor : Cursor} (h : cursor.path = [.root]) :
    ∃ database, cursor = .root database := by
  cases cursor with
  | root database => exact ⟨database, rfl⟩
  | options dump table depth => simp [Cursor.path, List.replicate_succ] at h
  | _ => simp [Cursor.path] at h

theorem enter_start_iff {child : Tag × Content} {next : Cursor} :
    Cursor.start.enter child = .ok next
      ↔ (child.1.name = "mysqldump" ∨ child.1.name = "dump")
        ∧ ∃ database, (Cursor.root none).afterAll child.2.events = .ok (.root database)
          ∧ next = .finish database := by
  have hopened : ∀ inside, Cursor.start.opened child.1 = .ok inside
      ↔ (child.1.name = "mysqldump" ∨ child.1.name = "dump") ∧ inside = .root none := by
    intro inside
    have hname : (child.1.name == "mysqldump" || child.1.name == "dump") = true
        ↔ child.1.name = "mysqldump" ∨ child.1.name = "dump" := by
      rw [Bool.or_eq_true, beq_iff_eq, beq_iff_eq]
    rw [Cursor.opened, ← hname]
    by_cases htag : (child.1.name == "mysqldump" || child.1.name == "dump") = true
    · rw [if_pos htag, Except.ok.injEq]
      exact ⟨fun h => ⟨htag, h.symm⟩, fun h => h.2.symm⟩
    · rw [if_neg htag]
      constructor
      · intro h
        cases h
      · intro h
        exact absurd h.1 htag
  rw [enter_eq_ok_iff]
  constructor
  · rintro ⟨inside, last, hinside, halong, hclosed⟩
    obtain ⟨htag, rfl⟩ := (hopened inside).1 hinside
    obtain ⟨database, rfl⟩ := exists_eq_root (Cursor.path_of_afterAll_events halong)
    exact ⟨htag, database, halong, (Except.ok.inj hclosed).symm⟩
  · rintro ⟨htag, database, halong, rfl⟩
    exact ⟨.root none, .root database, (hopened _).2 ⟨htag, rfl⟩, halong, rfl⟩

theorem dump_eq_ok_iff {cursor : Cursor} {dump : Dump} :
    cursor.dump = .ok dump ↔ cursor = .finish (some dump) := by
  cases cursor with
  | finish database => cases database <;> simp [Cursor.dump]
  | _ => simp [Cursor.dump]

theorem afterAll_dump_iff {content : Content} {dump : Dump} :
    (Cursor.start.afterAll content.events).bind Cursor.dump = .ok dump
      ↔ IsDocument content dump := by
  have hlast : (Cursor.start.afterAll content.events).bind Cursor.dump = .ok dump
      ↔ Cursor.start.afterAll content.events = .ok (.finish (some dump)) := by
    rw [bind_eq_ok_iff]
    constructor
    · rintro ⟨last, halong, hdump⟩
      rw [halong, dump_eq_ok_iff.1 hdump]
    · exact fun halong => ⟨_, halong, rfl⟩
  rw [hlast, afterAll_events_iff rfl]
  constructor
  · rintro ⟨hblank, h⟩
    refine ⟨hblank, ?_⟩
    cases hchildren : content.elements with
    | nil => simp [hchildren, pure, Except.pure] at h
    | cons child rest =>
      rw [hchildren, List.foldlM_cons] at h
      obtain ⟨next, hnext, hrest⟩ := bind_eq_ok_iff.1 h
      obtain ⟨htag, database, halong, rfl⟩ := enter_start_iff.1 hnext
      cases rest with
      | nil =>
        obtain rfl : database = some dump := by simpa [pure, Except.pure] using hrest
        obtain ⟨hinner, hdatabase⟩ := afterAll_root_iff.1 halong
        exact ⟨child, rfl, htag, hinner, hdatabase⟩
      | cons second more =>
        rw [List.foldlM_cons] at hrest
        obtain ⟨after, hafter, -⟩ := bind_eq_ok_iff.1 hrest
        obtain ⟨inside, -, hinside, -⟩ := enter_eq_ok_iff.1 hafter
        cases hinside
  · rintro ⟨hblank, root, hchildren, h⟩
    refine ⟨hblank, ?_⟩
    rw [hchildren]
    refine bind_eq_ok_iff.2 ⟨.finish (some dump), ?_, rfl⟩
    exact enter_start_iff.2
      ⟨h.tag, some dump, afterAll_root_iff.2 ⟨h.blank, h.database⟩, rfl⟩

theorem openAfterAll?_eq_nil {events : List Event} {opened : List String} {dump : Dump}
    (hopened : Event.openAfterAll? [] events = some opened)
    (h : (Cursor.start.afterAll events).bind Cursor.dump = .ok dump) : opened = [] := by
  obtain ⟨last, halong, hdump⟩ := bind_eq_ok_iff.1 h
  obtain rfl := dump_eq_ok_iff.1 hdump
  have hlength := Cursor.length_path_of_afterAll halong hopened rfl
  exact List.eq_nil_of_length_eq_zero hlength.symm

theorem afterAll_dump_iff_of_openAfterAll? {events : List Event} {opened : List String}
    (hopened : Event.openAfterAll? [] events = some opened) (dump : Dump) :
    (Cursor.start.afterAll events).bind Cursor.dump = .ok dump
      ↔ ∃ content : Content, content.events = events ∧ IsDocument content dump := by
  constructor
  · intro h
    obtain rfl := openAfterAll?_eq_nil hopened h
    obtain ⟨content, rfl⟩ := (Content.exists_content_iff events).2 hopened
    exact ⟨content, rfl, afterAll_dump_iff.1 h⟩
  · rintro ⟨content, rfl, h⟩
    exact afterAll_dump_iff.2 h

/-- **Events are accepted exactly if they make up a document of the grammar**, and what is read
    is the dump that the document stands for.  Closing tags have to match; elements that stay
    open are refused. -/
theorem accepts_iff_isDocument (events : List Event)
    (h : (Event.openAfterAll? [] events).isSome = true) (dump : Dump) :
    (Cursor.start.afterAll events).bind Cursor.dump = .ok dump
      ↔ ∃ content : Content, content.events = events ∧ IsDocument content dump := by
  obtain ⟨opened, hopened⟩ := Option.isSome_iff_exists.1 h
  exact afterAll_dump_iff_of_openAfterAll? hopened dump

/-- A document with blanks, marks in small letters, options and a NULL. -/
def visitEvents : List Event :=
  [.declaration, .text "\n", .opening ⟨"dump", []⟩, .opening ⟨"database", [⟨"name", "site"⟩]⟩,
    .opening ⟨"table_structure", [⟨"name", "#__visits"⟩]⟩,
    .single ⟨"field", [⟨"Field", "id"⟩, ⟨"Type", "int(11)"⟩, ⟨"Null", "no"⟩]⟩, .text " ",
    .opening ⟨"options", [⟨"Engine", "InnoDB"⟩]⟩, .text "any", .single ⟨"thing", []⟩,
    .closing "options",
    .single ⟨"key", [⟨"Table", "#__visits"⟩, ⟨"Non_unique", " 0"⟩, ⟨"Key_name", "PRIMARY"⟩,
      ⟨"Seq_in_index", "1 "⟩, ⟨"Column_name", "id"⟩]⟩,
    .closing "table_structure", .opening ⟨"table_data", [⟨"name", "#__visits"⟩]⟩,
    .opening ⟨"row", []⟩, .opening ⟨"field", [⟨"name", "id"⟩]⟩, .text "4", .text "2",
    .closing "field", .single ⟨"field", [⟨"name", "seen"⟩, ⟨"xsi:nil", "true"⟩]⟩, .closing "row",
    .closing "table_data", .closing "database", .closing "dump", .text "\n"]

def visitDump : Dump :=
  ⟨"site",
    [.ofStructure
      ⟨"#__visits", [⟨"id", "int(11)", false, "", none, "", ""⟩],
        [⟨"#__visits", false, "PRIMARY", 1, "id", "", "", "", ""⟩]⟩,
      .ofData ⟨"#__visits", [⟨[⟨"id", some "42"⟩, ⟨"seen", none⟩]⟩]⟩]⟩

theorem visitEvents_isDocument :
    (Event.openAfterAll? [] visitEvents).isSome = true
      ∧ ∃ content : Content, content.events = visitEvents ∧ IsDocument content visitDump :=
  ⟨by rfl, (accepts_iff_isDocument visitEvents (by rfl) visitDump).1 (by rfl)⟩

/-- **A text is read as a dump exactly if it is sound markup for a document of it.** -/
theorem read_eq_ok_iff (text : String) (dump : Dump) :
    read text = .ok dump
      ↔ (Event.readAll text).failure = none
        ∧ ∃ content : Content, content.events = (Event.readAll text).items
          ∧ IsDocument content dump := by
  obtain ⟨opened, hopened⟩ := Option.isSome_iff_exists.1 (Event.isSome_openAfterAll?_readAll text)
  rw [← afterAll_dump_iff_of_openAfterAll? hopened dump, bind_eq_ok_iff]
  constructor
  · intro h
    obtain ⟨last, halong, hend⟩ := bind_eq_ok_iff.1 h
    cases hfailure : (Event.readAll text).failure with
    | some fault =>
      rw [hfailure] at hend
      cases hend
    | none =>
      rw [hfailure] at hend
      exact ⟨rfl, last, halong, hend⟩
  · rintro ⟨hfailure, last, halong, hdump⟩
    refine bind_eq_ok_iff.2 ⟨last, halong, ?_⟩
    rw [hfailure]
    exact hdump

end SchemaDump.Document
