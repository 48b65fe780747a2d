/-
  SchemaDump/Proofs/Document/Block.lean
  =====================================
  **Blocks: events that make up whole elements.**

  Each part of a dump is written as a *block* of events: its names are plain,
  its texts stand apart and it closes all that it opens.  A block that is
  written at the beginning of a line ends where a line may begin, so that line
  breaks stand between elements only and never get into a value.
-/
import SchemaDump.Document.Writing
import SchemaDump.Proofs.Markup.Written

namespace SchemaDump.Document

open Markup (Tag Event Layout)

/-- Events that make up whole elements and can be written anywhere where a line starts. -/
structure IsBlock (events : List Event) : Prop where
  writable : ∀ event ∈ events, event.IsWritable
  apart : Event.textsApart events = true
  balanced : ∀ opened, Event.openAfterAll? opened events = some opened
  aligned : ∀ depth, Layout.afterAll ⟨depth, true⟩ events = ⟨depth, true⟩

namespace IsBlock

theorem nil : IsBlock [] where
  writable := by simp
  apart := rfl
  balanced := fun _ => rfl
  aligned := fun _ => rfl

theorem append {first second : List Event} (hf : IsBlock first) (hs : IsBlock second) :
    IsBlock (first ++ second) where
  writable := by
    intro event h
    rcases List.mem_append.1 h with h | h
    · exact hf.writable event h
    · exact hs.writable event h
  apart := Event.textsApart_append hf.apart hs.apart
  balanced := by
    intro opened
    rw [Event.openAfterAll?_append, hf.balanced, Option.bind_some, hs.balanced]
  aligned := by
    intro depth
    rw [Layout.afterAll_append, hf.aligned, hs.aligned]

theorem flatMap {α : Type} {f : α → List Event} (h : ∀ a, IsBlock (f a)) (xs : List α) :
    IsBlock (xs.flatMap f) := by
  induction xs with
  | nil => exact nil
  | cons a xs ih => exact append (h a) ih

theorem single {tag : Tag} (h : tag.IsWritable) : IsBlock [.single tag] where
  writable := by simpa [Event.IsWritable] using h
  apart := rfl
  balanced := fun _ => rfl
  aligned := fun _ => rfl

/-- A field with a value: the closing tag stands directly after the text. -/
theorem value (tag : Tag) (h : tag.IsWritable) (content : String) :
    IsBlock [.opening tag, .text content, .closing tag.name] where
  writable := by
    intro event hevent
    simp only [List.mem_cons, List.not_mem_nil, or_false] at hevent
    rcases hevent with rfl | rfl | rfl
    · exact h
    · trivial
    · exact h.name_plain
  apart := rfl
  balanced := by
    intro opened
    simp [Event.openAfterAll?, Event.openAfter?]
  aligned := fun _ => rfl

theorem element (tag : Tag) {inner : List Event} (h : tag.IsWritable) (hinner : IsBlock inner) :
    IsBlock ([Event.opening tag] ++ inner ++ [Event.closing tag.name]) where
  writable := by
    intro event hevent
    simp only [List.mem_append, List.mem_singleton] at hevent
    rcases hevent with (rfl | hevent) | rfl
    · exact h
    · exact hinner.writable event hevent
    · exact h.name_plain
  apart :=
    Event.textsApart_append (Event.textsApart_append rfl hinner.apart) rfl
  balanced := by
    intro opened
    rw [Event.openAfterAll?_append, Event.openAfterAll?_append]
    simp [Event.openAfterAll?, Event.openAfter?, hinner.balanced]
  aligned := by
    intro depth
    have hopening : Layout.afterAll ⟨depth, true⟩ [.opening tag] = ⟨depth + 1, true⟩ := rfl
    rw [Layout.afterAll_append, Layout.afterAll_append, hopening, hinner.aligned]
    rfl

end IsBlock

/-- What is heard of an element: a line break and its opening tag, what is in it, and a line break
    and its closing tag. -/
theorem heardAll_element {depth : Nat} {inner : List Event}
    (h : Layout.afterAll ⟨depth + 1, true⟩ inner = ⟨depth + 1, true⟩) (tag : Tag) (name : String) :
    Layout.heardAll ⟨depth, true⟩ ([Event.opening tag] ++ inner ++ [Event.closing name])
      = Layout.gap ⟨depth, true⟩ ++ ([Event.opening tag]
        ++ (Layout.heardAll ⟨depth + 1, true⟩ inner
          ++ (Layout.gap ⟨depth, true⟩ ++ [Event.closing name]))) := by
  simp [Layout.heardAll, Layout.heardAll_append, Layout.heard, Layout.after, h]

theorem columnTag_isWritable (column : Column) : (columnTag column).IsWritable := by
  rw [columnTag]
  cases column.defaultValue with
  | none =>
    exact Tag.isWritable_of_names "field" ["Field", "Type", "Null", "Key", "Extra", "Comment"]
      rfl rfl (by decide)
  | some value =>
    exact Tag.isWritable_of_names "field"
      ["Field", "Type", "Null", "Key", "Default", "Extra", "Comment"] rfl rfl (by decide)

theorem keyTag_isWritable (part : KeyPart) : (keyTag part).IsWritable :=
  Tag.isWritable_of_names "key"
    ["Table", "Non_unique", "Key_name", "Seq_in_index", "Column_name", "Collation", "Null",
      "Index_type", "Comment"] rfl rfl (by decide)

/-- The element of something that has a name and no other attribute. -/
theorem namedTag_isWritable {element : String} (h : Markup.isPlain element = true)
    (name : String) : Tag.IsWritable ⟨element, [⟨"name", name⟩]⟩ :=
  Tag.isWritable_of_names element ["name"] rfl rfl ⟨h, by decide, by decide⟩

theorem fieldEvents_isBlock (field : Field) : IsBlock (fieldEvents field) := by
  unfold fieldEvents
  cases field.value with
  | none =>
    exact IsBlock.single
      (Tag.isWritable_of_names "field" ["name", "xsi:nil"] rfl rfl (by decide))
  | some value =>
    exact IsBlock.value ⟨"field", _⟩ (namedTag_isWritable (by decide) field.name) value

theorem heardAll_null (depth : Nat) (name : String) :
    Layout.heardAll ⟨depth, true⟩ (fieldEvents ⟨name, none⟩)
      = Layout.gap ⟨depth, true⟩
        ++ [Event.single ⟨"field", [⟨"name", name⟩, ⟨"xsi:nil", "true"⟩]⟩] := rfl

/-- Nothing is heard of an empty value. -/
theorem heardAll_value (depth : Nat) (name value : String) :
    Layout.heardAll ⟨depth, true⟩ (fieldEvents ⟨name, some value⟩)
      = Layout.gap ⟨depth, true⟩ ++ ([Event.opening ⟨"field", [⟨"name", name⟩]⟩]
        ++ ((if value.toList.isEmpty then [] else [Event.text value])
          ++ [Event.closing "field"])) := rfl

theorem rowEvents_isBlock (row : Row) : IsBlock (rowEvents row) :=
  IsBlock.element ⟨"row", []⟩ (Tag.isWritable_of_names "row" [] rfl rfl (by decide))
    (IsBlock.flatMap fieldEvents_isBlock row.fields)

/-- The elements of the columns and keys of a table. -/
def partEvents (table : TableStructure) : List Event :=
  table.columns.flatMap (fun column => [Event.single (columnTag column)])
    ++ table.keys.flatMap fun part => [Event.single (keyTag part)]

theorem partEvents_isBlock (table : TableStructure) : IsBlock (partEvents table) :=
  IsBlock.append (IsBlock.flatMap (fun column => IsBlock.single (columnTag_isWritable column)) _)
    (IsBlock.flatMap (fun part => IsBlock.single (keyTag_isWritable part)) _)

theorem structureEvents_eq (table : TableStructure) :
    structureEvents table = [Event.opening ⟨"table_structure", [⟨"name", table.name⟩]⟩]
      ++ partEvents table ++ [Event.closing "table_structure"] := by
  simp [structureEvents, partEvents, List.map_eq_flatMap]

theorem entryEvents_isBlock (entry : Entry) : IsBlock (entryEvents entry) := by
  cases entry with
  | ofStructure table =>
    rw [entryEvents, structureEvents_eq]
    exact IsBlock.element ⟨"table_structure", _⟩ (namedTag_isWritable (by decide) table.name)
      (partEvents_isBlock table)
  | ofData table =>
    exact IsBlock.element ⟨"table_data", _⟩ (namedTag_isWritable (by decide) table.name)
      (IsBlock.flatMap rowEvents_isBlock table.rows)

theorem entries_isBlock (entries : List Entry) : IsBlock (entries.flatMap entryEvents) :=
  IsBlock.flatMap entryEvents_isBlock entries

theorem events_isWritable (dump : Dump) : ∀ event ∈ events dump, event.IsWritable := by
  intro event hevent
  simp only [events, List.mem_append] at hevent
  rcases hevent with (hevent | hevent) | hevent
  · simp only [startEvents, List.mem_cons, List.not_mem_nil, or_false] at hevent
    rcases hevent with rfl | rfl | rfl
    · trivial
    · exact Tag.isWritable_of_names "mysqldump" ["xmlns:xsi"] rfl rfl (by decide)
    · exact namedTag_isWritable (by decide) dump.database
  · exact (entries_isBlock dump.entries).writable event hevent
  · simp only [endEvents, List.mem_cons, List.not_mem_nil, or_false] at hevent
    rcases hevent with rfl | rfl
    · exact (by decide : Markup.isPlain "database" = true)
    · exact (by decide : Markup.isPlain "mysqldump" = true)

end SchemaDump.Document
