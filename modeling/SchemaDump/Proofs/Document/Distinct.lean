/-
  SchemaDump/Proofs/Document/Distinct.lean
  ========================================
  **Different dumps are written differently.**

  Reading gives a dump back only if all its keys have positions, so the reader
  does not tell all dumps apart.  Their documents do: what is heard of a part of
  a dump determines the part, and it ends where the part ends.
-/
import SchemaDump.Proofs.Document.RoundTrip

namespace SchemaDump.Document

open Markup (Tag Event Layout)

variable {α β : Type}

/-! ### Parts that can be told apart -/

/-- Whether an element starts after the next line break. -/
def startsElement : List Event → Bool
  | .text _ :: .opening _ :: _ | .text _ :: .single _ :: _ => true
  | _ => false

/-- Parts that are written on lines of their own, each determined by what is heard of it,
    whatever follows. -/
structure IsLegible (f : α → List Event) : Prop where
  aligned : ∀ a depth, Layout.afterAll ⟨depth, true⟩ (f a) = ⟨depth, true⟩
  starts : ∀ a depth more, startsElement (Layout.heardAll ⟨depth, true⟩ (f a) ++ more) = true
  distinct : ∀ a b depth more rest,
    Layout.heardAll ⟨depth, true⟩ (f a) ++ more = Layout.heardAll ⟨depth, true⟩ (f b) ++ rest →
      a = b ∧ more = rest

namespace IsLegible

variable {f : α → List Event}

theorem aligned_flatMap (h : IsLegible f) (xs : List α) (depth : Nat) :
    Layout.afterAll ⟨depth, true⟩ (xs.flatMap f) = ⟨depth, true⟩ := by
  induction xs with
  | nil => rfl
  | cons a xs ih => rw [List.flatMap_cons, Layout.afterAll_append, h.aligned, ih]

/-- Parts one after another are determined if no further part follows them. -/
theorem eq_of_flatMap (h : IsLegible f) {depth : Nat} {xs ys : List α} {more rest : List Event}
    (hmore : startsElement more = false) (hrest : startsElement rest = false)
    (heq : Layout.heardAll ⟨depth, true⟩ (xs.flatMap f) ++ more
      = Layout.heardAll ⟨depth, true⟩ (ys.flatMap f) ++ rest) : xs = ys ∧ more = rest := by
  have hcons : ∀ (a : α) (as : List α) (after : List Event),
      Layout.heardAll ⟨depth, true⟩ ((a :: as).flatMap f) ++ after
        = Layout.heardAll ⟨depth, true⟩ (f a)
          ++ (Layout.heardAll ⟨depth, true⟩ (as.flatMap f) ++ after) := by
    intro a as after
    rw [List.flatMap_cons, Layout.heardAll_append, h.aligned, List.append_assoc]
  induction xs generalizing ys with
  | nil =>
    cases ys with
    | nil => exact ⟨rfl, heq⟩
    | cons y ys =>
      have hstarts : startsElement more = true := by
        rw [hcons] at heq
        rw [show more = _ from heq]
        exact h.starts y depth _
      rw [hmore] at hstarts
      cases hstarts
  | cons x xs ih =>
    cases ys with
    | nil =>
      have hstarts : startsElement rest = true := by
        rw [hcons] at heq
        rw [show rest = _ from heq.symm]
        exact h.starts x depth _
      rw [hrest] at hstarts
      cases hstarts
    | cons y ys =>
      rw [hcons, hcons] at heq
      obtain ⟨rfl, htail⟩ := h.distinct x y depth _ _ heq
      obtain ⟨rfl, hend⟩ := ih htail
      exact ⟨rfl, hend⟩

theorem single : IsLegible fun tag => [Event.single tag] where
  aligned := fun _ _ => rfl
  starts := fun _ _ _ => rfl
  distinct := by
    intro a b depth more rest heq
    obtain ⟨hsingle, hrest⟩ := (List.cons.inj heq).2 |> List.cons.inj
    exact ⟨Event.single.inj hsingle, hrest⟩

/-- An element is determined by its tag and the parts within it. -/
theorem element (h : IsLegible f) (tag : β → Tag) (parts : β → List α) (name : String)
    (hinj : ∀ a b, tag a = tag b → parts a = parts b → a = b) :
    IsLegible fun b => [Event.opening (tag b)] ++ (parts b).flatMap f ++ [Event.closing name] where
  aligned := by
    intro b depth
    have hopening : Layout.afterAll ⟨depth, true⟩ [.opening (tag b)] = ⟨depth + 1, true⟩ := rfl
    rw [Layout.afterAll_append, Layout.afterAll_append, hopening, h.aligned_flatMap]
    rfl
  starts := fun _ _ _ => rfl
  distinct := by
    intro a b depth more rest heq
    have hheard : ∀ (c : β) (after : List Event), Layout.heardAll ⟨depth, true⟩
        ([Event.opening (tag c)] ++ (parts c).flatMap f ++ [Event.closing name]) ++ after
        = Event.text (Layout.indent ⟨depth, true⟩) :: Event.opening (tag c)
          :: (Layout.heardAll ⟨depth + 1, true⟩ ((parts c).flatMap f)
            ++ (Event.text (Layout.indent ⟨depth, true⟩) :: Event.closing name :: after)) := by
      intro c after
      rw [heardAll_element (h.aligned_flatMap _ _)]
      simp [Layout.gap]
    rw [hheard, hheard] at heq
    obtain ⟨hopening, hinner⟩ := (List.cons.inj heq).2 |> List.cons.inj
    obtain ⟨hparts, hend⟩ := h.eq_of_flatMap rfl rfl hinner
    exact ⟨hinj a b (Event.opening.inj hopening) hparts, by simpa using hend⟩

end IsLegible

/-! ### Rows -/

theorem fieldEvents_isLegible : IsLegible fieldEvents where
  aligned := fun field => (fieldEvents_isBlock field).aligned
  starts := by
    intro field depth more
    obtain ⟨name, value⟩ := field
    cases value <;> rfl
  distinct := by
    intro a b depth more rest heq
    obtain ⟨aName, aValue⟩ := a
    obtain ⟨bName, bValue⟩ := b
    have hgap : Layout.gap ⟨depth, true⟩ = [.text (Layout.indent ⟨depth, true⟩)] := rfl
    cases aValue with
    | none =>
      cases bValue with
      | none => simpa [heardAll_null, hgap] using heq
      | some bText => simp [heardAll_null, heardAll_value, hgap] at heq
    | some aText =>
      cases bValue with
      | none => simp [heardAll_null, heardAll_value, hgap] at heq
      | some bText =>
        rw [heardAll_value, heardAll_value] at heq
        -- an empty value is followed by the closing tag at once
        cases ha : aText.toList.isEmpty <;> cases hb : bText.toList.isEmpty <;>
          simp_all

theorem rowEvents_isLegible : IsLegible rowEvents :=
  fieldEvents_isLegible.element (fun _ => ⟨"row", []⟩) Row.fields "row" <| by
    rintro ⟨fields⟩ ⟨others⟩ - (rfl : fields = others)
    rfl

/-! ### Columns and keys -/

theorem columnTag_injective : Function.Injective columnTag := by
  intro a b heq
  have hread := congrArg readColumn heq
  rw [readColumn_columnTag, readColumn_columnTag] at hread
  exact Except.ok.inj hread

theorem decimal_injective : Function.Injective fun n : UInt32 => Text.decimal n.toNat := by
  intro a b heq
  have hread := congrArg Text.unsigned32? heq
  simpa only [Text.unsigned32?_decimal, Option.some.injEq] using hread

theorem nonUnique_of_flag {a b : KeyPart} (h : a.nonUniqueFlag = b.nonUniqueFlag) :
    a.nonUnique = b.nonUnique := by
  have hread := congrArg readNonUnique h
  rw [readNonUnique_nonUniqueFlag, readNonUnique_nonUniqueFlag] at hread
  exact Except.ok.inj hread

/-- The element of a key part determines it, whatever its position. -/
theorem keyTag_injective : Function.Injective keyTag := by
  intro a b heq
  simp only [keyTag, Tag.mk.injEq, List.cons.injEq, Markup.Attribute.mk.injEq, true_and,
    and_true, String.ofList_inj] at heq
  obtain ⟨htable, hflag, hname, hposition, hrest⟩ := heq
  have hunique := nonUnique_of_flag hflag
  have hnumber := decimal_injective hposition
  cases a
  cases b
  simp_all

def partTags (table : TableStructure) : List Tag :=
  table.columns.map columnTag ++ table.keys.map keyTag

theorem partEvents_eq (table : TableStructure) :
    partEvents table = (partTags table).flatMap fun tag => [Event.single tag] := by
  simp [partEvents, partTags, List.flatMap_map]

/-- Columns and keys are told apart by the names of their elements. -/
theorem eq_of_partTags {a b : TableStructure} (h : partTags a = partTags b) :
    a.columns = b.columns ∧ a.keys = b.keys := by
  have hcolumns : ∀ table : TableStructure,
      (partTags table).filter (·.name == "field") = table.columns.map columnTag := by
    intro table
    simp [partTags, List.filter_append, List.filter_map, Function.comp_def, columnTag, keyTag]
  have hkeys : ∀ table : TableStructure,
      (partTags table).filter (·.name == "key") = table.keys.map keyTag := by
    intro table
    simp [partTags, List.filter_append, List.filter_map, Function.comp_def, columnTag, keyTag]
  constructor
  · exact List.map_injective_iff.2 columnTag_injective
      ((hcolumns a).symm.trans ((congrArg _ h).trans (hcolumns b)))
  · exact List.map_injective_iff.2 keyTag_injective
      ((hkeys a).symm.trans ((congrArg _ h).trans (hkeys b)))

/-! ### Entries and documents -/

theorem structureEvents_isLegible : IsLegible structureEvents := by
  have hevents : structureEvents = fun table =>
      [Event.opening ⟨"table_structure", [⟨"name", table.name⟩]⟩]
        ++ (partTags table).flatMap (fun tag => [Event.single tag])
        ++ [Event.closing "table_structure"] := by
    funext table
    rw [structureEvents_eq, partEvents_eq]
  rw [hevents]
  refine IsLegible.single.element
    (fun table : TableStructure => ⟨"table_structure", [⟨"name", table.name⟩]⟩) partTags
    "table_structure" ?_
  intro a b htag hparts
  obtain ⟨hcolumns, hkeys⟩ := eq_of_partTags hparts
  cases a
  cases b
  simp_all

theorem dataEvents_isLegible : IsLegible fun table => entryEvents (.ofData table) := by
  refine rowEvents_isLegible.element
    (fun table : TableData => ⟨"table_data", [⟨"name", table.name⟩]⟩) TableData.rows
    "table_data" ?_
  intro a b htag hrows
  cases a
  cases b
  simp_all

theorem entryEvents_isLegible : IsLegible entryEvents where
  aligned := fun entry => (entryEvents_isBlock entry).aligned
  starts := by
    intro entry
    cases entry with
    | ofStructure table => exact structureEvents_isLegible.starts table
    | ofData table => exact dataEvents_isLegible.starts table
  distinct := by
    intro a b depth more rest heq
    cases a with
    | ofStructure a =>
      cases b with
      | ofStructure b =>
        obtain ⟨rfl, hrest⟩ := structureEvents_isLegible.distinct a b depth more rest heq
        exact ⟨rfl, hrest⟩
      | ofData b =>
        simp [entryEvents, structureEvents, dataStartEvents, Layout.heardAll, Layout.heard,
          Layout.gap] at heq
    | ofData a =>
      cases b with
      | ofStructure b =>
        simp [entryEvents, structureEvents, dataStartEvents, Layout.heardAll, Layout.heard,
          Layout.gap] at heq
      | ofData b =>
        obtain ⟨rfl, hrest⟩ := dataEvents_isLegible.distinct a b depth more rest heq
        exact ⟨rfl, hrest⟩

/-- **Different dumps are written differently.** -/
theorem write_injective : Function.Injective write := by
  intro a b heq
  have hheard : Layout.heardAll {} (events a) = Layout.heardAll {} (events b) := by
    have hread := congrArg Event.readAll heq
    rw [readAll_write, readAll_write] at hread
    exact List.append_cancel_right (congrArg Run.items hread)
  rw [heardAll_events, heardAll_events] at hheard
  have hstart : ∀ name, Layout.heardAll {} (startEvents name)
      = Layout.heardAll {} ((startEvents "").take 2) ++ Layout.gap ⟨1, true⟩
        ++ [.opening ⟨"database", [⟨"name", name⟩]⟩] := fun _ => rfl
  simp only [hstart, List.append_assoc, List.append_cancel_left_eq, List.singleton_append,
    List.cons.injEq, Event.opening.injEq, Tag.mk.injEq, Markup.Attribute.mk.injEq, true_and,
    and_true] at hheard
  obtain ⟨hname, hentries⟩ := hheard
  obtain ⟨hlist, -⟩ := entryEvents_isLegible.eq_of_flatMap rfl rfl hentries
  cases a
  cases b
  simp_all

end SchemaDump.Document
