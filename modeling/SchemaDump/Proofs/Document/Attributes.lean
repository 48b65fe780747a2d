/-
  SchemaDump/Proofs/Document/Attributes.lean
  ==========================================
  **Columns and keys in attributes.**

  A column is written into the attributes of one element and read from them; so
  is a part of a key.  What is read of any attributes is what the grammar says
  that they stand for.  All of a column comes back, the difference between no
  default and an empty one included.  A key part comes back too, unless its
  position is 0, which the writer writes and the reader refuses.
-/
import Mathlib.Tactic.SplitIfs
import SchemaDump.Document.Writing
import SchemaDump.Proofs.Checked
import SchemaDump.Proofs.Document.Grammar
import SchemaDump.Proofs.Text.Numeral

namespace SchemaDump.Document

open Markup (Tag Content)
open Checked (bind_eq_ok_iff)

/-! ### What is read of any attributes -/

theorem require_eq_ok_iff {element : Element} {tag : Tag} {key value : String} :
    require element tag key = .ok value ↔ tag.get? key = some value := by
  rw [require]
  cases tag.get? key with
  | none => simp
  | some found => simp

theorem readNull_eq_ok_iff {flag : String} {column : Column} :
    readNull flag = .ok column.nullable ↔ Text.sameLetters flag column.nullFlag = true := by
  rw [readNull, Column.nullFlag]
  by_cases hyes : Text.sameLetters flag "YES" = true
  · have hno : ¬ Text.sameLetters flag "NO" = true := by
      rw [Text.sameLetters, beq_iff_eq] at hyes ⊢
      rw [hyes]
      decide
    rw [if_pos hyes]
    cases column.nullable with
    | true => simp [hyes]
    | false => simp [hno]
  · rw [if_neg hyes]
    cases column.nullable with
    | true => split <;> simp [hyes]
    | false => simp

theorem readNonUnique_eq_ok_iff {flag : String} {part : KeyPart} :
    readNonUnique flag = .ok part.nonUnique ↔ Text.trimmed flag = part.nonUniqueFlag := by
  rw [readNonUnique, KeyPart.nonUniqueFlag]
  by_cases hzero : Text.trimmed flag = "0"
  · rw [hzero]
    cases part.nonUnique with
    | true => simp
    | false => simp
  · by_cases hone : Text.trimmed flag = "1"
    · rw [hone]
      cases part.nonUnique with
      | true => simp
      | false => simp
    · cases part.nonUnique with
      | true => simp [hzero, hone]
      | false => simp [hzero, hone]

theorem readPosition_eq_ok_iff {numeral : String} {position : UInt32} :
    readPosition numeral = .ok position
      ↔ Text.unsigned32? (Text.trim numeral.toList) = some position ∧ 0 < position := by
  rw [readPosition]
  cases Text.unsigned32? (Text.trim numeral.toList) with
  | none => simp
  | some found =>
    by_cases hpositive : 0 < found
    · simp only [if_pos hpositive, Except.ok.injEq, Option.some.injEq]
      constructor
      · rintro rfl
        exact ⟨rfl, hpositive⟩
      · exact fun h => h.1
    · simp only [if_neg hpositive, Option.some.injEq, reduceCtorEq, false_iff, not_and]
      rintro rfl
      exact hpositive

theorem readColumn_eq_ok_iff {child : Tag × Content} {column : Column} :
    readColumn child.1 = .ok column ∧ IsEmpty child.2 ↔ IsColumn child column := by
  constructor
  · rintro ⟨h, hempty⟩
    obtain ⟨flag, hflag, h⟩ := bind_eq_ok_iff.1 h
    obtain ⟨nullable, hnullable, h⟩ := bind_eq_ok_iff.1 h
    obtain ⟨name, hname, h⟩ := bind_eq_ok_iff.1 h
    obtain ⟨type, htype, h⟩ := bind_eq_ok_iff.1 h
    obtain rfl := Except.ok.inj h
    exact {
      content := hempty
      name := require_eq_ok_iff.1 hname
      type := require_eq_ok_iff.1 htype
      nullable := ⟨flag, require_eq_ok_iff.1 hflag, readNull_eq_ok_iff.1 hnullable⟩
      key := rfl
      defaultValue := rfl
      extra := rfl
      comment := rfl }
  · intro h
    refine ⟨?_, h.content⟩
    obtain ⟨flag, hflag, hnullable⟩ := h.nullable
    refine bind_eq_ok_iff.2 ⟨flag, require_eq_ok_iff.2 hflag, ?_⟩
    refine bind_eq_ok_iff.2 ⟨column.nullable, readNull_eq_ok_iff.2 hnullable, ?_⟩
    refine bind_eq_ok_iff.2 ⟨column.name, require_eq_ok_iff.2 h.name, ?_⟩
    refine bind_eq_ok_iff.2 ⟨column.type, require_eq_ok_iff.2 h.type, ?_⟩
    rw [← h.key, ← h.defaultValue, ← h.extra, ← h.comment]
    rfl

theorem readKey_eq_ok_iff {child : Tag × Content} {part : KeyPart} :
    readKey child.1 = .ok part ∧ IsEmpty child.2 ↔ IsKeyPart child part := by
  constructor
  · rintro ⟨h, hempty⟩
    obtain ⟨flag, hflag, h⟩ := bind_eq_ok_iff.1 h
    obtain ⟨nonUnique, hnonUnique, h⟩ := bind_eq_ok_iff.1 h
    obtain ⟨numeral, hnumeral, h⟩ := bind_eq_ok_iff.1 h
    obtain ⟨position, hposition, h⟩ := bind_eq_ok_iff.1 h
    obtain ⟨table, htable, h⟩ := bind_eq_ok_iff.1 h
    obtain ⟨keyName, hkeyName, h⟩ := bind_eq_ok_iff.1 h
    obtain ⟨column, hcolumn, h⟩ := bind_eq_ok_iff.1 h
    obtain rfl := Except.ok.inj h
    obtain ⟨hread, hcounted⟩ := readPosition_eq_ok_iff.1 hposition
    exact {
      content := hempty
      table := require_eq_ok_iff.1 htable
      keyName := require_eq_ok_iff.1 hkeyName
      column := require_eq_ok_iff.1 hcolumn
      nonUnique := ⟨flag, require_eq_ok_iff.1 hflag, readNonUnique_eq_ok_iff.1 hnonUnique⟩
      position := ⟨numeral, require_eq_ok_iff.1 hnumeral, hread⟩
      counted := hcounted
      collation := rfl
      nullable := rfl
      method := rfl
      comment := rfl }
  · intro h
    refine ⟨?_, h.content⟩
    obtain ⟨flag, hflag, hnonUnique⟩ := h.nonUnique
    obtain ⟨numeral, hnumeral, hread⟩ := h.position
    refine bind_eq_ok_iff.2 ⟨flag, require_eq_ok_iff.2 hflag, ?_⟩
    refine bind_eq_ok_iff.2 ⟨part.nonUnique, readNonUnique_eq_ok_iff.2 hnonUnique, ?_⟩
    refine bind_eq_ok_iff.2 ⟨numeral, require_eq_ok_iff.2 hnumeral, ?_⟩
    refine bind_eq_ok_iff.2 ⟨part.position, readPosition_eq_ok_iff.2 ⟨hread, h.counted⟩, ?_⟩
    refine bind_eq_ok_iff.2 ⟨part.table, require_eq_ok_iff.2 h.table, ?_⟩
    refine bind_eq_ok_iff.2 ⟨part.keyName, require_eq_ok_iff.2 h.keyName, ?_⟩
    refine bind_eq_ok_iff.2 ⟨part.column, require_eq_ok_iff.2 h.column, ?_⟩
    rw [← h.collation, ← h.nullable, ← h.method, ← h.comment]
    rfl

/-! ### What is read of written attributes -/

theorem readNull_nullFlag (column : Column) :
    readNull column.nullFlag = .ok column.nullable := by
  unfold Column.nullFlag
  cases column.nullable <;> rfl

theorem readNonUnique_nonUniqueFlag (part : KeyPart) :
    readNonUnique part.nonUniqueFlag = .ok part.nonUnique := by
  unfold KeyPart.nonUniqueFlag
  cases part.nonUnique <;> rfl

theorem readPosition_decimal (position : UInt32) :
    readPosition (String.ofList (Text.decimal position.toNat))
      = if 0 < position then .ok position else .error (.invalidPosition "0") := by
  simp only [readPosition, String.toList_ofList, Text.trim_decimal, Text.unsigned32?_decimal]
  split_ifs with hpos
  · rfl
  · obtain rfl : position = 0 := UInt32.le_zero_iff.1 (UInt32.not_lt.1 hpos)
    have hzero : Text.decimal (UInt32.toNat 0) = ['0'] := by
      rw [Text.decimal]
      rfl
    rw [hzero]

/-- **A column reads back from its element.** -/
theorem readColumn_columnTag (column : Column) : readColumn (columnTag column) = .ok column := by
  have hnull : (columnTag column).get? "Null" = some column.nullFlag := rfl
  have hname : (columnTag column).get? "Field" = some column.name := rfl
  have htype : (columnTag column).get? "Type" = some column.type := rfl
  have hkey : (columnTag column).getOrEmpty "Key" = column.key := rfl
  have hdefault : (columnTag column).get? "Default" = column.defaultValue := by
    rw [columnTag, Tag.get?]
    cases column.defaultValue <;> rfl
  have hextra : (columnTag column).getOrEmpty "Extra" = column.extra := by
    rw [columnTag, Tag.getOrEmpty, Tag.get?]
    cases column.defaultValue <;> rfl
  have hcomment : (columnTag column).getOrEmpty "Comment" = column.comment := by
    rw [columnTag, Tag.getOrEmpty, Tag.get?]
    cases column.defaultValue <;> rfl
  simp only [readColumn, require, hnull, hname, htype, hkey, hdefault, hextra, hcomment,
    readNull_nullFlag, bind, Except.bind, pure, Except.pure]

/-- **A key part reads back from its element, unless its position is 0.** -/
theorem readKey_keyTag (part : KeyPart) :
    readKey (keyTag part)
      = if 0 < part.position then .ok part else .error (.invalidPosition "0") := by
  have htable : (keyTag part).get? "Table" = some part.table := rfl
  have hunique : (keyTag part).get? "Non_unique" = some part.nonUniqueFlag := rfl
  have hname : (keyTag part).get? "Key_name" = some part.keyName := rfl
  have hposition : (keyTag part).get? "Seq_in_index"
      = some (String.ofList (Text.decimal part.position.toNat)) := rfl
  have hcolumn : (keyTag part).get? "Column_name" = some part.column := rfl
  simp only [readKey, require, hunique, hposition, htable, hname, hcolumn,
    readNonUnique_nonUniqueFlag, readPosition_decimal, bind, Except.bind, pure, Except.pure]
  split_ifs <;> rfl

end SchemaDump.Document
