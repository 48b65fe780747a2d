/-
  SchemaDump/Proofs/Dialect/ValueList.lean
  ========================================
  **Which arguments have values.**

  The values of an enumeration are its arguments, read as a value list, and
  arguments that are no value list are refused as such.  MySQL writes string
  literals in a way that is nearly the same: a value list drops the backslash of
  an escape and keeps the character after it, which is right for the quotes and
  the backslash, but takes the letter of a control character for itself.
-/
import SchemaDump.Dialect.Standard
import SchemaDump.Proofs.ColumnType.Values

namespace SchemaDump

open ColumnType (IsBody IsValueList valueList?_eq_some_iff)
open Sql (escapedChar escapedLiteral)

namespace Dialect.Standard

/-! ### Arguments that are a value list -/

theorem valuesOf_eq (base text : String) (unsigned : Bool) :
    valuesOf ⟨base, some text, unsigned⟩
      = match ColumnType.valueList? text.toList with
        | some values => .ok values
        | none => .error (.invalidValueList text) := rfl

/-- **Arguments have values exactly if they are a value list**, the values that it stands for; any
    other arguments are refused. -/
theorem valuesOf_iff_isValueList (base text : String) (unsigned : Bool) :
    (∀ values, valuesOf ⟨base, some text, unsigned⟩ = .ok values
        ↔ IsValueList text.toList values)
      ∧ (valuesOf ⟨base, some text, unsigned⟩ = .error (.invalidValueList text)
        ↔ ¬∃ values, IsValueList text.toList values) := by
  simp only [valuesOf_eq, ← valueList?_eq_some_iff]
  -- the arguments are read or they are not; either way both sides are decided
  cases ColumnType.valueList? text.toList with
  | none => simp
  | some found => simp

/-- Neither a comma at the end nor text after an item makes a value list. -/
example : valuesOf ⟨"set", some "'a', ", false⟩ = .error (.invalidValueList "'a', ")
    ∧ valuesOf ⟨"set", some "'a'b", false⟩ = .error (.invalidValueList "'a'b") := by
  decide +kernel

end Dialect.Standard

/-! ### MySQL literals among the arguments -/

namespace ColumnType

/-- The control characters that have letters of their own in a literal: NUL, line feed, carriage
    return and substitute. -/
def letteredControls : List Char := ['\x00', '\n', '\r', '\x1a']

/-- What a value list takes a character of a literal for: a control character for its letter, any
    other for itself. -/
def takenFor (c : Char) : Char :=
  if c.toNat == 0 then '0'
  else if c == '\n' then 'n'
  else if c == '\r' then 'r'
  else if c.toNat == 0x1A then 'Z'
  else c

theorem mem_letteredControls_iff {c : Char} :
    c ∈ letteredControls ↔ c = '\x00' ∨ c = '\n' ∨ c = '\r' ∨ c = '\x1a' := by
  simp only [letteredControls, List.mem_cons, List.not_mem_nil, or_false]

theorem notMem_letteredControls {c : Char} (h : c ∉ letteredControls) :
    c.toNat ≠ 0 ∧ c ≠ '\n' ∧ c ≠ '\r' ∧ c.toNat ≠ 0x1A := by
  rw [mem_letteredControls_iff, not_or, not_or, not_or] at h
  obtain ⟨hnul, hline, hreturn, hsubstitute⟩ := h
  exact ⟨fun hcode => hnul (Char.toNat_inj.1 hcode), hline, hreturn,
    fun hcode => hsubstitute (Char.toNat_inj.1 hcode)⟩

theorem takenFor_eq_self {c : Char} (h : c ∉ letteredControls) : takenFor c = c := by
  obtain ⟨hnul, hline, hreturn, hsubstitute⟩ := notMem_letteredControls h
  simp [takenFor, hnul, hline, hreturn, hsubstitute]

theorem takenFor_ne_self {c : Char} (h : c ∈ letteredControls) : takenFor c ≠ c := by
  rcases mem_letteredControls_iff.1 h with rfl | rfl | rfl | rfl <;> decide

theorem takenFor_eq_self_iff {c : Char} : takenFor c = c ↔ c ∉ letteredControls :=
  ⟨fun h hmem => takenFor_ne_self hmem h, takenFor_eq_self⟩

/-- **A character of a literal is one unit of an item**: itself, or what follows the backslash of
    its escape. -/
theorem isBody_escapedChar_append (c : Char) {body value : List Char} (h : IsBody body value) :
    IsBody (escapedChar c ++ body) (takenFor c :: value) := by
  by_cases hcontrol : c ∈ letteredControls
  · -- the four letters differ, so each control character has a case of its own
    rcases mem_letteredControls_iff.1 hcontrol with rfl | rfl | rfl | rfl
    · exact .escaped '0' h
    · exact .escaped 'n' h
    · exact .escaped 'r' h
    · exact .escaped 'Z' h
  · rw [takenFor_eq_self hcontrol]
    by_cases hescape : c = '\\'
    · subst hescape
      exact .escaped '\\' h
    by_cases hquote : c = '\''
    · subst hquote
      exact .escaped '\'' h
    by_cases hdouble : c = '"'
    · subst hdouble
      exact .escaped '"' h
    obtain ⟨hnul, hline, hreturn, hsubstitute⟩ := notMem_letteredControls hcontrol
    have hplain : escapedChar c = [c] := by
      simp [escapedChar, hnul, hline, hreturn, hescape, hquote, hdouble, hsubstitute]
    rw [hplain]
    exact .plain hquote hescape h

theorem isBody_flatMap_escapedChar (cs : List Char) :
    IsBody (cs.flatMap escapedChar) (cs.map takenFor) := by
  induction cs with
  | nil => exact .nil
  | cons c cs ih =>
    rw [List.flatMap_cons, List.map_cons]
    exact isBody_escapedChar_append c ih

theorem map_eq_self_iff {α : Type} {f : α → α} {items : List α} :
    items.map f = items ↔ ∀ item ∈ items, f item = item := by
  have hid : items.map f = items.map id ↔ ∀ item ∈ items, f item = id item := List.map_inj_left
  rwa [List.map_id] at hid

/-- A value as a value list takes its literal. -/
def takenText (value : String) : String := String.ofList (value.toList.map takenFor)

theorem takenText_eq_self_iff {value : String} :
    takenText value = value ↔ ∀ c ∈ letteredControls, c ∉ value.toList := by
  rw [takenText, ← String.toList_inj, String.toList_ofList, map_eq_self_iff]
  simp only [takenFor_eq_self_iff]
  constructor
  · intro h c hcontrol hmem
    exact h c hmem hcontrol
  · intro h c hmem hcontrol
    exact h c hcontrol hmem

/-- **Literals with commas between them are a value list**, whatever they hold. -/
theorem isValueList_joined (first : String) (others : List String) :
    IsValueList (Text.joined "," ((first :: others).map escapedLiteral)).toList
      ((first :: others).map takenText) := by
  have hnothing : Text.AreBlank [] := by decide
  induction others generalizing first with
  | nil =>
    have hlast := IsValueList.last hnothing (isBody_flatMap_escapedChar first.toList) hnothing
    simpa [Text.joined, escapedLiteral, takenText] using hlast
  | cons second others ih =>
    have hmore := IsValueList.more hnothing (isBody_flatMap_escapedChar first.toList) hnothing
      (ih second)
    simpa [Text.joined, escapedLiteral, takenText] using hmore

end ColumnType

namespace Dialect.Standard

open ColumnType (letteredControls takenText takenText_eq_self_iff)

/-- Literals among the arguments are always read, each as it is taken. -/
theorem valuesOf_literals (base : String) (unsigned : Bool) (first : String)
    (others : List String) :
    valuesOf ⟨base, some (Text.joined "," ((first :: others).map escapedLiteral)), unsigned⟩
      = .ok ((first :: others).map takenText) := by
  have hread := valueList?_eq_some_iff.2 (ColumnType.isValueList_joined first others)
  rw [valuesOf_eq, hread]

/-- **Literals among the arguments have the values that were written exactly if none of these holds
    a control character that has a letter of its own.** -/
theorem valuesOf_literals_iff (base : String) (unsigned : Bool) (first : String)
    (others : List String) :
    valuesOf ⟨base, some (Text.joined "," ((first :: others).map escapedLiteral)), unsigned⟩
        = .ok (first :: others)
      ↔ ∀ value ∈ first :: others, ∀ c ∈ letteredControls, c ∉ value.toList := by
  rw [valuesOf_literals, Except.ok.injEq, ColumnType.map_eq_self_iff]
  exact forall₂_congr fun value _ => takenText_eq_self_iff

end Dialect.Standard
end SchemaDump
