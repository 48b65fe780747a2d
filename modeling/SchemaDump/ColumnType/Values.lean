/-
  SchemaDump/ColumnType/Values.lean
  =================================
  **Arguments of a column type: numbers and value lists.**

  Lengths, precisions and scales are numerals between commas.  The values of an
  enumeration or a set are a list of quoted items:

      values = item { "," item }        blanks may stand around each item
      item   = "'" { unit } "'"
      unit   = any character but "'" and "\"  |  "''"  |  "\" any character

  A doubled quote stands for one, and a backslash for the character after it.
-/
import SchemaDump.ColumnType.Basic
import SchemaDump.Text.Blank
import SchemaDump.Text.Numeral

namespace SchemaDump.ColumnType

/-- The numerals of 32 bits among the arguments, in order; other arguments are passed over. -/
def numbers (type : ColumnType) : List UInt32 :=
  match type.arguments with
  | some text =>
    (Text.parts (· == ',') text.toList).filterMap fun part => Text.unsigned32? (Text.trim part)
  | none => []

/-- The length, display width or precision: the first number. -/
def length? (type : ColumnType) : Option UInt32 := type.numbers.head?

/-- Reads units up to the closing quote; gives the value and what follows the quote. -/
def unquoted? : List Char → Option (List Char × List Char)
  | [] => none
  | c :: rest =>
    if c == '\'' then
      match rest with
      | '\'' :: more => (unquoted? more).map fun (value, after) => ('\'' :: value, after)
      | _ => some ([], rest)
    else if c == '\\' then
      match rest with
      | escaped :: more => (unquoted? more).map fun (value, after) => (escaped :: value, after)
      | [] => none
    else (unquoted? rest).map fun (value, after) => (c :: value, after)

/-- What follows an item is shorter than the text that it was read from. -/
theorem length_of_unquoted? {cs value after : List Char} (h : unquoted? cs = some (value, after)) :
    after.length < cs.length := by
  fun_induction unquoted? cs generalizing value after with
  | case1 => simp at h
  | case2 c _ more ih =>
    simp only [Option.map_eq_some_iff, Prod.exists, Prod.mk.injEq] at h
    obtain ⟨v, a, hu, -, rfl⟩ := h
    have := ih hu
    simp only [List.length_cons]
    omega
  | case3 c rest _ _ =>
    simp only [Option.some.injEq, Prod.mk.injEq] at h
    obtain ⟨-, rfl⟩ := h
    simp
  | case4 c _ _ escaped more ih =>
    simp only [Option.map_eq_some_iff, Prod.exists, Prod.mk.injEq] at h
    obtain ⟨v, a, hu, -, rfl⟩ := h
    have := ih hu
    simp only [List.length_cons]
    omega
  | case5 => simp at h
  | case6 c rest _ _ ih =>
    simp only [Option.map_eq_some_iff, Prod.exists, Prod.mk.injEq] at h
    obtain ⟨v, a, hu, -, rfl⟩ := h
    have := ih hu
    simp only [List.length_cons]
    omega

/-- Reads a nonempty list of quoted items. -/
def valueList? (cs : List Char) : Option (List String) :=
  match _hs : Text.trimStart cs with
  | '\'' :: rest =>
    match _hu : unquoted? rest with
    | none => none
    | some (value, after) =>
      match _ha : Text.trimStart after with
      | [] => some [String.ofList value]
      | ',' :: more => (valueList? more).map (String.ofList value :: ·)
      | _ => none
  | _ => none
termination_by cs.length
decreasing_by
  have h1 := length_of_unquoted? _hu
  have h2 : (Text.trimStart cs).length ≤ cs.length := (List.dropWhile_sublist _).length_le
  have h3 : (Text.trimStart after).length ≤ after.length := (List.dropWhile_sublist _).length_le
  rw [_hs] at h2
  rw [_ha] at h3
  simp only [List.length_cons] at h2 h3
  omega

/-- The values of an enumeration or a set, none without arguments; nothing if the arguments
    are no value list. -/
def values? (type : ColumnType) : Option (List String) :=
  match type.arguments with
  | some text => valueList? text.toList
  | none => some []

end SchemaDump.ColumnType
