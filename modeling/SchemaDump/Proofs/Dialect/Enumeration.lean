/-
  SchemaDump/Proofs/Dialect/Enumeration.lean
  ==========================================
  **Enumerations keep their values outside MySQL.**

  An enumeration is a type of its own in MySQL only.  Elsewhere its column is a
  text with a check, and the values that the check lists are those of the type
  text, whatever quotes, backslashes, commas and parentheses they hold.
-/
import SchemaDump.Proofs.ColumnType.Reading
import SchemaDump.Proofs.ColumnType.Values
import SchemaDump.Proofs.Dialect.Acceptance
import SchemaDump.Proofs.Dialect.Insertion
import SchemaDump.Proofs.Dialect.Statements
import SchemaDump.Proofs.Sql.Checking

namespace SchemaDump

open ColumnType (WrittenValues)

/-! ### The type text -/

namespace ColumnType

/-- The text of an enumeration with given values. -/
def enumerationText (written : WrittenValues) : String :=
  "enum(" ++ String.ofList written.chars ++ ")"

/-- What the text of an enumeration stands for. -/
def enumerationType (written : WrittenValues) : ColumnType :=
  ⟨"enum", some (String.ofList (Text.trim written.chars)), false⟩

theorem read?_enumerationText {written : WrittenValues}
    (h : ∀ value ∈ written.values, '\n' ∉ value.toList) :
    read? (enumerationText written) = some (enumerationType written) := by
  have hletter : "enum".toList.head?.any Char.isAlpha = true := by decide
  have hword : ∀ c ∈ "enum".toList, c.isAlphanum = true := List.all_eq_true.1 (by decide)
  have hbase : Text.lower (Text.joined " " ((Text.words "enum".toList).map String.ofList))
      = "enum" := by
    decide
  have htext : enumerationText written
      = String.ofList ("enum".toList ++ '(' :: (written.chars ++ [')'])) := by
    simp [← String.toList_inj, enumerationText]
  rw [htext, read?_of_word hletter hword (written.lineFeed_notMem_chars h), ofParts, hbase]
  rfl

theorem values?_enumerationType (written : WrittenValues) :
    (enumerationType written).values? = some written.values := by
  have hlist := written.valueList?_trim_chars
  rw [enumerationType, values?]
  simp only [String.toList_ofList, hlist]

end ColumnType

namespace Dialect

open Checked (Succeeds bind_eq_ok_iff)
open ColumnType (enumerationText enumerationType)
open Sql (ColumnClause ColumnOption DataType Unsupported)

/-! ### Columns -/

namespace Standard

/-- Of the type of a column only whether it is a time decides how its default is read. -/
theorem defaultOptions_congr {type other : ColumnType} (h : type.isTemporal = other.isTemporal)
    (column : Column) (extras : List Extra) :
    defaultOptions column type extras = defaultOptions column other extras := by
  have hdefault : ∀ text,
      defaultOf column type extras text = defaultOf column other extras text := by
    intro text
    rw [defaultOf, h, defaultOf]
  rw [defaultOptions, defaultOptions]
  simp only [hdefault]

theorem mapM_carried {texts : List String} (h : ∀ text ∈ texts, Sql.carriesNul text = false) :
    texts.mapM carried = .ok texts := by
  rw [Checked.mapM_eq_ok_iff, List.forall₂_same]
  intro text hmem
  rw [carried, h text hmem, if_neg Bool.false_ne_true]

theorem valuesOf_enumerationType (written : WrittenValues) :
    valuesOf (enumerationType written) = .ok written.values := by
  rw [valuesOf, ColumnType.values?_enumerationType]

/-- What a column must be like to be taken as one of plain text. -/
theorem exists_of_text_succeeds {spell : DataType → String}
    {map : Column → ColumnType → List Extra → Except Unsupported DataType}
    {counter : List ColumnOption} {column : Column}
    (h : Succeeds (columnClause spell map counter { column with type := "text" })) :
    ∃ extras, plainExtras column = .ok extras
      ∧ Succeeds (defaultOptions column ⟨"text", none, false⟩ extras) := by
  obtain ⟨extras, type, hextras, htype, -, hdefault, -⟩ := columnClause_succeeds_iff.1 h
  have hread : ColumnType.read? "text" = some ⟨"text", none, false⟩ := by decide +kernel
  have htext : typeOf { column with type := "text" } = .ok ⟨"text", none, false⟩ := by
    rw [typeOf]
    simp only [hread]
  rw [htext] at htype
  obtain rfl := Except.ok.inj htype
  exact ⟨extras, hextras, hdefault⟩

/-- **The column of an enumeration ends with its values**, if there is a type for it and the column
    would be taken as one of plain text. -/
theorem columnClause_enumeration {spell : DataType → String}
    {map : Column → ColumnType → List Extra → Except Unsupported DataType}
    {counter : List ColumnOption} {column : Column} {written : WrittenValues} {target : DataType}
    (htype : column.type = enumerationText written)
    (hline : ∀ value ∈ written.values, '\n' ∉ value.toList)
    (hnul : ∀ value ∈ written.values, Sql.carriesNul value = false)
    (hmap : ∀ extras, Extra.autoIncrements extras = false →
      map column (enumerationType written) extras = .ok target)
    (hcounter : column.countsUp = false)
    (hother : Succeeds (columnClause spell map counter { column with type := "text" })) :
    ∃ options : List ColumnOption, columnClause spell map counter column
      = .ok ⟨column.name, spell target, options ++ [.oneOf written.values]⟩ := by
  obtain ⟨extras, hextras, default, hdefault⟩ := exists_of_text_succeeds hother
  obtain ⟨read, hread, hplain⟩ := bind_eq_ok_iff.1 hextras
  obtain ⟨-, hsame⟩ := Checked.check_eq_ok_iff.1 hplain
  obtain rfl := Except.ok.inj hsame
  have hnone : Extra.autoIncrements read = false := by rw [extrasOf_eq_ok hread, hcounter]
  have hkind : typeOf column = .ok (enumerationType written) := by
    rw [typeOf, htype]
    simp only [ColumnType.read?_enumerationText hline]
  have hown : defaultOptions column (enumerationType written) read = .ok default := by
    rw [← hdefault]
    exact defaultOptions_congr (by rfl) column read
  have hvalues : enumerationOptions (enumerationType written) = .ok [.oneOf written.values] := by
    have henum : ((enumerationType written).base == "enum") = true := by rfl
    rw [enumerationOptions, if_pos henum]
    exact bind_eq_ok_iff.2 ⟨_, valuesOf_enumerationType written,
      bind_eq_ok_iff.2 ⟨_, mapM_carried hnul, rfl⟩⟩
  exact ⟨_, bind_eq_ok_iff.2 ⟨_, hextras, bind_eq_ok_iff.2 ⟨_, hkind,
    bind_eq_ok_iff.2 ⟨_, hmap read hnone, bind_eq_ok_iff.2 ⟨_, hown,
      bind_eq_ok_iff.2 ⟨_, hvalues, rfl⟩⟩⟩⟩⟩⟩

end Standard

/-! ### Lengths -/

/-- The greatest length found, starting with a given one. -/
theorem exists_foldl_max (values : List String) (first : Nat) :
    ∃ longest, values.foldl (fun longest value => max longest value.toList.length) first = longest
      ∧ first ≤ longest ∧ (∀ value ∈ values, value.toList.length ≤ longest)
      ∧ (longest = first ∨ ∃ value ∈ values, value.toList.length = longest) := by
  induction values generalizing first with
  | nil => exact ⟨first, rfl, Nat.le_refl first, List.forall_mem_nil _, .inl rfl⟩
  | cons value values ih =>
    obtain ⟨longest, hfold, hfirst, hall, hone⟩ := ih (max first value.toList.length)
    refine ⟨longest, hfold, by omega, List.forall_mem_cons.2 ⟨by omega, hall⟩, ?_⟩
    rcases hone with hmax | ⟨other, hother, hlength⟩
    · rcases Nat.le_total value.toList.length first with hle | hle
      · exact .inl (by omega)
      · exact .inr ⟨value, List.mem_cons_self, by omega⟩
    · exact .inr ⟨other, List.mem_cons_of_mem _ hother, hlength⟩

/-- A length is that of the longest value, or 1 if all values are empty. -/
def IsLongest (values : List String) (length : Nat) : Prop :=
  (∀ value ∈ values, value.toList.length ≤ length)
    ∧ ((∃ value ∈ values, value.toList.length = length)
      ∨ length = 1 ∧ ∀ value ∈ values, value = "")

theorem isLongest_enumerationLength (values : List String) :
    IsLongest values (Generic.enumerationLength values) := by
  obtain ⟨longest, hfold, -, hall, hone⟩ := exists_foldl_max values 0
  have hlength : Generic.enumerationLength values = max longest 1 := by
    rw [Generic.enumerationLength, hfold]
  rw [hlength]
  refine ⟨fun value hmem => Nat.le_trans (hall value hmem) (Nat.le_max_left _ _), ?_⟩
  rcases Nat.eq_zero_or_pos longest with rfl | hpositive
  · refine .inr ⟨rfl, fun value hmem => ?_⟩
    have hempty := Nat.le_zero.1 (hall value hmem)
    exact String.toList_eq_nil_iff.1 (List.eq_nil_of_length_eq_zero hempty)
  · obtain ⟨value, hmem, hvalue⟩ := hone.resolve_left (by omega)
    exact .inl ⟨value, hmem, by omega⟩

/-! ### Columns of the dialects -/

theorem Generic.dataType_enumeration (column : Column) (written : WrittenValues)
    {extras : List Extra} (h : Extra.autoIncrements extras = false) :
    Generic.dataType column (enumerationType written) extras
      = .ok (.varchar (Generic.enumerationLength written.values)) := by
  have henum : ((enumerationType written).base == "enum") = true := by rfl
  rw [Generic.dataType, h, Bool.false_and, if_neg Bool.false_ne_true, if_pos henum,
    Standard.valuesOf_enumerationType]
  rfl

theorem Postgresql.dataType_enumeration (column : Column) (written : WrittenValues)
    {extras : List Extra} (h : Extra.autoIncrements extras = false) :
    Postgresql.dataType column (enumerationType written) extras = .ok .text := by
  have henum : ((enumerationType written).base == "enum"
      || (enumerationType written).base == "set") = true := by
    rfl
  rw [Postgresql.dataType, h, if_neg Bool.false_ne_true, if_pos henum]

/-- Values with a quote, a comma, a backslash, and the end of a type. -/
def oddValues : WrittenValues where
  leading := .spaces 0
  first := "it's"
  others := [⟨.spaces 1, .spaces 1, "a,\\"⟩, ⟨.spaces 0, .spaces 0, ") unsigned"⟩]
  trailing := .spaces 1

def oddColumn : Column :=
  ⟨"check", "enum('it''s' , 'a,\\\\',') unsigned' )", false, "", some "it's", "", ""⟩

end Dialect
end SchemaDump
