/-
  SchemaDump/Proofs/Dialect/DataType.lean
  =======================================
  **Standard SQL has room for what a column holds.**

  Whole numbers of MySQL have 8 to 64 bits and may be unsigned.  The types of
  standard SQL are signed, so an unsigned column gets the next wider one, and
  decimal digits beyond 64 bits.  Enumerations and sets become texts: as long as
  the longest value of an enumeration, and as all values of a set with a comma
  after each, which is enough for any choice of them.
-/
import Mathlib.Algebra.Order.BigOperators.Group.List
import Mathlib.Algebra.Order.Ring.Nat
import SchemaDump.Proofs.Dialect.Enumeration
import SchemaDump.Proofs.Sql.DataType

namespace SchemaDump

/-! ### Whole numbers of MySQL -/

namespace ColumnType

/-- The bits of a type of whole numbers. -/
def bits? (type : ColumnType) : Option Nat :=
  match type.base with
  | "tinyint" => some 8
  | "smallint" => some 16
  | "mediumint" => some 24
  | "int" | "integer" => some 32
  | "bigint" => some 64
  | _ => none

/-- **The whole numbers that a column of MySQL holds**, if its type is one of whole numbers. -/
def wholeNumbers? (type : ColumnType) : Option Sql.Range :=
  type.bits?.map fun bits => .ofBits bits type.unsigned

end ColumnType

/-! ### Room for numbers -/

namespace Sql.Range

/-- One range of numbers lies within another. -/
def Within (inner outer : Range) : Prop := ∀ n, inner.Holds n → outer.Holds n

theorem within_of_le {inner outer : Range} (hleast : outer.least ≤ inner.least)
    (hgreatest : inner.greatest ≤ outer.greatest) : inner.Within outer := by
  rintro n ⟨hlow, hhigh⟩
  exact ⟨Int.le_trans hleast hlow, Int.le_trans hhigh hgreatest⟩

/-- Numbers lie within signed ones of as many bits, unsigned numbers of one bit more. -/
theorem ofBits_within {bits wider : Nat} {unsigned : Bool} (h : bits + unsigned.toNat ≤ wider) :
    (ofBits bits unsigned).Within (ofBits wider false) := by
  cases unsigned with
  | true =>
    have hbits : bits ≤ wider - 1 := by
      rw [Bool.toNat_true] at h
      omega
    have hpower : (2 : Int) ^ bits ≤ 2 ^ (wider - 1) := pow_le_pow_right₀ (by decide) hbits
    have hpositive : (0 : Int) < 2 ^ (wider - 1) := Int.pow_pos (by decide)
    apply within_of_le
    · simp only [ofBits, if_true, if_false, Bool.false_eq_true]
      omega
    · simp only [ofBits, if_true, if_false, Bool.false_eq_true]
      omega
  | false =>
    have hbits : bits - 1 ≤ wider - 1 := Nat.sub_le_sub_right h 1
    have hpower : (2 : Int) ^ (bits - 1) ≤ 2 ^ (wider - 1) :=
      pow_le_pow_right₀ (by decide) hbits
    apply within_of_le
    · simp only [ofBits, if_false, Bool.false_eq_true]
      omega
    · simp only [ofBits, if_false, Bool.false_eq_true]
      omega

/-- Unsigned numbers of 64 bits have at most 20 digits. -/
theorem unsigned64_within : (ofBits 64 true).Within (ofDigits 20) :=
  within_of_le (by decide) (by decide)

end Sql.Range

namespace Dialect

open Sql (DataType Range)

/-! ### Types of counters -/

/-- In standard SQL only whole numbers count up. -/
theorem Generic.isInteger_of_dataType {column : Column} {type : ColumnType} {extras : List Extra}
    {target : DataType} (h : Generic.dataType column type extras = .ok target)
    (hcounter : Extra.autoIncrements extras = true) : type.isInteger = true := by
  rw [Generic.dataType, hcounter, Bool.true_and] at h
  cases hinteger : type.isInteger with
  | true => rfl
  | false =>
    rw [hinteger, Bool.not_false, if_pos rfl] at h
    cases h

theorem Postgresql.isInteger_of_serialType? {type : ColumnType} {target : DataType}
    (h : Postgresql.serialType? type = some target) : type.isInteger = true := by
  rw [← Postgresql.isSome_serialType?, h, Option.isSome_some]

/-- In PostgreSQL only whole numbers count up. -/
theorem Postgresql.isInteger_of_dataType {column : Column} {type : ColumnType}
    {extras : List Extra} {target : DataType}
    (h : Postgresql.dataType column type extras = .ok target)
    (hcounter : Extra.autoIncrements extras = true) : type.isInteger = true := by
  rcases Postgresql.dataType_eq_ok h with ⟨-, hserial⟩ | ⟨hnone, -⟩ | ⟨hnone, -⟩
  · exact Postgresql.isInteger_of_serialType? hserial
  · rw [hcounter] at hnone
    cases hnone
  · rw [hcounter] at hnone
    cases hnone

/-! ### Types of whole numbers -/

/-- **The common types of whole numbers are wide enough.** -/
theorem Standard.within_of_commonType? {type : ColumnType} {target : DataType}
    (hinteger : type.isInteger = true) (h : commonType? type = some target) :
    ∃ source range, type.wholeNumbers? = some source
      ∧ Sql.wholeNumbers? target.standard = some range ∧ source.Within range := by
  obtain ⟨base, arguments, unsigned⟩ := type
  have hsmall : Sql.wholeNumbers? DataType.smallInteger.standard = some (.ofBits 16 false) := by
    decide
  have hmiddle : Sql.wholeNumbers? DataType.integer.standard = some (.ofBits 32 false) := by
    decide
  have hbig : Sql.wholeNumbers? DataType.bigInteger.standard = some (.ofBits 64 false) := by
    decide
  have hdigits : Sql.wholeNumbers? (DataType.decimal [20]).standard = some (.ofDigits 20) := by
    decide +kernel
  rcases isInteger_iff.1 hinteger with rfl | rfl | rfl | rfl | rfl | rfl
  · obtain rfl := Option.some.inj h
    exact ⟨.ofBits 8 unsigned, _, rfl, hsmall, Range.ofBits_within (by cases unsigned <;> decide)⟩
  · cases unsigned <;> obtain rfl := Option.some.inj h
    · exact ⟨.ofBits 16 false, _, rfl, hsmall, Range.ofBits_within (by decide)⟩
    · exact ⟨.ofBits 16 true, _, rfl, hmiddle, Range.ofBits_within (by decide)⟩
  · obtain rfl := Option.some.inj h
    exact ⟨.ofBits 24 unsigned, _, rfl, hmiddle, Range.ofBits_within (by cases unsigned <;> decide)⟩
  · cases unsigned <;> obtain rfl := Option.some.inj h
    · exact ⟨.ofBits 32 false, _, rfl, hmiddle, Range.ofBits_within (by decide)⟩
    · exact ⟨.ofBits 32 true, _, rfl, hbig, Range.ofBits_within (by decide)⟩
  · cases unsigned <;> obtain rfl := Option.some.inj h
    · exact ⟨.ofBits 32 false, _, rfl, hmiddle, Range.ofBits_within (by decide)⟩
    · exact ⟨.ofBits 32 true, _, rfl, hbig, Range.ofBits_within (by decide)⟩
  · cases unsigned <;> obtain rfl := Option.some.inj h
    · exact ⟨.ofBits 64 false, _, rfl, hbig, Range.ofBits_within (by decide)⟩
    · exact ⟨.ofBits 64 true, _, rfl, hdigits, Range.unsigned64_within⟩

/-! ### Room for texts -/

/-- A text put together with a mark is shorter than its parts with a mark after each. -/
theorem length_joined_le (mark : Char) (items : List String) :
    (Text.joined (String.singleton mark) items).toList.length
      ≤ (items.map fun item => item.toList.length + 1).sum := by
  induction items with
  | nil => exact Nat.le_refl 0
  | cons first others ih =>
    cases others with
    | nil =>
      simp only [Text.joined, List.map_cons, List.map_nil, List.sum_cons, List.sum_nil]
      omega
    | cons second more =>
      simp only [Text.joined, String.toList_append, String.toList_singleton, List.length_append,
        List.length_singleton, List.map_cons, List.sum_cons] at ih ⊢
      omega

/-- **A set has room for any choice of its values** with commas between them. -/
theorem Generic.length_joined_le_setLength {values chosen : List String} (hnodup : chosen.Nodup)
    (hchosen : ∀ value ∈ chosen, value ∈ values) :
    (Text.joined "," chosen).toList.length ≤ Generic.setLength values := by
  let size := fun value : String => value.toList.length + 1
  have hsum : values.foldl (fun sum value => sum + size value) 0 = (values.map size).sum := by
    rw [List.sum_eq_foldl, List.foldl_map]
  -- chosen values are some of the values, in another order
  obtain ⟨listed, hperm, hsublist⟩ := List.subperm_of_subset hnodup hchosen
  calc (Text.joined "," chosen).toList.length
      ≤ (chosen.map size).sum := length_joined_le ',' chosen
    _ = (listed.map size).sum := ((hperm.map size).sum_nat).symm
    _ ≤ (values.map size).sum := (hsublist.map size).sum_le_sum fun _ _ => Nat.zero_le _
    _ ≤ Generic.setLength values := by
      rw [← hsum]
      exact Nat.le_max_left _ _

/-! ### Columns -/

namespace Generic

/-- **A spelled type has room for what a column of MySQL holds**: for the whole numbers of its
    type, for each value of an enumeration, and for any choice of the values of a set with commas
    between them. -/
structure HasRoom (type : ColumnType) (spelled : String) : Prop where
  wholeNumbers : type.isInteger = true →
    ∃ source range, type.wholeNumbers? = some source ∧ Sql.wholeNumbers? spelled = some range
      ∧ source.Within range
  enumeration : type.base = "enum" →
    ∃ values length, type.values? = some values
      ∧ Sql.spelledType? spelled = some ("VARCHAR", [length])
      ∧ ∀ value ∈ values, value.toList.length ≤ length
  set : type.base = "set" →
    ∃ values length, type.values? = some values
      ∧ Sql.spelledType? spelled = some ("VARCHAR", [length])
      ∧ ∀ chosen : List String, chosen.Nodup → (∀ value ∈ chosen, value ∈ values) →
        (Text.joined "," chosen).toList.length ≤ length

theorem hasRoom_of_dataType {column : Column} {type : ColumnType} {extras : List Extra}
    {target : DataType} (h : dataType column type extras = .ok target) :
    HasRoom type target.standard := by
  rcases dataType_eq_ok h with ⟨henum, values, hvalues, rfl⟩ | ⟨hset, values, hvalues, rfl⟩
    | ⟨hnotEnum, hnotSet, hcommon⟩
  · refine ⟨?_, ?_, ?_⟩
    · intro hinteger
      rw [isInteger_iff, henum] at hinteger
      simp at hinteger
    · intro _
      exact ⟨values, _, hvalues, Sql.spelledType?_varchar _, (isLongest_enumerationLength values).1⟩
    · intro hset
      rw [henum] at hset
      simp at hset
  · refine ⟨?_, ?_, ?_⟩
    · intro hinteger
      rw [isInteger_iff, hset] at hinteger
      simp at hinteger
    · intro henum
      rw [hset] at henum
      simp at henum
    · intro _
      exact ⟨values, _, hvalues, Sql.spelledType?_varchar _,
        fun chosen hnodup hchosen => length_joined_le_setLength hnodup hchosen⟩
  · refine ⟨?_, ?_, ?_⟩
    · intro hinteger
      exact Standard.within_of_commonType? hinteger hcommon
    · intro henum
      exact absurd henum hnotEnum
    · intro hset
      exact absurd hset hnotSet

/-- **Standard SQL never narrows a column.**  The type of a column that is taken has room for
    whatever the column holds in MySQL. -/
theorem hasRoom_of_columnClause {column : Column} {clause : Sql.ColumnClause}
    (h : columnClause column = .ok clause) :
    ∃ type, ColumnType.read? column.type = some type ∧ HasRoom type clause.type := by
  obtain ⟨extras, type, target, -, -, -, htype, htarget, -, -, rfl⟩ :=
    Standard.columnClause_eq_ok h
  exact ⟨type, read?_of_typeOf htype, hasRoom_of_dataType htarget⟩

/-- A counter beyond signed numbers of 64 bits. -/
def counterColumn : Column :=
  ⟨"id", "bigint(20) unsigned zerofill", false, "PRI", none, "auto_increment", ""⟩

/-- A set that lists a value twice. -/
def flagsColumn : Column := ⟨"flags", "set('a','bc','a')", true, "", none, "", ""⟩

theorem hasRoom_counterColumn :
    (∃ clause, columnClause counterColumn = .ok clause
        ∧ HasRoom ⟨"bigint", some "20", true⟩ clause.type)
      ∧ ∃ clause, columnClause flagsColumn = .ok clause
        ∧ HasRoom ⟨"set", some "'a','bc','a'", false⟩ clause.type := by
  have hcounter : ColumnType.read? counterColumn.type = some ⟨"bigint", some "20", true⟩ := by
    decide +kernel
  have hflags : ColumnType.read? flagsColumn.type = some ⟨"set", some "'a','bc','a'", false⟩ := by
    decide +kernel
  constructor
  · obtain ⟨clause, hclause⟩ := Checked.exists_of_isOk
      (by decide +kernel : (columnClause counterColumn).isOk = true)
    obtain ⟨type, htype, hroom⟩ := hasRoom_of_columnClause hclause
    obtain rfl := Option.some.inj (hcounter.symm.trans htype)
    exact ⟨clause, hclause, hroom⟩
  · obtain ⟨clause, hclause⟩ := Checked.exists_of_isOk
      (by decide +kernel : (columnClause flagsColumn).isOk = true)
    obtain ⟨type, htype, hroom⟩ := hasRoom_of_columnClause hclause
    obtain rfl := Option.some.inj (hflags.symm.trans htype)
    exact ⟨clause, hclause, hroom⟩

end Generic
end Dialect
end SchemaDump
