/-
  SchemaDump/Proofs/Dialect/Parameters.lean
  =========================================
  **Which parameters of a type outlive MySQL.**

  Outside MySQL exact numbers take a precision and a scale, strings a length, and
  moments a precision; a time of day takes nothing.  Arguments that are so many
  numerals are carried over in their places.  Others are not: items that are no
  numerals are passed over, so that the next one takes their place, and surplus
  ones are left out.  A column is never refused for its parameters.
-/
import SchemaDump.Proofs.Dialect.DataType

namespace SchemaDump

/-! ### Arguments as a list of items -/

namespace ColumnType

/-- The items between the commas of some arguments, without the blanks around them. -/
def items (arguments : String) : List (List Char) :=
  (Text.parts (· == ',') arguments.toList).map Text.trim

theorem items_ne_nil (arguments : String) : items arguments ≠ [] := by
  rw [items, ne_eq, List.map_eq_nil_iff]
  exact Text.parts_ne_nil _ _

theorem numbers_eq {type : ColumnType} {arguments : String} (h : type.arguments = some arguments) :
    type.numbers = (items arguments).filterMap Text.unsigned32? := by
  rw [numbers, h, items, List.filterMap_map]
  rfl

end ColumnType

namespace Dialect

open Checked (Succeeds mapM_eq_some_iff_filterMap)
open ColumnType (items)
open Sql (ColumnClause ColumnOption DataType Unsupported)

/-! ### Parameters of the common types -/

namespace Standard

/-- How many parameters the type outside MySQL takes, for base names of types that have explicit
    parameters in MySQL. -/
def parameterRoom? (base : String) : Option Nat :=
  match base with
  | "decimal" | "numeric" | "dec" | "fixed" => some 2
  | "char" | "varchar" | "datetime" | "timestamp" => some 1
  | "time" => some 0
  | _ => none

theorem commonType?_of_room {type : ColumnType} {room : Nat}
    (h : parameterRoom? type.base = some room) :
    (room = 2 ∧ commonType? type = some (.decimal (decimalParameters type)))
      ∨ (room = 1 ∧ commonType? type = some (.char (type.length?.elim 1 UInt32.toNat)))
      ∨ (room = 1 ∧ commonType? type
        = some (type.length?.elim .text fun length => .varchar length.toNat))
      ∨ (room = 1 ∧ commonType? type = some (.timestamp (type.length?.map UInt32.toNat)))
      ∨ (room = 0 ∧ commonType? type = some .time) := by
  obtain ⟨base, arguments, unsigned⟩ := type
  dsimp only at h
  unfold parameterRoom? at h
  split at h
  all_goals cases h
  case h_1 | h_2 | h_3 | h_4 => exact .inl ⟨rfl, rfl⟩
  case h_5 => exact .inr (.inl ⟨rfl, rfl⟩)
  case h_6 => exact .inr (.inr (.inl ⟨rfl, rfl⟩))
  case h_7 | h_8 => exact .inr (.inr (.inr (.inl ⟨rfl, rfl⟩)))
  case h_9 => exact .inr (.inr (.inr (.inr ⟨rfl, rfl⟩)))

/-- No type takes more parameters than it has room for. -/
theorem length_parameters_le {type : ColumnType} {room : Nat} {target : DataType}
    (hroom : parameterRoom? type.base = some room) (h : commonType? type = some target) :
    target.parameters.length ≤ room := by
  rcases commonType?_of_room hroom with ⟨rfl, hcommon⟩ | ⟨rfl, hcommon⟩ | ⟨rfl, hcommon⟩
    | ⟨rfl, hcommon⟩ | ⟨rfl, hcommon⟩
  all_goals
    rw [hcommon] at h
    obtain rfl := Option.some.inj h
  · rw [DataType.parameters, decimalParameters]
    split <;> simp
  · exact Nat.le_refl 1
  · cases type.length? with
    | none => exact Nat.zero_le 1
    | some length => exact Nat.le_refl 1
  · cases type.length? with
    | none => exact Nat.zero_le 1
    | some length => exact Nat.le_refl 1
  · exact Nat.le_refl 0

/-- **Numbers that a type has room for are its parameters.** -/
theorem parameters_eq_numbers {type : ColumnType} {room : Nat} {target : DataType}
    (hroom : parameterRoom? type.base = some room) (h : commonType? type = some target)
    (hne : type.numbers ≠ []) (hlength : type.numbers.length ≤ room) :
    target.parameters = type.numbers.map UInt32.toNat := by
  -- a single number is a length
  have hone : room = 1 → ∃ n, type.numbers = [n] ∧ type.length? = some n := by
    intro hroom
    have hsingle : type.numbers.length = 1 := by
      have hpositive := List.length_pos_iff.2 hne
      omega
    obtain ⟨n, hn⟩ := List.length_eq_one_iff.1 hsingle
    exact ⟨n, hn, by rw [ColumnType.length?, hn]; rfl⟩
  rcases commonType?_of_room hroom with ⟨rfl, hcommon⟩ | ⟨rfl, hcommon⟩ | ⟨rfl, hcommon⟩
    | ⟨rfl, hcommon⟩ | ⟨rfl, hcommon⟩
  all_goals
    rw [hcommon] at h
    obtain rfl := Option.some.inj h
  · rw [DataType.parameters, decimalParameters]
    match hnumbers : type.numbers with
    | [] => exact absurd hnumbers hne
    | [_] => rfl
    | [_, _] => rfl
    | _ :: _ :: _ :: _ =>
      rw [hnumbers] at hlength
      simp at hlength
  · obtain ⟨n, hnumbers, hlength⟩ := hone rfl
    rw [hnumbers, hlength]
    rfl
  · obtain ⟨n, hnumbers, hlength⟩ := hone rfl
    rw [hnumbers, hlength]
    rfl
  · obtain ⟨n, hnumbers, hlength⟩ := hone rfl
    rw [hnumbers, hlength]
    rfl
  · exact absurd (List.eq_nil_of_length_eq_zero (Nat.le_zero.1 hlength)) hne

/-- Types with parameters are none of bytes. -/
theorem ne_binary_of_room {type : ColumnType} {room : Nat} {target : DataType}
    (hroom : parameterRoom? type.base = some room) (h : commonType? type = some target)
    (length : Nat) : target ≠ .binary length ∧ target ≠ .varbinary length := by
  rcases commonType?_of_room hroom with ⟨-, hcommon⟩ | ⟨-, hcommon⟩ | ⟨-, hcommon⟩
    | ⟨-, hcommon⟩ | ⟨-, hcommon⟩
  all_goals
    rw [hcommon] at h
    obtain rfl := Option.some.inj h
  case inr.inr.inl => cases type.length? <;> simp
  all_goals simp

/-! ### Parameters that are carried over -/

/-- **A spelled type carries some arguments**: each item of them is a numeral of 32 bits, and the
    type has these numbers for parameters, in the same places. -/
def Carries (spelled arguments : String) : Prop :=
  ∃ name numbers, (items arguments).mapM Text.unsigned32? = some numbers
    ∧ Sql.spelledType? spelled = some (name, numbers.map UInt32.toNat)

/-- Arguments are so many numerals at most. -/
def AreNumerals (arguments : String) (room : Nat) : Prop :=
  (∀ item ∈ items arguments, (Text.unsigned32? item).isSome = true)
    ∧ (items arguments).length ≤ room

theorem carries_iff {type : ColumnType} {arguments spelled name : String} {room : Nat}
    {target : DataType} (harguments : type.arguments = some arguments)
    (hroom : parameterRoom? type.base = some room) (hcommon : commonType? type = some target)
    (hspelled : Sql.spelledType? spelled = some (name, target.parameters)) :
    Carries spelled arguments ↔ AreNumerals arguments room := by
  have hnumbers := ColumnType.numbers_eq harguments
  constructor
  · rintro ⟨other, numbers, hread, hother⟩
    rw [hspelled] at hother
    obtain ⟨-, hparameters⟩ := Prod.mk.inj (Option.some.inj hother)
    have hlength := (Checked.mapM_eq_some_iff.1 hread).length_eq
    have hroom := length_parameters_le hroom hcommon
    rw [hparameters, List.length_map] at hroom
    exact ⟨(mapM_eq_some_iff_filterMap.1 hread).1, by omega⟩
  · rintro ⟨hall, hlength⟩
    have hread : (items arguments).mapM Text.unsigned32? = some type.numbers :=
      mapM_eq_some_iff_filterMap.2 ⟨hall, hnumbers.symm⟩
    have hsame := (Checked.mapM_eq_some_iff.1 hread).length_eq
    have hne : type.numbers ≠ [] := by
      intro hnone
      rw [hnone, List.length_nil, List.length_eq_zero_iff] at hsame
      exact ColumnType.items_ne_nil arguments hsame
    have hparameters := parameters_eq_numbers hroom hcommon hne (by omega)
    exact ⟨name, type.numbers, hread, by rw [hspelled, hparameters]⟩

end Standard

/-! ### Columns that are taken -/

namespace Standard

theorem base_of_room {type : ColumnType} {room : Nat} (h : parameterRoom? type.base = some room) :
    type.base ≠ "enum" ∧ type.base ≠ "set" ∧ type.isInteger = false
      ∧ ColumnType.read? type.base = some ⟨type.base, none, false⟩ := by
  obtain ⟨base, arguments, unsigned⟩ := type
  dsimp only at h ⊢
  unfold parameterRoom? at h
  split at h
  all_goals cases h
  all_goals exact ⟨by decide, by decide, by rfl, by decide +kernel⟩

end Standard

/-- There is a type for a column with parameters unless it is a counter. -/
theorem Generic.dataType_succeeds_iff_of_room {column : Column} {type : ColumnType}
    {extras : List Extra} {room : Nat} (h : Standard.parameterRoom? type.base = some room) :
    Succeeds (Generic.dataType column type extras) ↔ Extra.autoIncrements extras = false := by
  obtain ⟨henum, hset, hinteger, -⟩ := Standard.base_of_room h
  obtain ⟨target, hcommon⟩ : ∃ target, Standard.commonType? type = some target := by
    rcases Standard.commonType?_of_room h with ⟨-, hcommon⟩ | ⟨-, hcommon⟩ | ⟨-, hcommon⟩
      | ⟨-, hcommon⟩ | ⟨-, hcommon⟩
    all_goals exact ⟨_, hcommon⟩
  rw [Generic.dataType]
  cases Extra.autoIncrements extras <;> simp [henum, hset, hinteger, hcommon]

theorem Postgresql.dataType_succeeds_iff_of_room {column : Column} {type : ColumnType}
    {extras : List Extra} {room : Nat} (h : Standard.parameterRoom? type.base = some room) :
    Succeeds (Postgresql.dataType column type extras) ↔ Extra.autoIncrements extras = false := by
  constructor
  · rintro ⟨target, htarget⟩
    rcases Postgresql.dataType_eq_ok htarget with ⟨-, hserial⟩ | ⟨hcounter, -⟩ | ⟨hcounter, -⟩
    · have hinteger := Postgresql.isInteger_of_serialType? hserial
      rw [(Standard.base_of_room h).2.2.1] at hinteger
      cases hinteger
    · exact hcounter
    · exact hcounter
  · intro hcounter
    apply Postgresql.dataType_succeeds_of_generic
    exact (Generic.dataType_succeeds_iff_of_room h).2 hcounter

namespace Standard

section
variable {spell : DataType → String} {counter : List ColumnOption} {room : Nat}
  {map : Column → ColumnType → List Extra → Except Unsupported DataType}

theorem columnClause_succeeds_iff_of_room {column : Column} {type : ColumnType}
    (htype : ColumnType.read? column.type = some type)
    (hroom : parameterRoom? type.base = some room)
    (hmap : ∀ extras, Succeeds (map column type extras) ↔ Extra.autoIncrements extras = false) :
    Succeeds (columnClause spell map counter column)
      ↔ ∃ extras, plainExtras column = .ok extras ∧ Extra.autoIncrements extras = false
        ∧ Succeeds (defaultOptions column type extras) := by
  have hread : typeOf column = .ok type := by
    rw [typeOf]
    simp only [htype]
  have hvalues : Succeeds (enumerationOptions type) := by
    have henum : ¬(type.base == "enum") = true := by simpa using (base_of_room hroom).1
    rw [enumerationOptions, if_neg henum]
    exact Checked.succeeds_ok []
  rw [columnClause_succeeds_iff]
  constructor
  · rintro ⟨extras, other, hextras, hother, htarget, hdefault, -⟩
    obtain rfl := Except.ok.inj (hread.symm.trans hother)
    exact ⟨extras, hextras, (hmap extras).1 htarget, hdefault⟩
  · rintro ⟨extras, hextras, hcounter, hdefault⟩
    exact ⟨extras, type, hextras, hread, (hmap extras).2 hcounter, hdefault, hvalues⟩

/-- **No column is refused for its parameters**: it is taken with them exactly if it is taken with
    the bare name of its type. -/
theorem columnClause_succeeds_bare_iff {column : Column} {type : ColumnType}
    (htype : ColumnType.read? column.type = some type)
    (hroom : parameterRoom? type.base = some room)
    (hmap : ∀ {column} {type : ColumnType} {extras}, parameterRoom? type.base = some room →
      (Succeeds (map column type extras) ↔ Extra.autoIncrements extras = false)) :
    Succeeds (columnClause spell map counter { column with type := type.base })
      ↔ Succeeds (columnClause spell map counter column) := by
  have hbare : ColumnType.read? { column with type := type.base }.type
      = some ⟨type.base, none, false⟩ :=
    (base_of_room hroom).2.2.2
  have hdefault : ∀ extras, defaultOptions { column with type := type.base }
      ⟨type.base, none, false⟩ extras = defaultOptions column type extras :=
    defaultOptions_congr rfl column
  rw [columnClause_succeeds_iff_of_room hbare hroom fun _ => hmap hroom,
    columnClause_succeeds_iff_of_room htype hroom fun _ => hmap hroom]
  simp only [hdefault]
  rfl

end

end Standard

/-! ### Columns of the dialects -/

/-- A column with parameters gets a common type. -/
theorem Generic.commonType?_of_dataType {column : Column} {type : ColumnType}
    {extras : List Extra} {target : DataType} {room : Nat}
    (hroom : Standard.parameterRoom? type.base = some room)
    (h : Generic.dataType column type extras = .ok target) :
    Standard.commonType? type = some target := by
  obtain ⟨henum, hset, -⟩ := Standard.base_of_room hroom
  rcases Generic.dataType_eq_ok h with ⟨hbase, -⟩ | ⟨hbase, -⟩ | ⟨-, -, hcommon⟩
  · exact absurd hbase henum
  · exact absurd hbase hset
  · exact hcommon

theorem Postgresql.commonType?_of_dataType {column : Column} {type : ColumnType}
    {extras : List Extra} {target : DataType} {room : Nat}
    (hroom : Standard.parameterRoom? type.base = some room)
    (h : Postgresql.dataType column type extras = .ok target) :
    Standard.commonType? type = some target := by
  obtain ⟨henum, hset, hinteger, -⟩ := Standard.base_of_room hroom
  rcases Postgresql.dataType_eq_ok h with ⟨-, hserial⟩ | ⟨-, hbase | hbase, -⟩ | ⟨-, -, -, hcommon⟩
  · rw [Postgresql.isInteger_of_serialType? hserial] at hinteger
    cases hinteger
  · exact absurd hbase henum
  · exact absurd hbase hset
  · exact hcommon

/-- The parameters that a column carries over, in a dialect that spells all of them. -/
theorem Standard.carries_iff_of_columnClause {spell : DataType → String}
    {map : Column → ColumnType → List Extra → Except Unsupported DataType}
    {counter : List ColumnOption} {column : Column} {type : ColumnType} {arguments : String}
    {room : Nat} (htype : ColumnType.read? column.type = some type)
    (harguments : type.arguments = some arguments) (hroom : parameterRoom? type.base = some room)
    (hmap : ∀ {extras target}, map column type extras = .ok target →
      commonType? type = some target)
    (hspell : ∀ {target}, commonType? type = some target →
      ∃ name, Sql.spelledType? (spell target) = some (name, target.parameters))
    {clause : ColumnClause} (h : columnClause spell map counter column = .ok clause) :
    Carries clause.type arguments ↔ AreNumerals arguments room := by
  obtain ⟨extras, other, target, -, -, -, hother, htarget, -, -, rfl⟩ := columnClause_eq_ok h
  obtain rfl := Option.some.inj (htype.symm.trans (read?_of_typeOf hother))
  have hcommon := hmap htarget
  obtain ⟨name, hspelled⟩ := hspell hcommon
  exact carries_iff harguments hroom hcommon hspelled

/-- **Which parameters outlive MySQL.**  A column with explicit parameters that is taken outside
    MySQL carries them over exactly if they are numerals and no more than its type takes there; and
    whether it is taken does not depend on them. -/
theorem carries_iff_areNumerals {column : Column} {type : ColumnType} {arguments : String}
    {room : Nat} (htype : ColumnType.read? column.type = some type)
    (harguments : type.arguments = some arguments)
    (hroom : Standard.parameterRoom? type.base = some room) :
    (∀ clause, Generic.columnClause column = .ok clause →
        (Standard.Carries clause.type arguments ↔ Standard.AreNumerals arguments room))
      ∧ (∀ clause, Postgresql.columnClause column = .ok clause →
        (Standard.Carries clause.type arguments ↔ Standard.AreNumerals arguments room))
      ∧ (Succeeds (Generic.columnClause { column with type := type.base })
        ↔ Succeeds (Generic.columnClause column))
      ∧ (Succeeds (Postgresql.columnClause { column with type := type.base })
        ↔ Succeeds (Postgresql.columnClause column)) := by
  refine ⟨?_, ?_, ?_, ?_⟩
  · intro clause
    apply Standard.carries_iff_of_columnClause htype harguments hroom
    · exact Generic.commonType?_of_dataType hroom
    · intro target hcommon
      exact Sql.spelledType?_standard target
  · intro clause
    apply Standard.carries_iff_of_columnClause htype harguments hroom
    · exact Postgresql.commonType?_of_dataType hroom
    · intro target hcommon
      exact Sql.spelledType?_postgresql (Standard.ne_binary_of_room hroom hcommon)
  · exact Standard.columnClause_succeeds_bare_iff htype hroom
      Generic.dataType_succeeds_iff_of_room
  · exact Standard.columnClause_succeeds_bare_iff htype hroom
      Postgresql.dataType_succeeds_iff_of_room

def priceColumn : Column :=
  ⟨"price", "decimal( 10 , +2 )", false, "", some "0.00", "", ""⟩

theorem carries_priceColumn :
    ∃ generic postgresql, Generic.columnClause priceColumn = .ok generic
      ∧ Postgresql.columnClause priceColumn = .ok postgresql
      ∧ Standard.Carries generic.type "10 , +2" ∧ Standard.Carries postgresql.type "10 , +2" := by
  have htype : ColumnType.read? priceColumn.type
      = some ⟨"decimal", some "10 , +2", false⟩ := by
    decide +kernel
  obtain ⟨hgeneric, hpostgresql, hgenericBare, hpostgresqlBare⟩ :=
    carries_iff_areNumerals htype rfl rfl
  obtain ⟨generic, hclause⟩ := hgenericBare.1 (Checked.succeeds_iff_isOk.2 (by decide +kernel))
  obtain ⟨postgresql, hserver⟩ :=
    hpostgresqlBare.1 (Checked.succeeds_iff_isOk.2 (by decide +kernel))
  have hnumerals : Standard.AreNumerals "10 , +2" 2 := ⟨by decide +kernel, by decide +kernel⟩
  exact ⟨generic, postgresql, hclause, hserver, (hgeneric generic hclause).2 hnumerals,
    (hpostgresql postgresql hserver).2 hnumerals⟩

/-- A time of day to the millisecond. -/
def clockColumn : Column := ⟨"at", "time(3)", true, "", none, "", ""⟩

/-- **A precision that is lost**: a time of day is taken with one and gets a type without. -/
theorem not_carries_clockColumn :
    ColumnType.read? clockColumn.type = some ⟨"time", some "3", false⟩
      ∧ (∀ item ∈ items "3", (Text.unsigned32? item).isSome = true)
      ∧ (∃ clause, Generic.columnClause clockColumn = .ok clause ∧ clause.type = "TIME"
        ∧ ¬Standard.Carries clause.type "3")
      ∧ ∃ clause, Postgresql.columnClause clockColumn = .ok clause ∧ clause.type = "time"
        ∧ ¬Standard.Carries clause.type "3" := by
  have hlost : ∀ spelled, Sql.spelledType? spelled = some (spelled, []) →
      ¬Standard.Carries spelled "3" := by
    rintro spelled hspelled ⟨name, numbers, hread, hcarried⟩
    rw [hspelled] at hcarried
    obtain ⟨-, hnone⟩ := Prod.mk.inj (Option.some.inj hcarried)
    rw [List.map_eq_nil_iff.1 hnone.symm] at hread
    exact absurd hread (by decide +kernel)
  refine ⟨by decide +kernel, by decide +kernel, ⟨⟨"at", "TIME", []⟩, by decide +kernel, rfl, ?_⟩,
    ⟨"at", "time", []⟩, by decide +kernel, rfl, ?_⟩
  · exact hlost "TIME" (Sql.spelledType?_of_plain (by decide))
  · exact hlost "time" (Sql.spelledType?_of_plain (by decide))

end Dialect
end SchemaDump
