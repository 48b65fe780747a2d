/-
  SchemaDump/Proofs/Dialect/ZeroDate.lean
  =======================================
  **Which zero dates have a stand-in outside MySQL.**

  A column of dates may have MySQL's zero date for a default: the date, with a
  time of day or without, and on a column with a precision with the zeros of a
  fraction.  No other database takes it, so the other dialects put the first
  moment of the calendar in its place.  They recognise two spellings, which are
  those without a fraction; with a fraction the zero date stays as it is.
-/
import SchemaDump.Proofs.Dialect.DataType
import SchemaDump.Proofs.Dialect.Default

namespace SchemaDump

namespace Sql

/-! ### Zero dates -/

/-- **The zero date of MySQL**, with a time of day or without, and with so many digits after a
    point or no point. -/
def zeroDate (timed : Bool) (fraction : Option Nat) : String :=
  "0000-00-00" ++ (if timed then " 00:00:00" else "")
    ++ fraction.elim "" fun digits => "." ++ String.ofList (List.replicate digits '0')

/-- What the zero date is replaced by. -/
def firstMoment (timed : Bool) : String := "1970-01-01" ++ if timed then " 00:00:00" else ""

/-- Whether a text starts as the zero date does. -/
def StartsWithZeroDate (text : String) : Prop := "0000-00-00".toList <+: text.toList

theorem startsWithZeroDate_zeroDate (timed : Bool) (fraction : Option Nat) :
    StartsWithZeroDate (zeroDate timed fraction) := by
  rw [StartsWithZeroDate, zeroDate, String.append_assoc, String.toList_append]
  exact List.prefix_append _ _

theorem not_startsWithZeroDate_firstMoment (timed : Bool) :
    ¬StartsWithZeroDate (firstMoment timed) := by
  unfold StartsWithZeroDate
  cases timed <;> decide

/-- **Zero dates without a fraction are replaced**, others are not. -/
theorem portableDate_zeroDate (timed : Bool) (fraction : Option Nat) :
    portableDate (zeroDate timed fraction)
      = if fraction.isSome then zeroDate timed fraction else firstMoment timed := by
  cases fraction with
  | none => cases timed <;> decide
  | some digits =>
    have hpoint : '.' ∈ (zeroDate timed (some digits)).toList := by simp [zeroDate]
    have hne : ∀ other : String, '.' ∉ other.toList → zeroDate timed (some digits) ≠ other := by
      rintro other hother rfl
      exact hother hpoint
    have hmoment := hne "0000-00-00 00:00:00" (by decide)
    have hdate := hne "0000-00-00" (by decide)
    simp [portableDate, hmoment, hdate]

/-- No name of the current time starts with a digit. -/
theorem not_meansNow_of_zero {text : String} {rest : List Char} (h : text.toList = '0' :: rest)
    (precision : String) : ¬MeansNow text precision := by
  rintro ⟨hname, hword, hbefore, -, htext⟩
  rename_i name before word after digits
  obtain ⟨hne, -⟩ := isWordChar_of_folds hname hword
  obtain ⟨first, more, rfl⟩ := List.exists_cons_of_ne_nil hne
  rw [h] at htext
  cases before with
  | nil =>
    obtain ⟨rfl, -⟩ := List.cons.inj htext
    have hstart : ∀ name ∈ currentTimeNames, name.toList.head? ≠ some '0' := by decide
    rw [Text.folds, beq_iff_eq] at hword
    apply hstart name hname
    rw [← hword, List.map_cons, List.head?_cons]
    decide
  | cons blank before =>
    obtain ⟨rfl, -⟩ := List.cons.inj htext
    exact absurd (hbefore '0' List.mem_cons_self) (by decide)

theorem not_meansNow_zeroDate (timed : Bool) (fraction : Option Nat) (precision : String) :
    ¬MeansNow (zeroDate timed fraction) precision := by
  obtain ⟨rest, hrest⟩ := startsWithZeroDate_zeroDate timed fraction
  exact not_meansNow_of_zero hrest.symm precision

/-- **A column definition says one literal for its default**, which is read back as a text. -/
def ColumnClause.SaysLiteral (spelling : Spelling) (clause : ColumnClause) (text : String) : Prop :=
  ∃ written token, clause.SaysDefault spelling written ∧ Spells .standard written token
    ∧ value? token = some (some text)

end Sql

namespace Dialect

open Sql (ColumnClause ColumnOption DataType MeansNow Unsupported firstMoment zeroDate)

/-! ### Literals of dates -/

namespace Standard

theorem StandsFor.eq_portableDate {type : ColumnType} {text carried : String}
    (h : StandsFor type text carried) (htype : type.isTemporal = true) :
    carried = Sql.portableDate text := by
  cases h with
  | zeroMoment _ htext =>
    rw [htext]
    decide
  | zeroDate _ htext =>
    rw [htext]
    decide
  | itself h =>
    simp only [htype, true_and, not_or] at h
    simp [Sql.portableDate, h.1, h.2]

/-- The default of a date or time is a literal, unless it means the current time. -/
theorem saysLiteral_of_columnClause {spelling : Sql.Spelling} {reading : Sql.Reading}
    (hknows : reading.Knows spelling) (hlexis : reading.lexis = .standard)
    {spell : DataType → String}
    {map : Column → ColumnType → List Extra → Except Unsupported DataType}
    {counter : List ColumnOption} {column : Column} {type : ColumnType} {text : String}
    (hmap : ∀ {extras target}, map column type extras = .ok target →
      Extra.autoIncrements extras = true → type.isInteger = true)
    (htype : ColumnType.read? column.type = some type) (htemporal : type.isTemporal = true)
    (hinteger : type.isInteger = false) (hdefault : column.defaultValue = some text)
    (hnow : ∀ precision, ¬MeansNow text precision) {clause : ColumnClause}
    (h : columnClause spell map counter column = .ok clause) :
    clause.SaysLiteral spelling (Sql.portableDate text) := by
  obtain ⟨extras, same, target, -, -, hplain, hsame, htarget, -, -, -⟩ := columnClause_eq_ok h
  obtain rfl := Option.some.inj (htype.symm.trans (read?_of_typeOf hsame))
  have hcounter : Extra.autoIncrements extras = false := by
    cases hcounts : Extra.autoIncrements extras with
    | false => rfl
    | true =>
      rw [hmap htarget hcounts] at hinteger
      cases hinteger
  obtain ⟨other, written, hother, hsays, hwritten⟩ :=
    saysDefault_of_columnClause hknows hlexis hdefault (plainExtras_eq_ok hplain).1 hcounter h
  obtain rfl := Option.some.inj (htype.symm.trans hother)
  cases hwritten with
  | now _ hmeans => exact absurd hmeans (hnow _)
  | literal _ hcarried hspells hvalue =>
    rw [hcarried.eq_portableDate htemporal] at hvalue
    exact ⟨written, _, hsays, hspells, hvalue⟩

end Standard

/-- The base names of types with a date. -/
def datedBases : List String := ["date", "datetime", "timestamp"]

theorem isTemporal_of_mem_datedBases {type : ColumnType} (h : type.base ∈ datedBases) :
    type.isTemporal = true ∧ type.isInteger = false := by
  obtain ⟨base, arguments, unsigned⟩ := type
  simp only [datedBases, List.mem_cons, List.not_mem_nil, or_false] at h
  rcases h with rfl | rfl | rfl <;> exact ⟨rfl, rfl⟩

/-- **Which zero dates survive outside MySQL.**  A column of dates with a zero date for a default
    says, wherever it is taken, one literal for it.  The literal starts as the zero date does
    exactly if the default has a fraction, and is the first moment of the calendar otherwise. -/
theorem saysLiteral_zeroDate {column : Column} {type : ColumnType} {timed : Bool}
    {fraction : Option Nat} (htype : ColumnType.read? column.type = some type)
    (hbase : type.base ∈ datedBases)
    (hdefault : column.defaultValue = some (zeroDate timed fraction)) :
    (∀ clause, Generic.columnClause column = .ok clause →
        ∃ text, clause.SaysLiteral Generic.spelling text
          ∧ (Sql.StartsWithZeroDate text ↔ fraction.isSome = true)
          ∧ (fraction = none → text = firstMoment timed))
      ∧ ∀ clause, Postgresql.columnClause column = .ok clause →
        ∃ text, clause.SaysLiteral Postgresql.spelling text
          ∧ (Sql.StartsWithZeroDate text ↔ fraction.isSome = true)
          ∧ (fraction = none → text = firstMoment timed) := by
  obtain ⟨htemporal, hinteger⟩ := isTemporal_of_mem_datedBases hbase
  have hnow := Sql.not_meansNow_zeroDate timed fraction
  have hstarts : Sql.StartsWithZeroDate (Sql.portableDate (zeroDate timed fraction))
      ↔ fraction.isSome = true := by
    rw [Sql.portableDate_zeroDate]
    cases fraction with
    | none => simp [Sql.not_startsWithZeroDate_firstMoment]
    | some digits => simp [Sql.startsWithZeroDate_zeroDate]
  have hfirst : fraction = none →
      Sql.portableDate (zeroDate timed fraction) = firstMoment timed := by
    rintro rfl
    rw [Sql.portableDate_zeroDate]
    rfl
  constructor
  · intro clause h
    exact ⟨_, Standard.saysLiteral_of_columnClause Generic.reading_knows rfl
      Generic.isInteger_of_dataType htype htemporal hinteger hdefault hnow h, hstarts, hfirst⟩
  · intro clause h
    exact ⟨_, Standard.saysLiteral_of_columnClause Postgresql.reading_knows rfl
      Postgresql.isInteger_of_dataType htype htemporal hinteger hdefault hnow h, hstarts, hfirst⟩

/-- A moment to the millisecond. -/
def momentColumn (text : String) : Column := ⟨"seen", "datetime(3)", true, "", some text, "", ""⟩

theorem saysLiteral_momentColumn :
    (∃ clause, Generic.columnClause (momentColumn "0000-00-00 00:00:00") = .ok clause
        ∧ clause.SaysLiteral Generic.spelling "1970-01-01 00:00:00")
      ∧ ∃ clause, Postgresql.columnClause (momentColumn "0000-00-00") = .ok clause
        ∧ clause.SaysLiteral Postgresql.spelling "1970-01-01" := by
  have hread : ColumnType.read? "datetime(3)" = some ⟨"datetime", some "3", false⟩ := by
    decide +kernel
  have htype : ∀ text, ColumnType.read? (momentColumn text).type
      = some ⟨"datetime", some "3", false⟩ := fun _ => hread
  have hbase : "datetime" ∈ datedBases := by decide
  have hmoment : (momentColumn "0000-00-00 00:00:00").defaultValue = some (zeroDate true none) := by
    decide
  have hdate : (momentColumn "0000-00-00").defaultValue = some (zeroDate false none) := by
    decide
  obtain ⟨clause, hclause⟩ := Checked.exists_of_isOk
    (by decide +kernel : (Generic.columnClause (momentColumn "0000-00-00 00:00:00")).isOk = true)
  obtain ⟨server, hserver⟩ := Checked.exists_of_isOk
    (by decide +kernel : (Postgresql.columnClause (momentColumn "0000-00-00")).isOk = true)
  obtain ⟨text, htext, -, hfirst⟩ :=
    (saysLiteral_zeroDate (htype _) hbase hmoment).1 clause hclause
  obtain ⟨other, hother, -, hfirstOther⟩ :=
    (saysLiteral_zeroDate (htype _) hbase hdate).2 server hserver
  rw [hfirst rfl] at htext
  rw [hfirstOther rfl] at hother
  exact ⟨⟨clause, hclause, htext⟩, server, hserver, hother⟩

/-- **A zero date that survives**: with as many zeros after the point as the column has digits. -/
theorem startsWithZeroDate_momentColumn :
    (momentColumn "0000-00-00 00:00:00.000").defaultValue = some (zeroDate true (some 3))
      ∧ ColumnType.read? (momentColumn "0000-00-00 00:00:00.000").type
        = some ⟨"datetime", some "3", false⟩
      ∧ (∃ clause, Generic.columnClause (momentColumn "0000-00-00 00:00:00.000") = .ok clause
        ∧ clause.render Generic.spelling = "seen TIMESTAMP(3) DEFAULT '0000-00-00 00:00:00.000'")
      ∧ (∃ clause, Postgresql.columnClause (momentColumn "0000-00-00 00:00:00.000") = .ok clause
        ∧ clause.render Postgresql.spelling
          = "\"seen\" timestamp(3) DEFAULT '0000-00-00 00:00:00.000'")
      ∧ Sql.StartsWithZeroDate "0000-00-00 00:00:00.000" := by
  refine ⟨by decide, by decide +kernel, ?_, ?_, ?_⟩
  · exact ⟨⟨"seen", "TIMESTAMP(3)", [.default (.literal "0000-00-00 00:00:00.000")]⟩,
      by decide +kernel, by decide +kernel⟩
  · exact ⟨⟨"seen", "timestamp(3)", [.default (.literal "0000-00-00 00:00:00.000")]⟩,
      by decide +kernel, by decide +kernel⟩
  · unfold Sql.StartsWithZeroDate
    decide

end Dialect
end SchemaDump
