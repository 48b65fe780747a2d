/-
  SchemaDump/Proofs/Dialect/Default.lean
  ======================================
  **Defaults are safe in a script.**

  What a column has for a default may be any text.  In its definition stands
  either the current time in its one spelling, or a bit literal, or one string
  literal that is read back as the default; which of them it is the type and the
  default decide.  Outside MySQL no other expression is taken, there are no bit
  literals, and the zero dates have stand-ins.
-/
import Mathlib.Tactic.SplitIfs
import SchemaDump.Proofs.Dialect.Counters
import SchemaDump.Proofs.Dialect.Insertion
import SchemaDump.Proofs.Sql.Timestamp

namespace SchemaDump

open Checked (Succeeds bind_eq_ok_iff map_eq_ok_iff)

namespace Sql

/-! ### The text after DEFAULT -/

/-- **A column definition says this text for its default**, set off from what follows, and no
    other property of the column is a default. -/
def ColumnClause.SaysDefault (spelling : Spelling) (clause : ColumnClause) (written : String) :
    Prop :=
  ∃ before after : List ColumnOption,
    (∀ option ∈ before ++ after, ∀ value, option ≠ .default value)
      ∧ clause.render spelling
        = spelling.name clause.name ++ " " ++ clause.type
          ++ String.join (before.map (ColumnOption.render spelling clause.name))
          ++ " DEFAULT " ++ written
          ++ String.join (after.map (ColumnOption.render spelling clause.name))
      ∧ Text.IsSetOff (String.join (after.map (ColumnOption.render spelling clause.name))).toList

/-- A property of a column starts with a space. -/
theorem ColumnOption.head?_render (spelling : Spelling) (column : String)
    (option : ColumnOption) : (option.render spelling column).toList.head? = some ' ' := by
  cases option <;> simp [ColumnOption.render]

theorem ColumnOption.isSetOff_join (spelling : Spelling) (column : String)
    (options : List ColumnOption) :
    Text.IsSetOff (String.join (options.map (ColumnOption.render spelling column))).toList := by
  cases options with
  | nil => rfl
  | cons option options =>
    rw [List.map_cons, String.join_cons, String.toList_append, Text.IsSetOff, List.head?_append,
      option.head?_render]
    rfl

theorem ColumnClause.saysDefault {spelling : Spelling} {name type : String}
    {before after : List ColumnOption} {value : Default}
    (halone : ∀ option ∈ before ++ after, ∀ value, option ≠ .default value) :
    ColumnClause.SaysDefault spelling ⟨name, type, before ++ .default value :: after⟩
      (value.render spelling) := by
  refine ⟨before, after, halone, ?_, ColumnOption.isSetOff_join _ _ _⟩
  rw [ColumnClause.render, List.map_append, List.map_cons, String.join_append, String.join_cons]
  simp only [ColumnOption.render, String.append_assoc]

end Sql

namespace Dialect

open Sql (ColumnClause ColumnOption DataType Default MeansNow IsBits Spells Unsupported)

/-! ### MySQL -/

namespace Mysql

/-- The types on which a default may mean the current time, told by how they start. -/
def isMoment (column : Column) : Bool :=
  typeStarts column "timestamp" || typeStarts column "datetime"

/-- **What stands for a default in MySQL**: the current time, a bit literal, or a string literal
    that is read back as the default. -/
inductive IsDefaultText (column : Column) (text : String) : String → Prop
  | now {precision : String} (htype : isMoment column = true) (hnow : MeansNow text precision) :
    IsDefaultText column text (Sql.currentTimestamp precision)
  | bits (hother : ¬(isMoment column = true ∧ ∃ precision, MeansNow text precision))
      (htype : typeStarts column "bit" = true) (hbits : IsBits text) :
    IsDefaultText column text text
  | literal {written : String} {token : Sql.Token}
      (hother : ¬(isMoment column = true ∧ ∃ precision, MeansNow text precision))
      (hbits : ¬(typeStarts column "bit" = true ∧ IsBits text))
      (hspells : Spells reading.lexis written token) (hvalue : Sql.value? token = some (some text)) :
    IsDefaultText column text written

theorem isDefaultText_defaultOf {column : Column} {extras : List Extra}
    (h : Extra.generatesDefault extras = false) (text : String) :
    IsDefaultText column text ((defaultOf column extras text).render spelling) := by
  rw [defaultOf, ← isMoment, h]
  split
  · rename_i precision hprecision
    obtain ⟨htype, hnow⟩ := Option.ite_none_right_eq_some.1 hprecision
    exact .now htype (Sql.currentTime?_eq_some_iff.1 hnow)
  · rename_i hnone
    have hother : ¬(isMoment column = true ∧ ∃ precision, MeansNow text precision) := by
      rintro ⟨htype, precision, hnow⟩
      rw [if_pos htype, Sql.currentTime?_eq_some_iff.2 hnow] at hnone
      cases hnone
    rw [if_neg Bool.false_ne_true]
    split
    · rename_i hbits
      rw [Bool.and_eq_true] at hbits
      obtain ⟨htype, hbits⟩ := hbits
      exact .bits hother htype (Sql.isBitLiteral_iff.1 hbits)
    · rename_i hnoBits
      rw [Bool.and_eq_true, Sql.isBitLiteral_iff] at hnoBits
      obtain ⟨token, hspells, hvalue⟩ := reading_knows.literal text
      exact .literal hother hnoBits hspells hvalue

/-- **The default of a column in MySQL**, unless it is an expression. -/
theorem saysDefault_of_columnClause {column : Column} {text : String} {extras : List Extra}
    (hdefault : column.defaultValue = some text) (hread : Extra.read column.extra = .ok extras)
    (hplain : Extra.generatesDefault extras = false) {clause : ColumnClause}
    (h : columnClause column = .ok clause) :
    ∃ written, clause.SaysDefault spelling written ∧ IsDefaultText column text written := by
  obtain ⟨read, hsame, h⟩ := bind_eq_ok_iff.1 h
  obtain rfl := Except.ok.inj (hread.symm.trans (read_of_extrasOf hsame))
  obtain rfl := Except.ok.inj h
  refine ⟨_, ?_, isDefaultText_defaultOf hplain text⟩
  rw [hdefault, Option.elim_some]
  simp only [List.append_assoc, List.singleton_append]
  refine ColumnClause.saysDefault (List.forall_mem_append.2 ⟨?_, ?_⟩)
  · cases column.nullable <;> simp
  · refine List.forall_mem_append.2 ⟨?_, List.forall_mem_append.2 ⟨?_, ?_⟩⟩
    · cases Extra.autoIncrements extras <;> simp
    · cases Extra.updateExpression? extras <;> simp
    · cases column.comment.toList.isEmpty <;> simp

end Mysql

/-! ### Standard literals -/

namespace Standard

/-- **What a literal carries for a default**: the first moment of the calendar for a zero date on
    a date or time, and else the default itself. -/
inductive StandsFor (type : ColumnType) (text : String) : String → Prop
  | zeroMoment (htype : type.isTemporal = true) (htext : text = "0000-00-00 00:00:00") :
    StandsFor type text "1970-01-01 00:00:00"
  | zeroDate (htype : type.isTemporal = true) (htext : text = "0000-00-00") :
    StandsFor type text "1970-01-01"
  | itself (h : ¬(type.isTemporal = true
      ∧ (text = "0000-00-00 00:00:00" ∨ text = "0000-00-00"))) : StandsFor type text text

/-- **What stands for a default outside MySQL**: the current time, or a string literal that is
    read back as the default or its stand-in. -/
inductive IsDefaultText (type : ColumnType) (text : String) : String → Prop
  | now {precision : String} (htype : type.isTemporal = true) (hnow : MeansNow text precision) :
    IsDefaultText type text (Sql.currentTimestamp precision)
  | literal {written carried : String} {token : Sql.Token}
      (hother : ¬(type.isTemporal = true ∧ ∃ precision, MeansNow text precision))
      (hcarried : StandsFor type text carried) (hspells : Spells .standard written token)
      (hvalue : Sql.value? token = some (some carried)) : IsDefaultText type text written

theorem standsFor_portableDate (type : ColumnType) (text : String) :
    StandsFor type text (if type.isTemporal then Sql.portableDate text else text) := by
  by_cases htype : type.isTemporal = true
  · rw [if_pos htype, Sql.portableDate]
    split_ifs with hmoment hdate
    · exact .zeroMoment htype (beq_iff_eq.1 hmoment)
    · exact .zeroDate htype (beq_iff_eq.1 hdate)
    · rw [beq_iff_eq] at hmoment hdate
      exact .itself fun h => h.2.elim hmoment hdate
  · rw [if_neg htype]
    exact .itself fun h => htype h.1

theorem carried_eq_ok {text written : String} (h : carried text = .ok written) :
    written = text := by
  rw [carried] at h
  split at h
  · cases h
  · exact (Except.ok.inj h).symm

/-- A default that is taken, in a dialect with standard literals. -/
theorem isDefaultText_of_defaultOf {spelling : Sql.Spelling} {reading : Sql.Reading}
    (hknows : reading.Knows spelling) (hlexis : reading.lexis = .standard) {column : Column}
    {type : ColumnType} {extras : List Extra} {text : String} {value : Default}
    (h : defaultOf column type extras text = .ok value) :
    IsDefaultText type text (value.render spelling) := by
  rw [defaultOf] at h
  split at h
  · rename_i precision hprecision
    obtain ⟨htype, hnow⟩ := Option.ite_none_right_eq_some.1 hprecision
    obtain rfl := Except.ok.inj h
    exact .now htype (Sql.currentTime?_eq_some_iff.1 hnow)
  · rename_i hnone
    have hother : ¬(type.isTemporal = true ∧ ∃ precision, MeansNow text precision) := by
      rintro ⟨htype, precision, hnow⟩
      rw [if_pos htype, Sql.currentTime?_eq_some_iff.2 hnow] at hnone
      cases hnone
    split at h
    · cases h
    · obtain ⟨written, hwritten, rfl⟩ := map_eq_ok_iff.1 h
      obtain ⟨token, hspells, hvalue⟩ := hknows.literal written
      rw [hlexis] at hspells
      exact .literal hother (carried_eq_ok hwritten ▸ standsFor_portableDate type text) hspells hvalue

/-- **The default of a column outside MySQL**, if the column is taken and no counter. -/
theorem saysDefault_of_columnClause {spelling : Sql.Spelling} {reading : Sql.Reading}
    (hknows : reading.Knows spelling) (hlexis : reading.lexis = .standard)
    {spell : DataType → String}
    {map : Column → ColumnType → List Extra → Except Unsupported DataType}
    {counter : List ColumnOption} {column : Column} {text : String} {extras : List Extra}
    (hdefault : column.defaultValue = some text) (hread : Extra.read column.extra = .ok extras)
    (hcounter : Extra.autoIncrements extras = false) {clause : ColumnClause}
    (h : columnClause spell map counter column = .ok clause) :
    ∃ type written, ColumnType.read? column.type = some type
      ∧ clause.SaysDefault spelling written ∧ IsDefaultText type text written := by
  obtain ⟨read, type, target, default, values, hplain, htype, -, hoptions, hvalues, rfl⟩ :=
    columnClause_eq_ok h
  obtain rfl := Except.ok.inj (hread.symm.trans (plainExtras_eq_ok hplain).1)
  rw [defaultOptions, hdefault] at hoptions
  dsimp only at hoptions
  rw [hcounter, if_neg Bool.false_ne_true] at hoptions
  obtain ⟨value, hvalue, rfl⟩ := map_eq_ok_iff.1 hoptions
  refine ⟨type, _, ?_, ?_, isDefaultText_of_defaultOf hknows hlexis hvalue⟩
  · exact read?_of_typeOf htype
  · rw [hcounter, if_neg Bool.false_ne_true, List.append_nil, List.append_assoc,
      List.singleton_append]
    refine ColumnClause.saysDefault (List.forall_mem_append.2 ⟨?_, ?_⟩)
    · cases column.nullable <;> simp
    · intro option hmem value hsame
      obtain ⟨listed, hlisted⟩ := exists_of_mem_enumerationOptions hvalues hmem
      rw [hlisted] at hsame
      cases hsame

/-- Outside MySQL no expression is taken for a default but the current time. -/
theorem defaultOf_eq_error {column : Column} {type : ColumnType} {extras : List Extra}
    {text : String} (hgenerated : Extra.generatesDefault extras = true)
    (hother : ¬(type.isTemporal = true ∧ ∃ precision, MeansNow text precision)) :
    defaultOf column type extras text = .error (.expressionDefault text column.name) := by
  rw [defaultOf]
  split
  · rename_i precision hprecision
    obtain ⟨htype, hnow⟩ := Option.ite_none_right_eq_some.1 hprecision
    exact absurd ⟨htype, precision, Sql.currentTime?_eq_some_iff.1 hnow⟩ hother
  · rw [hgenerated, if_pos rfl]

/-- **A column with an expression for a default is refused**, for that reason if it would be
    taken without a default. -/
theorem columnClause_eq_error {spell : DataType → String}
    {map : Column → ColumnType → List Extra → Except Unsupported DataType}
    {counter : List ColumnOption} {column : Column} {text : String} {extras : List Extra}
    (hmap : ∀ type extras,
      map { column with defaultValue := none } type extras = map column type extras)
    (hdefault : column.defaultValue = some text) (hread : Extra.read column.extra = .ok extras)
    (hcounter : Extra.autoIncrements extras = false)
    (hgenerated : Extra.generatesDefault extras = true)
    (hother : ∀ type, ColumnType.read? column.type = some type →
      ¬(type.isTemporal = true ∧ ∃ precision, MeansNow text precision)) :
    (∃ cause, columnClause spell map counter column = .error cause)
      ∧ (Succeeds (columnClause spell map counter { column with defaultValue := none }) →
        columnClause spell map counter column = .error (.expressionDefault text column.name)) := by
  have hoptions : ∀ type, typeOf column = .ok type →
      defaultOptions column type extras = .error (.expressionDefault text column.name) := by
    intro type htype
    rw [defaultOptions, hdefault]
    dsimp only
    rw [hcounter, if_neg Bool.false_ne_true,
      defaultOf_eq_error hgenerated (hother type (read?_of_typeOf htype))]
    rfl
  constructor
  · cases h : columnClause spell map counter column with
    | error cause => exact ⟨cause, rfl⟩
    | ok clause =>
      obtain ⟨read, type, -, default, -, hplain, htype, -, hdefaultOk, -, -⟩ :=
        columnClause_eq_ok h
      obtain rfl := Except.ok.inj (hread.symm.trans (plainExtras_eq_ok hplain).1)
      rw [hoptions type htype] at hdefaultOk
      cases hdefaultOk
  · intro h
    obtain ⟨read, type, hplain, htype, ⟨target, htarget⟩, -, -⟩ := columnClause_succeeds_iff.1 h
    obtain rfl := Except.ok.inj (hread.symm.trans (plainExtras_eq_ok hplain).1)
    rw [hmap] at htarget
    have hplain : plainExtras column = .ok extras := hplain
    have htype : typeOf column = .ok type := htype
    have hfails := hoptions type htype
    rw [columnClause, hplain]
    simp only [bind, Checked.bind_ok, htype, htarget, hfails, Checked.bind_error]

end Standard

/-! ### All dialects -/

/-- **Defaults never reach a script as they are.**  A column that counts nothing and has a default
    says, wherever it is taken, one text for it: the current time if the default means it on a type
    that has it, and else a literal that is read back as the default.  Only MySQL writes bit
    literals, as they are; only the others replace a default, the zero dates.  MySQL writes
    expressions besides, which the others refuse. -/
theorem default_reads_back {column : Column} {text : String} {extras : List Extra}
    (hdefault : column.defaultValue = some text) (hread : Extra.read column.extra = .ok extras)
    (hcounter : Extra.autoIncrements extras = false) :
    (Extra.generatesDefault extras = false → ∀ clause, Mysql.columnClause column = .ok clause →
        ∃ written, clause.SaysDefault Mysql.spelling written
          ∧ Mysql.IsDefaultText column text written)
      ∧ (∀ clause, Generic.columnClause column = .ok clause →
        ∃ type written, ColumnType.read? column.type = some type
          ∧ clause.SaysDefault Generic.spelling written
          ∧ Standard.IsDefaultText type text written)
      ∧ (∀ clause, Postgresql.columnClause column = .ok clause →
        ∃ type written, ColumnType.read? column.type = some type
          ∧ clause.SaysDefault Postgresql.spelling written
          ∧ Standard.IsDefaultText type text written)
      ∧ (Extra.generatesDefault extras = true →
        (∀ type, ColumnType.read? column.type = some type →
          ¬(type.isTemporal = true ∧ ∃ precision, MeansNow text precision)) →
        (∃ cause, Generic.columnClause column = .error cause)
          ∧ (∃ cause, Postgresql.columnClause column = .error cause)
          ∧ (Succeeds (Generic.columnClause { column with defaultValue := none }) →
            Generic.columnClause column = .error (.expressionDefault text column.name))
          ∧ (Succeeds (Postgresql.columnClause { column with defaultValue := none }) →
            Postgresql.columnClause column = .error (.expressionDefault text column.name))) := by
  refine ⟨fun hplain clause => Mysql.saysDefault_of_columnClause hdefault hread hplain,
    fun clause => Standard.saysDefault_of_columnClause Generic.reading_knows rfl hdefault hread
      hcounter,
    fun clause => Standard.saysDefault_of_columnClause Postgresql.reading_knows rfl hdefault hread
      hcounter, ?_⟩
  intro hgenerated hother
  obtain ⟨hgeneric, hgenericCause⟩ := @Standard.columnClause_eq_error DataType.standard
    Generic.dataType [.identity] column text extras (fun _ _ => rfl) hdefault hread hcounter
    hgenerated hother
  obtain ⟨hpostgresql, hpostgresqlCause⟩ := @Standard.columnClause_eq_error DataType.postgresql
    Postgresql.dataType [] column text extras (fun _ _ => rfl) hdefault hread hcounter
    hgenerated hother
  exact ⟨hgeneric, hpostgresql, hgenericCause, hpostgresqlCause⟩

/-- The zero date on a moment. -/
def zeroColumn : Column :=
  ⟨"at", "timestamp", false, "", some "0000-00-00 00:00:00", "", ""⟩

/-- An expression, which the database computes for each row. -/
def expressionColumn : Column :=
  ⟨"key", "varchar(36)", false, "", some "uuid()", "DEFAULT_GENERATED", ""⟩

theorem default_reads_back_zeroColumn :
    (∃ clause written, Mysql.columnClause zeroColumn = .ok clause
        ∧ clause.SaysDefault Mysql.spelling written
        ∧ Mysql.IsDefaultText zeroColumn "0000-00-00 00:00:00" written)
      ∧ (∃ clause written, Generic.columnClause zeroColumn = .ok clause
        ∧ clause.SaysDefault Generic.spelling written
        ∧ Standard.IsDefaultText ⟨"timestamp", none, false⟩ "0000-00-00 00:00:00" written)
      ∧ Generic.columnClause expressionColumn = .error (.expressionDefault "uuid()" "key")
      ∧ Postgresql.columnClause expressionColumn = .error (.expressionDefault "uuid()" "key") := by
  have hzero : Extra.read zeroColumn.extra = .ok [] := by decide +kernel
  have hexpression : Extra.read expressionColumn.extra = .ok [.generatedDefault] := by
    decide +kernel
  have htimestamp : ColumnType.read? zeroColumn.type = some ⟨"timestamp", none, false⟩ := by
    decide +kernel
  have htext : ColumnType.read? expressionColumn.type = some ⟨"varchar", some "36", false⟩ := by
    decide +kernel
  have hmysql : Succeeds (Mysql.columnClause zeroColumn) :=
    Checked.succeeds_iff_isOk.2 (by decide +kernel)
  have hgeneric : Succeeds (Generic.columnClause zeroColumn) :=
    Checked.succeeds_iff_isOk.2 (by decide +kernel)
  have hother : ∀ type, ColumnType.read? expressionColumn.type = some type →
      ¬(type.isTemporal = true ∧ ∃ precision, MeansNow "uuid()" precision) := by
    intro type htype
    obtain rfl := Option.some.inj (htext.symm.trans htype)
    exact fun h => absurd h.1 (by decide)
  obtain ⟨hmysqlText, hgenericText, -, -⟩ := default_reads_back rfl hzero rfl
  obtain ⟨-, -, -, hrefused⟩ := default_reads_back rfl hexpression rfl
  obtain ⟨-, -, hstandard, hserver⟩ := hrefused rfl hother
  refine ⟨?_, ?_, hstandard (Checked.succeeds_iff_isOk.2 (by decide +kernel)),
    hserver (Checked.succeeds_iff_isOk.2 (by decide +kernel))⟩
  · obtain ⟨clause, hclause⟩ := hmysql
    obtain ⟨written, hsays, hwritten⟩ := hmysqlText rfl clause hclause
    exact ⟨clause, written, hclause, hsays, hwritten⟩
  · obtain ⟨clause, hclause⟩ := hgeneric
    obtain ⟨type, written, htype, hsays, hwritten⟩ := hgenericText clause hclause
    obtain rfl := Option.some.inj (htimestamp.symm.trans htype)
    exact ⟨clause, written, hclause, hsays, hwritten⟩

end Dialect
end SchemaDump
