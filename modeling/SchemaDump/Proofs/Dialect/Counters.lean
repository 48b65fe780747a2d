/-
  SchemaDump/Proofs/Dialect/Counters.lean
  =======================================
  **The counters of a table are the same for everyone.**

  Whether a column counts up is asked in three places: of the column itself, when
  the column is written, and when the counters are moved past the rows.  The
  column answers by its extras as one text, the dialects by their words.  The
  answers agree for every column that a dialect outside MySQL takes, since it
  takes none that is updated.

  That they agree is said of the written text.  A reader of a column's line finds
  the words of an identity column only where one was asked for, since no type, no
  default and no check holds the word BY outside of quotes; and the first word of
  a type tells the serial types from all others.  The text that moves the counters
  is read statement by statement.
-/
import SchemaDump.Proofs.Dialect.Acceptance
import SchemaDump.Proofs.Dialect.Insertion
import SchemaDump.Proofs.Dialect.Statements
import SchemaDump.Proofs.Sql.Advancing
import SchemaDump.Proofs.Sql.ColumnLine
import SchemaDump.Proofs.Table.Extra

namespace SchemaDump

/-- The types of counters. -/
def Sql.DataType.countsUp : Sql.DataType → Bool
  | .serial | .bigSerial => true
  | _ => false

namespace Dialect

open Checked (Succeeds map_eq_ok_iff)
open Sql (ColumnClause ColumnOption DataType Lacks Lexis Reading Spelling SplitsInto StartsApart)

/-! ### Columns that are taken -/

namespace Standard

/-- The dialects see a counter where the column sees one. -/
theorem autoIncrements_of_plainExtras {column : Column} {extras : List Extra}
    (h : plainExtras column = .ok extras) :
    Extra.autoIncrements extras = column.isAutoIncrement := by
  obtain ⟨hread, hplain⟩ := plainExtras_eq_ok h
  exact (Column.isAutoIncrement_eq hread hplain).symm

/-- No type of a plain column counts up. -/
theorem countsUp_of_commonType? {type : ColumnType} {target : DataType}
    (h : commonType? type = some target) : target.countsUp = false := by
  rw [commonType?] at h
  split at h
  all_goals cases h
  -- whole numbers look at the sign, texts and bytes at the length
  case h_5 | h_7 | h_8 | h_9 => cases type.unsigned <;> rfl
  case h_19 | h_26 => cases type.length? <;> rfl
  all_goals rfl

end Standard

/-! ### Identity columns -/

/-- The word BY has a letter Y, as numbers and times have not. -/
theorem hasY_by : 'y' ∈ (Text.lower "BY").toList := by decide

/-- No property of a column holds the word BY outside of quotes, but for those of a counter. -/
theorem Standard.lacksBy_of_columnClause {reading : Reading} {spelling : Spelling}
    (hreading : reading.Knows spelling) {spell : DataType → String}
    {map : Column → ColumnType → List Extra → Except Sql.Unsupported DataType}
    {counter : List ColumnOption} {column : Column} {clause : ColumnClause}
    (h : Standard.columnClause spell map counter column = .ok clause) {option : ColumnOption}
    (hmem : option ∈ clause.options) (hother : option ∉ counter) :
    Lacks reading.lexis "BY" (option.render spelling clause.name) := by
  rcases Standard.option_of_columnClause h hmem with
    rfl | hmem | ⟨type, extras, text, value, hvalue, rfl⟩ | ⟨values, rfl⟩
  · exact .of_words (by decide : Sql.lacksWord "BY" " NOT NULL" = true) _
  · exact absurd hmem hother
  · have hdefault : Lacks reading.lexis "BY" (value.render spelling) := by
      rcases Standard.defaultOf_eq_ok hvalue with ⟨precision, hprecision, rfl⟩ | ⟨held, rfl⟩
      · exact Sql.lacks_currentTimestamp hasY_by hprecision _
      · exact Sql.lacks_literal hreading "BY" held
    exact hdefault.after (by decide) (by decide)
  · exact Sql.lacks_oneOf hreading (by decide) (by decide) (by decide) clause.name values

/-- Standard SQL asks for an identity column exactly for a counter. -/
theorem Generic.identity_mem_options_iff {column : Column} {clause : ColumnClause}
    (h : Generic.columnClause column = .ok clause) :
    .identity ∈ clause.options ↔ column.isAutoIncrement = true := by
  obtain ⟨extras, type, target, default, values, hextras, -, -, hdefault, hvalues, rfl⟩ :=
    Standard.columnClause_eq_ok h
  rw [← Standard.autoIncrements_of_plainExtras hextras]
  have hnoDefault : .identity ∉ default := by
    intro hmem
    obtain ⟨text, value, -, hvalue⟩ := Standard.exists_of_mem_defaultOptions hdefault hmem
    cases hvalue
  have hnoValues : .identity ∉ values := by
    intro hmem
    obtain ⟨listed, hlisted⟩ := Standard.exists_of_mem_enumerationOptions hvalues hmem
    cases hlisted
  simp only [List.mem_append, hnoDefault, hnoValues, or_false]
  cases column.nullable <;> cases Extra.autoIncrements extras <;> simp

/-- **The line of a column says that it is an identity column** exactly for a counter, in standard
    SQL. -/
theorem Generic.identity?_render {column : Column} {clause : ColumnClause}
    (h : Generic.columnClause column = .ok clause) :
    Generic.reading.identity? (clause.render Generic.spelling)
      = some (column.name, column.isAutoIncrement) := by
  have htype : Lacks .standard "BY" clause.type := by
    obtain ⟨target, htarget⟩ := Standard.exists_type_of_columnClause h
    rw [htarget]
    exact Sql.lacks_standard hasY_by (by decide) target _
  have hoptions : ∀ option ∈ clause.options, option ≠ .identity →
      Lacks .standard "BY" (option.render Generic.spelling clause.name) := by
    intro option hmem hother
    exact Standard.lacksBy_of_columnClause Generic.reading_knows h hmem
      (mt List.mem_singleton.1 hother)
  have hcounter : decide (.identity ∈ clause.options) = column.isAutoIncrement := by
    rw [Bool.eq_iff_iff, decide_eq_true_iff, Generic.identity_mem_options_iff h]
  rw [Sql.identity?_render Generic.reading_knows (Generic.columnClause_isQuoted h) htype hoptions,
    hcounter, Standard.name_of_columnClause h]

example :
    (Generic.columnClause ⟨"n", "int", false, "PRI", none, "auto_increment", ""⟩).map
        (ColumnClause.render Generic.spelling)
      = .ok "n INTEGER NOT NULL GENERATED BY DEFAULT AS IDENTITY" := by
  decide +kernel

/-! ### Serial types -/

/-- The first word of a spelled type says whether the type counts up. -/
theorem Postgresql.exists_word (target : DataType) (lexis : Lexis) :
    ∃ word rest, target.postgresql = word ++ rest ∧ Sql.isPlainName word.toList = true
      ∧ StartsApart lexis rest
      ∧ (word = "serial" ∨ word = "bigserial" ↔ target.countsUp = true) := by
  have hnone : StartsApart lexis "" := Sql.startsApart_empty lexis
  have hnumbers := Sql.startsApart_parameterList lexis
  cases target with
  | serial => exact ⟨"serial", "", rfl, by decide, hnone, iff_of_true (.inl rfl) rfl⟩
  | bigSerial => exact ⟨"bigserial", "", rfl, by decide, hnone, iff_of_true (.inr rfl) rfl⟩
  | doublePrecision =>
    have hgap : StartsApart lexis " precision" := Sql.startsApart_words (by decide)
    exact ⟨"double", _, rfl, by decide, hgap, iff_of_false (by decide) Bool.false_ne_true⟩
  | decimal parameters =>
    exact ⟨"numeric", _, rfl, by decide, hnumbers _, iff_of_false (by decide) Bool.false_ne_true⟩
  | char length =>
    exact ⟨"char", _, rfl, by decide, hnumbers _, iff_of_false (by decide) Bool.false_ne_true⟩
  | varchar length =>
    exact ⟨"varchar", _, rfl, by decide, hnumbers _, iff_of_false (by decide) Bool.false_ne_true⟩
  | timestamp precision =>
    exact ⟨"timestamp", _, rfl, by decide, hnumbers _, iff_of_false (by decide) Bool.false_ne_true⟩
  | binary length | varbinary length =>
    exact ⟨"bytea", "", rfl, by decide, hnone, iff_of_false (by decide) Bool.false_ne_true⟩
  | _ =>
    exact ⟨_, "", String.append_empty.symm, by decide, hnone,
      iff_of_false (by decide) Bool.false_ne_true⟩

theorem Postgresql.countsUp_of_serialType? {type : ColumnType} {target : DataType}
    (h : Postgresql.serialType? type = some target) : target.countsUp = true := by
  rw [Postgresql.serialType?] at h
  split at h
  all_goals cases h
  case h_4 | h_5 => cases type.unsigned <;> rfl
  all_goals rfl

/-- A type counts up if it was asked to. -/
theorem Postgresql.countsUp_of_dataType {column : Column} {type : ColumnType}
    {extras : List Extra} {target : DataType}
    (h : Postgresql.dataType column type extras = .ok target) :
    target.countsUp = Extra.autoIncrements extras := by
  rcases Postgresql.dataType_eq_ok h with
    ⟨hcounter, hserial⟩ | ⟨hcounter, -, rfl⟩ | ⟨hcounter, -, -, hcommon⟩
  · rw [hcounter, Postgresql.countsUp_of_serialType? hserial]
  · rw [hcounter]
    rfl
  · rw [hcounter, Standard.countsUp_of_commonType? hcommon]

/-- **The line of a column gives a serial type** exactly to a counter, in PostgreSQL. -/
theorem Postgresql.columnType?_render {column : Column} {clause : ColumnClause}
    (h : Postgresql.columnClause column = .ok clause) :
    ∃ type, Postgresql.reading.columnType? (clause.render Postgresql.spelling)
        = some (column.name, type)
      ∧ (type = "serial" ∨ type = "bigserial" ↔ column.isAutoIncrement = true) := by
  obtain ⟨extras, _, target, _, _, hextras, -, htarget, -, -, hclause⟩ :=
    Standard.columnClause_eq_ok h
  obtain ⟨word, rest, htype, hword, hrest, hserial⟩ :=
    Postgresql.exists_word target .standard
  have hspelled : clause.type = word ++ rest := by rw [hclause, htype]
  refine ⟨word, ?_, ?_⟩
  · rw [Sql.columnType?_render Postgresql.reading_knows (Postgresql.columnClause_isQuoted h)
      hspelled hword hrest, Standard.name_of_columnClause h]
  · rw [hserial, Postgresql.countsUp_of_dataType htarget,
      Standard.autoIncrements_of_plainExtras hextras]

example :
    (Postgresql.columnClause ⟨"n", "int", false, "PRI", none, "auto_increment", ""⟩).map
        (ColumnClause.render Postgresql.spelling)
      = .ok "\"n\" serial NOT NULL" := by
  decide +kernel

/-! ### Counters that are moved -/

/-- A column counts up by its words exactly if it says so itself, in a table that PostgreSQL
    takes. -/
theorem Postgresql.countsUp_of_accepts {options : FormatOptions} {table : TableStructure}
    (haccepts : (Postgresql.formatter options).Accepts table) :
    ∀ column ∈ table.columns, column.countsUp = column.isAutoIncrement := by
  intro column hcolumn
  obtain ⟨clause, hclause⟩ := (Postgresql.accepts_iff.1 haccepts).1 column hcolumn
  obtain ⟨extras, -, -, -, -, hextras, -⟩ := Standard.columnClause_eq_ok hclause
  rw [countsUp_of_read (Standard.plainExtras_eq_ok hextras).1,
    Standard.autoIncrements_of_plainExtras hextras]

/-- **Every counter is moved once, in the order of the columns**, if PostgreSQL takes the table
    and there are rows. -/
theorem Postgresql.reset_of_accepts {options : FormatOptions} {table : TableStructure}
    {data : TableData} {text : String} (haccepts : (Postgresql.formatter options).Accepts table)
    (hrows : data.rows ≠ []) (h : (Postgresql.formatter options).reset table data = .ok text) :
    Postgresql.reading.advances text = (table.columns.filter Column.isAutoIncrement).map
        (fun column => ⟨Table.liveName table.name options.tablePrefix, column.name⟩)
      ∧ SplitsInto .standard text (table.columns.countP Column.isAutoIncrement) := by
  have hcounters := Postgresql.countsUp_of_accepts haccepts
  have hnonempty : ¬data.rows.isEmpty = true := by simpa using hrows
  have hreset : (Postgresql.formatter options).reset table data
      = (Postgresql.reset (Table.liveName table.name options.tablePrefix) table.columns).map
          (Sql.block Postgresql.spelling) := if_neg hnonempty
  rw [hreset] at h
  obtain ⟨statements, hstatements, rfl⟩ := map_eq_ok_iff.1 h
  have hquoted := Postgresql.reset_eq_ok hstatements
  have hcount : table.columns.countP Column.countsUp
      = table.columns.countP Column.isAutoIncrement :=
    List.countP_congr fun column hcolumn => by rw [hcounters column hcolumn]
  refine ⟨?_, ?_⟩
  · have hsaid : ∀ statement : Sql.Statement, statement.IsQuoted →
        Postgresql.reading.advances (statement.render Postgresql.spelling)
          = statement.advances :=
      fun statement => Sql.advances_render Postgresql.reading_knows
    have hread := hquoted.gathered_block Sql.seesTokens_advance? Postgresql.spelling_isInert hsaid
    refine hread.trans ?_
    rw [Postgresql.reset_eq_ok_map hstatements, List.filter_congr hcounters, List.flatMap_map]
    exact List.map_eq_flatMap.symm
  · rw [← hcount]
    exact hquoted.splitsInto_block Postgresql.spelling_isInert

/-- **Counters are seen the same way everywhere.**  Of the columns that they take, the lines of
    standard SQL declare the counters as identity columns and those of PostgreSQL give them a serial
    type, and nothing else; and for a table that PostgreSQL takes, with rows, the text that moves
    the counters is one statement for each of them, in the order of the columns. -/
theorem counters_agree :
    (∀ column clause, Generic.columnClause column = .ok clause →
        Generic.reading.identity? (clause.render Generic.spelling)
          = some (column.name, column.isAutoIncrement))
      ∧ (∀ column clause, Postgresql.columnClause column = .ok clause →
        ∃ type, Postgresql.reading.columnType? (clause.render Postgresql.spelling)
            = some (column.name, type)
          ∧ (type = "serial" ∨ type = "bigserial" ↔ column.isAutoIncrement = true))
      ∧ ∀ options table data text, (Postgresql.formatter options).Accepts table →
        data.rows ≠ [] → (Postgresql.formatter options).reset table data = .ok text →
        Postgresql.reading.advances text = (table.columns.filter Column.isAutoIncrement).map
            (fun column => ⟨Table.liveName table.name options.tablePrefix, column.name⟩)
          ∧ SplitsInto .standard text (table.columns.countP Column.isAutoIncrement) :=
  ⟨fun _ _ => Generic.identity?_render, fun _ _ => Postgresql.columnType?_render,
    fun _ _ _ _ => Postgresql.reset_of_accepts⟩

/-- A counter whose extras are in another case and between other blanks than usual, a column that
    only has the marker in its name, and one with the words of an identity column as its default. -/
def numbered : TableStructure :=
  ⟨"#__t",
    [⟨"auto_increment", "text", true, "", none, "", ""⟩,
      ⟨"words", "varchar(40)", true, "", some "GENERATED BY DEFAULT AS IDENTITY", "", ""⟩,
      ⟨"n", "int unsigned", false, "PRI", none, "DEFAULT_GENERATED\tAuto_Increment", ""⟩], []⟩

/-- The text that moves its counter. -/
def numberedReset : String :=
  "SELECT setval(pg_get_serial_sequence('\"p_t\"', 'n'), "
    ++ "COALESCE((SELECT MAX(\"n\") FROM \"p_t\"), 0) + 1, false);\n\n"

theorem counters_agree_numbered :
    (∀ column ∈ numbered.columns, ∃ generic postgresql type,
        Generic.columnClause column = .ok generic ∧ Postgresql.columnClause column = .ok postgresql
          ∧ Generic.reading.identity? (generic.render Generic.spelling)
            = some (column.name, column.name == "n")
          ∧ Postgresql.reading.columnType? (postgresql.render Postgresql.spelling)
            = some (column.name, type)
          ∧ (type = "serial" ∨ type = "bigserial" ↔ column.name = "n"))
      ∧ (Postgresql.formatter ⟨"p_"⟩).reset numbered ⟨"#__t", [⟨[⟨"n", some "7"⟩]⟩]⟩
        = .ok numberedReset
      ∧ Postgresql.reading.advances numberedReset = [⟨"p_t", "n"⟩]
      ∧ SplitsInto .standard numberedReset 1 := by
  obtain ⟨hgeneric, hpostgresql, hreset⟩ := counters_agree
  have haccepts : (Postgresql.formatter ⟨"p_"⟩).Accepts numbered := by decide +kernel
  have htaken : ∀ column ∈ numbered.columns, Succeeds (Generic.columnClause column) := by
    intro column hcolumn
    exact Checked.succeeds_iff_isOk.2 (List.all_eq_true.1
      (by decide +kernel : numbered.columns.all fun column =>
        (Generic.columnClause column).isOk) column hcolumn)
  have hcounter : ∀ column ∈ numbered.columns,
      column.isAutoIncrement = (column.name == "n") := by
    decide +kernel
  have hmoved : (Postgresql.formatter ⟨"p_"⟩).reset numbered ⟨"#__t", [⟨[⟨"n", some "7"⟩]⟩]⟩
      = .ok numberedReset := by
    decide +kernel
  refine ⟨?_, hmoved, ?_⟩
  · intro column hcolumn
    obtain ⟨generic, hclause⟩ := htaken column hcolumn
    obtain ⟨postgresql, hserver⟩ := (Postgresql.accepts_iff.1 haccepts).1 column hcolumn
    obtain ⟨type, htype, hserial⟩ := hpostgresql column postgresql hserver
    refine ⟨generic, postgresql, type, hclause, hserver, ?_, htype, ?_⟩
    · rw [hgeneric column generic hclause, hcounter column hcolumn]
    · rw [hserial, hcounter column hcolumn, beq_iff_eq]
  · obtain ⟨hadvances, hsplits⟩ :=
      hreset ⟨"p_"⟩ numbered _ numberedReset haccepts (List.cons_ne_nil _ _) hmoved
    have hcolumns : numbered.columns.filter Column.isAutoIncrement
        = [⟨"n", "int unsigned", false, "PRI", none, "DEFAULT_GENERATED\tAuto_Increment", ""⟩] := by
      decide +kernel
    have hcount : numbered.columns.countP Column.isAutoIncrement = 1 := by decide +kernel
    rw [hcolumns] at hadvances
    rw [hcount] at hsplits
    exact ⟨hadvances, hsplits⟩

end Dialect
end SchemaDump
