/-
  SchemaDump/Proofs/Dialect/Identity.lean
  =======================================
  **Identity columns go on past the ids of an entry, within 64 bits.**

  In the generic dialect the rows of a data entry tell each counter of its table
  to go on after their greatest number.  Rows may hold ids of any magnitude, but
  only numbers of 64 bits are looked at and the next one is cut off there.  So a
  counter goes on past all ids exactly if some id is not below the least number
  of 64 bits and all are below the greatest.
-/
import SchemaDump.Proofs.Dialect.Insertion
import SchemaDump.Proofs.Dialect.Statements
import SchemaDump.Proofs.Sql.Restarting
import SchemaDump.Proofs.Text.Numeral

namespace SchemaDump

/-! ### Ids -/

/-- The whole number that a row holds for a column, of any magnitude. -/
def Row.id? (row : Row) (column : String) : Option Int :=
  (row.get? column).bind fun field =>
    field.value.bind fun text => Text.wholeNumber? (Text.trim text.toList)

/-- The whole numbers that a data entry holds for a column. -/
def TableData.ids (data : TableData) (column : String) : List Int :=
  data.rows.filterMap fun row => row.id? column

namespace Dialect.Generic

open Checked (bind_eq_ok_iff map_eq_ok_iff)
open Sql (Restart Statement)

/-- The numbers that are looked at are the ids that fit 64 bits. -/
theorem mem_columnNumbers_iff {column : String} {data : TableData} {n : Int} :
    n ∈ columnNumbers column data.rows
      ↔ n ∈ data.ids column ∧ Text.least64 ≤ n ∧ n ≤ Text.greatest64 := by
  simp only [columnNumbers, TableData.ids, Row.id?, List.mem_filterMap, Option.bind_eq_some_iff,
    Text.signed64?_eq_some_iff]
  constructor
  · rintro ⟨row, hrow, field, hfield, text, htext, hnumber, hfits⟩
    exact ⟨⟨row, hrow, field, hfield, text, htext, hnumber⟩, hfits⟩
  · rintro ⟨⟨row, hrow, field, hfield, text, htext, hnumber⟩, hfits⟩
    exact ⟨row, hrow, field, hfield, text, htext, hnumber, hfits⟩

/-! ### The greatest number and the one after it -/

theorem greatest?_eq_some_iff {numbers : List Int} {n : Int} :
    greatest? numbers = some n ↔ n ∈ numbers ∧ ∀ m ∈ numbers, m ≤ n := by
  have hmax : greatest? numbers = numbers.max? := by
    cases numbers with
    | nil => rfl
    | cons n rest => exact List.max?_cons'.symm
  rw [hmax, List.max?_eq_some_iff]

/-- There is a greatest one of some numbers. -/
theorem exists_greatest? {numbers : List Int} {n : Int} (h : n ∈ numbers) :
    ∃ greatest, greatest? numbers = some greatest := by
  cases numbers with
  | nil => cases h
  | cons first others => exact ⟨_, rfl⟩

/-- A value is passed by the next one after a number, unless 64 bits end there. -/
theorem lt_following_iff {n m : Int} (h : n < Text.greatest64) : n < following m ↔ n ≤ m := by
  rw [following]
  omega

/-- No number of 64 bits comes after the greatest. -/
theorem following_le (m : Int) : following m ≤ Text.greatest64 := Int.min_le_right _ _

/-! ### What rows tell counters -/

/-- What rows tell the counters of a table. -/
def restarts (table : String) (columns : List Column) (rows : List Row) : List Restart :=
  columns.flatMap fun column =>
    if column.countsUp then
      ((greatest? (columnNumbers column.name rows)).map fun n =>
        ⟨table, column.name, following n⟩).toList
    else []

theorem restarts_reset {table : String} {columns : List Column} {rows : List Row}
    {statements : List Statement} (h : reset table columns rows = .ok statements) :
    statements.flatMap Statement.restarts = restarts table columns rows := by
  obtain ⟨written, hwritten, h⟩ := bind_eq_ok_iff.1 h
  obtain rfl := Except.ok.inj h
  rw [← List.flatMap_id, List.flatMap_assoc]
  refine Checked.flatMap_of_mapM hwritten ?_
  intro column own hcolumn
  obtain ⟨extras, hextras, hcolumn⟩ := bind_eq_ok_iff.1 hcolumn
  rw [← extrasOf_eq_ok hextras]
  cases hcounter : Extra.autoIncrements extras with
  | true =>
    simp only [hcounter, if_pos] at hcolumn
    cases hgreatest : greatest? (columnNumbers column.name rows) with
    | some n =>
      simp only [hgreatest] at hcolumn
      obtain rfl := Except.ok.inj hcolumn
      rfl
    | none =>
      simp only [hgreatest] at hcolumn
      obtain rfl := Except.ok.inj hcolumn
      rfl
  | false =>
    rw [hcounter] at hcolumn
    obtain rfl := Except.ok.inj hcolumn
    rfl

/-- A column is told to go on after the greatest number that the rows hold for its name. -/
theorem mem_restarts_iff {table name : String} {columns : List Column} {rows : List Row}
    {next : Int} :
    ⟨table, name, next⟩ ∈ restarts table columns rows
      ↔ (∃ column ∈ columns, column.countsUp = true ∧ column.name = name)
        ∧ ∃ greatest, greatest? (columnNumbers name rows) = some greatest
          ∧ following greatest = next := by
  have hcolumn : ∀ column : Column,
      (⟨table, name, next⟩ : Restart) ∈ (if column.countsUp then
          ((greatest? (columnNumbers column.name rows)).map fun n =>
            (⟨table, column.name, following n⟩ : Restart)).toList
        else [])
        ↔ (column.countsUp = true ∧ column.name = name)
          ∧ ∃ greatest, greatest? (columnNumbers name rows) = some greatest
            ∧ following greatest = next := by
    intro column
    rw [List.mem_ite_nil_right, Option.mem_toList, Option.map_eq_some_iff, and_assoc]
    refine and_congr_right fun _ => ?_
    constructor
    · rintro ⟨greatest, hgreatest, hsame⟩
      obtain ⟨-, rfl, rfl⟩ := Restart.mk.inj hsame
      exact ⟨rfl, greatest, hgreatest, rfl⟩
    · rintro ⟨rfl, greatest, hgreatest, rfl⟩
      exact ⟨greatest, hgreatest, rfl⟩
  simp only [restarts, List.mem_flatMap, hcolumn]
  constructor
  · rintro ⟨column, hmem, hcounts, hgreatest⟩
    exact ⟨⟨column, hmem, hcounts⟩, hgreatest⟩
  · rintro ⟨⟨column, hmem, hcounts⟩, hgreatest⟩
    exact ⟨column, hmem, hcounts, hgreatest⟩

/-- **The restarts read back** from the text that moves the counters are those that the rows
    tell. -/
theorem restarts_of_reset {options : FormatOptions} {table : TableStructure} {data : TableData}
    {text : String} (h : (formatter options).reset table data = .ok text) :
    reading.restarts text
      = restarts (Table.liveName table.name options.tablePrefix) table.columns data.rows := by
  obtain ⟨statements, hstatements, h⟩ := bind_eq_ok_iff.1 h
  obtain rfl := Except.ok.inj h
  have hsaid : ∀ statement : Statement, statement.IsQuoted →
      Sql.gathered .standard reading.restart? (statement.render spelling) = statement.restarts :=
    fun statement => Sql.restarts_render reading_knows
  have hread := (reset_eq_ok hstatements).gathered_block Sql.seesTokens_restart? spelling_isInert
    hsaid
  exact hread.trans (restarts_reset hstatements)

/-! ### Counters past all ids -/

/-- **A text lets a column go on past the ids of an entry**: it restarts the column with a number
    that is greater than each of them. -/
def RestartsPast (text table column : String) (data : TableData) : Prop :=
  ∃ next, ⟨table, column, next⟩ ∈ reading.restarts text ∧ ∀ id ∈ data.ids column, id < next

/-- **Whether a counter goes on past the ids of an entry.**  The text that moves the counters of a
    table lets a counter go on past all ids of an entry exactly if one of them is not below the
    numbers of 64 bits and all of them are below the greatest. -/
theorem restartsPast_iff {options : FormatOptions} {table : TableStructure} {data : TableData}
    {text : String} (h : (formatter options).reset table data = .ok text) {column : Column}
    (hcolumn : column ∈ table.columns) (hcounts : column.countsUp = true) :
    RestartsPast text (Table.liveName table.name options.tablePrefix) column.name data
      ↔ (∃ id ∈ data.ids column.name, Text.least64 ≤ id)
        ∧ ∀ id ∈ data.ids column.name, id < Text.greatest64 := by
  rw [RestartsPast, restarts_of_reset h]
  constructor
  · rintro ⟨next, hnext, hpast⟩
    obtain ⟨-, greatest, hgreatest, rfl⟩ := mem_restarts_iff.1 hnext
    obtain ⟨hmem, -⟩ := greatest?_eq_some_iff.1 hgreatest
    obtain ⟨hid, hleast, -⟩ := mem_columnNumbers_iff.1 hmem
    refine ⟨⟨greatest, hid, hleast⟩, fun id hid => ?_⟩
    exact Int.lt_of_lt_of_le (hpast id hid) (following_le greatest)
  · rintro ⟨⟨id, hid, hleast⟩, hbelow⟩
    have hheld : id ∈ columnNumbers column.name data.rows :=
      mem_columnNumbers_iff.2 ⟨hid, hleast, Int.le_of_lt (hbelow id hid)⟩
    obtain ⟨greatest, hgreatest⟩ := exists_greatest? hheld
    have hmost := (greatest?_eq_some_iff.1 hgreatest).2
    refine ⟨following greatest,
      mem_restarts_iff.2 ⟨⟨column, hcolumn, hcounts, rfl⟩, greatest, hgreatest, rfl⟩, ?_⟩
    intro other hother
    rw [lt_following_iff (hbelow other hother)]
    -- an id that is not looked at is too small, and so below one that is
    rcases Int.lt_or_le other Text.least64 with hlow | hfits
    · exact Int.le_trans (Int.le_of_lt hlow) (Int.le_trans hleast (hmost id hheld))
    · exact hmost other
        (mem_columnNumbers_iff.2 ⟨hother, hfits, Int.le_of_lt (hbelow other hother)⟩)

def wideColumn : Column :=
  ⟨"id", "bigint(20) unsigned", false, "PRI", none, "auto_increment", ""⟩

/-- A table whose ids may be greater than any signed number of 64 bits. -/
def wideTable : TableStructure := ⟨"#__t", [wideColumn], []⟩

def wideRows (ids : List String) : TableData :=
  ⟨"#__t", ids.map fun id => ⟨[⟨"id", some id⟩]⟩⟩

theorem restartsPast_wideRows :
    ∃ text, (formatter ⟨"jos_"⟩).reset wideTable (wideRows ["-3", "x", " 41 ", "+40"]) = .ok text
      ∧ RestartsPast text "jos_t" "id" (wideRows ["-3", "x", " 41 ", "+40"]) := by
  have hok : ((formatter ⟨"jos_"⟩).reset wideTable
      (wideRows ["-3", "x", " 41 ", "+40"])).isOk = true := by
    decide +kernel
  obtain ⟨text, h⟩ := Checked.exists_of_isOk hok
  have hcounts : wideColumn.countsUp = true := by decide +kernel
  have hids : (wideRows ["-3", "x", " 41 ", "+40"]).ids wideColumn.name = [-3, 41, 40] := by
    decide +kernel
  have hpast := restartsPast_iff h List.mem_cons_self hcounts
  have hlive : Table.liveName wideTable.name (FormatOptions.mk "jos_").tablePrefix = "jos_t" := by
    decide +kernel
  rw [hlive, hids] at hpast
  exact ⟨text, h, hpast.2 (by decide +kernel)⟩

/-- **Ids that no restart passes**: beyond 64 bits an id is not looked at, and after the greatest
    number of 64 bits there is no next one. -/
theorem not_restartsPast_wideRows :
    (wideColumn ∈ wideTable.columns ∧ wideColumn.countsUp = true)
      ∧ (∃ text, (formatter ⟨"jos_"⟩).reset wideTable (wideRows ["9223372036854775808"]) = .ok text
        ∧ 9223372036854775808 ∈ (wideRows ["9223372036854775808"]).ids "id"
        ∧ ¬RestartsPast text "jos_t" "id" (wideRows ["9223372036854775808"]))
      ∧ ∃ text, (formatter ⟨"jos_"⟩).reset wideTable (wideRows ["9223372036854775807"]) = .ok text
        ∧ 9223372036854775807 ∈ (wideRows ["9223372036854775807"]).ids "id"
        ∧ ¬RestartsPast text "jos_t" "id" (wideRows ["9223372036854775807"]) := by
  have hbeyond : (formatter ⟨"jos_"⟩).reset wideTable (wideRows ["9223372036854775808"])
      = .ok "" := by
    decide +kernel
  have hlast : (formatter ⟨"jos_"⟩).reset wideTable (wideRows ["9223372036854775807"])
      = .ok "ALTER TABLE jos_t ALTER COLUMN id RESTART WITH 9223372036854775807;\n\n" := by
    decide +kernel
  refine ⟨⟨List.mem_cons_self, by decide +kernel⟩, ⟨_, hbeyond, by decide +kernel, ?_⟩,
    _, hlast, by decide +kernel, ?_⟩
  · rintro ⟨next, hnext, -⟩
    rw [restarts_of_reset hbeyond] at hnext
    obtain ⟨-, greatest, hgreatest, -⟩ := mem_restarts_iff.1 hnext
    have hnone : greatest? (columnNumbers "id" (wideRows ["9223372036854775808"]).rows) = none := by
      decide +kernel
    rw [hnone] at hgreatest
    cases hgreatest
  · rintro ⟨next, hnext, hpast⟩
    rw [restarts_of_reset hlast] at hnext
    obtain ⟨-, greatest, -, rfl⟩ := mem_restarts_iff.1 hnext
    have hid : 9223372036854775807 ∈ (wideRows ["9223372036854775807"]).ids "id" := by
      decide +kernel
    exact Int.not_lt.2 (following_le greatest) (hpast _ hid)

end Dialect.Generic
end SchemaDump
