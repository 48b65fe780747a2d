/-
  SchemaDump/Proofs/Script/Counters.lean
  ======================================
  **Where a script leaves the counters of a table.**

  In the generic dialect each data entry of a table restarts the counters after
  the greatest number of its own rows.  So the last entry that holds numbers
  decides where a counter goes on, and that is past the numbers of all entries
  of the table exactly if none of them holds a greater one.
-/
import SchemaDump.Proofs.Dialect.Identity
import SchemaDump.Proofs.Script.Gathering

namespace SchemaDump

open Checked (bind_eq_ok_iff map_eq_ok_iff exists_of_mem_mapM)
open Sql (Restart Statement)

/-! ### Answers from lists -/

section
variable {α β : Type}

/-- The same answer of some items of a list, if there are any. -/
theorem findSome?_if (p : α → Bool) (answer : Option β) (items : List α) :
    items.findSome? (fun item => if p item then answer else none)
      = if items.any p then answer else none := by
  induction items with
  | nil => rfl
  | cons item items ih =>
    rw [List.findSome?_cons, ih, List.any_cons]
    cases p item with
    | false => rfl
    | true => cases answer <;> simp

theorem findSome?_eq_bind_find? (answer : α → Option β) (items : List α) :
    items.findSome? answer = (items.find? fun item => (answer item).isSome).bind answer := by
  induction items with
  | nil => rfl
  | cons item items ih =>
    rw [List.findSome?_cons, List.find?_cons, ih]
    cases hitem : answer item with
    | none => rfl
    | some value => exact hitem.symm

end

namespace Dialect

/-! ### Statements of the generic dialect -/

namespace Generic

theorem restarts_keyOutput {table : String} {key : KeyGroup} {output : Standard.KeyOutput}
    (h : keyOutput table key = .ok output) : output.statements.flatMap Statement.restarts = [] := by
  cases keyOutput_eq_ok h with
  | primary hkind hcomment => rfl
  | unique hkind hcomment => rfl
  | @index comment hkind hcomment =>
    have hnone : comment.flatMap Statement.restarts = [] :=
      Standard.flatMap_commentOn (fun _ _ => rfl) hcomment
    exact hnone

/-- Creating a table restarts nothing. -/
theorem restarts_create {live : String} {table : TableStructure} {statements : List Statement}
    (h : Standard.create columnClause keyOutput live table = .ok statements) :
    statements.flatMap Statement.restarts = [] := by
  rw [Standard.flatMap_create (fun _ _ _ => rfl) (fun _ _ => rfl)
    (fun key output => restarts_keyOutput) h, List.flatMap_eq_nil_iff]
  exact fun key _ => rfl

/-- The last restart of a column: columns of one name that count up are restarted alike. -/
theorem getLast?_restarts (table : String) (columns : List Column) (rows : List Row)
    (live column : String) :
    ((restarts table columns rows).filter fun restart =>
        restart.table == live && restart.column == column).getLast?.map Restart.next
      = if columns.any fun held => held.name == column && held.countsUp && table == live then
          (greatest? (columnNumbers column rows)).map following
        else none := by
  rw [restarts, List.filter_flatMap, List.getLast?_flatMap, List.map_findSome?, ← List.any_reverse,
    ← findSome?_if]
  congr 1
  funext held
  rw [Function.comp_apply]
  cases held.countsUp with
  | false => simp
  | true =>
    by_cases hname : held.name = column
    · subst hname
      cases greatest? (columnNumbers held.name rows) <;>
        cases htable : table == live <;> simp [htable]
    · cases greatest? (columnNumbers held.name rows) <;> simp [hname]

end Generic
end Dialect

open Dialect

/-! ### What the entries of a dump tell counters -/

namespace Dump

/-- What a data entry tells the counters of its table, if the dump has its structure. -/
def restartsAfter (dump : Dump) (tablePrefix : String) (data : TableData) : List Restart :=
  (dump.structureOf? data.name).elim [] fun table =>
    Generic.restarts (Table.liveName table.name tablePrefix) table.columns data.rows

/-- Whether a column of a table counts up. -/
def countsUp (dump : Dump) (name column : String) : Bool :=
  (dump.structureOf? name).any fun table =>
    table.columns.any fun held => held.name == column && held.countsUp

/-- Where a data entry lets a column of a live table go on, if it does. -/
def goesOn? (dump : Dump) (tablePrefix live column : String) (data : TableData) : Option Int :=
  if Table.liveName data.name tablePrefix == live && dump.countsUp data.name column then
    (Generic.greatest? (Generic.columnNumbers column data.rows)).map Generic.following
  else none

/-- The last data entry that moves the counter of a column. -/
def lastMoved? (dump : Dump) (tablePrefix live column : String) : Option TableData :=
  dump.data.reverse.find? fun data => (dump.goesOn? tablePrefix live column data).isSome

/-- The whole numbers of a column in all data entries of a table. -/
def numbers (dump : Dump) (name column : String) : List Int :=
  (dump.data.filter (·.name == name)).flatMap fun data => Generic.columnNumbers column data.rows

end Dump

namespace Script

open Dialect.Generic (lt_following_iff)

variable {options : FormatOptions} {mode : Mode} {dump : Dump}

/-! ### Texts of the generic dialect -/

theorem tells_restarts (options : FormatOptions) (mode : Mode) :
    Tells (Generic.formatter options) .standard Generic.reading.restart? mode (fun _ => [])
      (fun _ => []) fun table data =>
        Generic.restarts (Table.liveName table.name options.tablePrefix) table.columns data.rows := by
  have hsees : Sql.SeesTokens Generic.reading.restart? := Sql.seesTokens_restart?
  have hsaid : ∀ statement : Statement, statement.IsQuoted →
      Sql.gathered .standard Generic.reading.restart? (statement.render Generic.spelling)
        = statement.restarts :=
    fun statement => Sql.restarts_render Generic.reading_knows
  constructor
  · exact hsees
  · intro table sql h
    cases mode with
    | install =>
      exact gathered_written Generic.spelling_isInert hsees hsaid
        (fun statements => Generic.create_eq_ok) (fun statements => Generic.restarts_create) h
    | sampleData =>
      obtain rfl := Except.ok.inj h
      have hquoted : (Statement.delete (Table.liveName table.name options.tablePrefix)).IsQuoted :=
        trivial
      rw [gathered_line Generic.spelling_isInert hsees hquoted, hsaid _ hquoted]
      rfl
  · intro data sql h
    exact gathered_written Generic.spelling_isInert hsees hsaid
      (fun statements => Standard.insert_eq_ok)
      (fun statements => Standard.flatMap_insert (fun _ _ => rfl) fun _ => rfl) h
  · intro table data sql h
    exact gathered_written Generic.spelling_isInert hsees hsaid
      (fun statements => Generic.reset_eq_ok) (fun statements => Generic.restarts_reset) h

/-- **A script restarts what its data entries tell, in their order.** -/
theorem restarts_ofDump {script : Script}
    (h : ofDump (Generic.formatter options) mode dump = .ok script) :
    Generic.reading.restarts script.sql
      = dump.data.flatMap (dump.restartsAfter options.tablePrefix) := by
  have hgathered := gathered_ofDump (Generic.counts options mode) (tells_restarts options mode) h
  have hprepared : dump.structures.flatMap (fun _ => ([] : List Restart)) = [] :=
    List.flatMap_eq_nil_iff.2 fun _ _ => rfl
  rw [hprepared] at hgathered
  exact hgathered

/-- The restart of a column that a data entry ends with. -/
theorem getLast?_restartsAfter (dump : Dump) (tablePrefix live column : String)
    (data : TableData) :
    ((dump.restartsAfter tablePrefix data).filter fun restart =>
        restart.table == live && restart.column == column).getLast?.map Restart.next
      = dump.goesOn? tablePrefix live column data := by
  rw [Dump.restartsAfter, Dump.goesOn?, Dump.countsUp]
  cases hstructure : dump.structureOf? data.name with
  | none => simp
  | some table =>
    have hname : table.name = data.name := by simpa using List.find?_some hstructure
    rw [Option.elim_some, Generic.getLast?_restarts, hname, Option.any_some]
    cases Table.liveName data.name tablePrefix == live <;> simp

/-- **The last entry that moves a counter decides where it goes on.** -/
theorem lastRestart?_ofDump {script : Script}
    (h : ofDump (Generic.formatter options) mode dump = .ok script) (live column : String) :
    Generic.reading.lastRestart? script.sql live column
      = (dump.lastMoved? options.tablePrefix live column).bind
          (dump.goesOn? options.tablePrefix live column) := by
  rw [Dump.lastMoved?, ← findSome?_eq_bind_find?, Sql.Reading.lastRestart?, restarts_ofDump h,
    List.filter_flatMap, List.getLast?_flatMap, List.map_findSome?]
  congr 1
  funext data
  exact getLast?_restartsAfter dump options.tablePrefix live column data

/-! ### Counters past all rows -/

theorem mem_numbers_iff {name column : String} {n : Int} :
    n ∈ dump.numbers name column
      ↔ ∃ data ∈ dump.data, data.name = name ∧ n ∈ Generic.columnNumbers column data.rows := by
  simp only [Dump.numbers, List.mem_flatMap, List.mem_filter, beq_iff_eq, and_assoc]

theorem goesOn?_eq_some_iff {tablePrefix live column : String} {data : TableData} {next : Int} :
    dump.goesOn? tablePrefix live column data = some next
      ↔ Table.liveName data.name tablePrefix = live ∧ dump.countsUp data.name column = true
        ∧ ∃ greatest, Generic.greatest? (Generic.columnNumbers column data.rows) = some greatest
          ∧ Generic.following greatest = next := by
  rw [Dump.goesOn?, Option.ite_none_right_eq_some, Bool.and_eq_true, beq_iff_eq, and_assoc,
    Option.map_eq_some_iff]

theorem exists_goesOn? {tablePrefix live column : String} {last : TableData}
    (h : dump.lastMoved? tablePrefix live column = some last) :
    ∃ next, dump.goesOn? tablePrefix live column last = some next := by
  rw [Dump.lastMoved?] at h
  have hmoves := List.find?_some h
  exact Option.isSome_iff_exists.1 hmoves

/-- An entry moves a counter if it has a number for it. -/
theorem exists_lastMoved? (tablePrefix : String) {column : String} {data : TableData} {n : Int}
    (hdata : data ∈ dump.data) (hcounts : dump.countsUp data.name column = true)
    (hnumber : n ∈ Generic.columnNumbers column data.rows) :
    ∃ last, dump.lastMoved? tablePrefix (Table.liveName data.name tablePrefix) column
      = some last := by
  rw [Dump.lastMoved?, ← Option.isSome_iff_exists, List.find?_isSome]
  refine ⟨data, List.mem_reverse.2 hdata, ?_⟩
  rw [Option.isSome_iff_exists]
  cases hnumbers : Generic.columnNumbers column data.rows with
  | nil =>
    rw [hnumbers] at hnumber
    cases hnumber
  | cons first others =>
    exact ⟨_, goesOn?_eq_some_iff.2 ⟨rfl, hcounts, _, by rw [hnumbers]; rfl, rfl⟩⟩

/-- **Whether a counter ends past all ids of its table.**  If the data entries of a table hold a
    number for a column that counts up, the script restarts that column, and the last entry that
    moves it decides: its value is past the numbers of all entries of the table exactly if none
    of them is greater than all of the last one. -/
theorem lastRestart?_past_iff {script : Script}
    (h : ofDump (Generic.formatter options) mode dump = .ok script) {name : String}
    {table : TableStructure} (htable : dump.structureOf? name = some table) {column : Column}
    (hcolumn : column ∈ table.columns) (hcounts : column.countsUp = true)
    (hnumber : ∃ n ∈ dump.numbers name column.name, n < Text.greatest64) :
    ∃ last next,
      dump.lastMoved? options.tablePrefix (Table.liveName name options.tablePrefix) column.name
          = some last
        ∧ Generic.reading.lastRestart? script.sql (Table.liveName name options.tablePrefix)
          column.name = some next
        ∧ ((∀ n ∈ dump.numbers name column.name, n < Text.greatest64 → n < next)
          ↔ ∀ n ∈ dump.numbers name column.name, n < Text.greatest64 →
            ∃ held ∈ Generic.columnNumbers column.name last.rows, n ≤ held) := by
  obtain ⟨n, hn, -⟩ := hnumber
  obtain ⟨data, hdata, rfl, hheld⟩ := mem_numbers_iff.1 hn
  have hcountsUp : dump.countsUp data.name column.name = true := by
    rw [Dump.countsUp, htable, Option.any_some, List.any_eq_true]
    exact ⟨column, hcolumn, by rw [hcounts, BEq.rfl, Bool.and_true]⟩
  obtain ⟨last, hlast⟩ := exists_lastMoved? options.tablePrefix hdata hcountsUp hheld
  obtain ⟨next, hnext⟩ := exists_goesOn? hlast
  refine ⟨last, next, hlast, ?_, ?_⟩
  · rw [lastRestart?_ofDump h, hlast, Option.bind_some, hnext]
  · obtain ⟨-, -, greatest, hgreatest, rfl⟩ := goesOn?_eq_some_iff.1 hnext
    obtain ⟨hmem, hmost⟩ := Generic.greatest?_eq_some_iff.1 hgreatest
    refine forall₃_congr fun m _ hm => ?_
    rw [lt_following_iff hm]
    constructor
    · exact fun hle => ⟨greatest, hmem, hle⟩
    · rintro ⟨held, hheld, hle⟩
      exact Int.le_trans hle (hmost held hheld)

def idColumn : Column := ⟨"id", "int(11)", false, "", none, "auto_increment", ""⟩

/-- A table whose ids are in two data entries. -/
def twoEntries (first second : String) : Dump :=
  ⟨"",
    [.ofStructure ⟨"#__t", [idColumn], []⟩, .ofData ⟨"#__t", [⟨[⟨"id", some first⟩]⟩]⟩,
      .ofData ⟨"#__t", [⟨[⟨"id", some second⟩]⟩]⟩]⟩

theorem lastRestart?_ascending :
    ∃ script, ofDump (Generic.formatter ⟨"jos_"⟩) .install (twoEntries "3" "10") = .ok script
      ∧ ∃ last next,
        (twoEntries "3" "10").lastMoved? "jos_" (Table.liveName "#__t" "jos_") idColumn.name
            = some last
          ∧ Generic.reading.lastRestart? script.sql (Table.liveName "#__t" "jos_") idColumn.name
            = some next
          ∧ ((∀ n ∈ (twoEntries "3" "10").numbers "#__t" idColumn.name,
              n < Text.greatest64 → n < next)
            ↔ ∀ n ∈ (twoEntries "3" "10").numbers "#__t" idColumn.name, n < Text.greatest64 →
              ∃ held ∈ Generic.columnNumbers idColumn.name last.rows, n ≤ held) := by
  have hok : (ofDump (Generic.formatter ⟨"jos_"⟩) .install (twoEntries "3" "10")).isOk = true := by
    decide +kernel
  obtain ⟨script, h⟩ := Checked.exists_of_isOk hok
  have htable : (twoEntries "3" "10").structureOf? "#__t" = some ⟨"#__t", [idColumn], []⟩ := rfl
  have hcounts : idColumn.countsUp = true := by decide +kernel
  have hnumber : (3 : Int) ∈ (twoEntries "3" "10").numbers "#__t" idColumn.name := by
    decide +kernel
  have hfits : (3 : Int) < Text.greatest64 := by decide +kernel
  exact ⟨script, h, lastRestart?_past_iff h htable List.mem_cons_self hcounts ⟨3, hnumber, hfits⟩⟩

/-- **A counter that ends behind the ids of its table**: the last data entry has smaller ones. -/
theorem lastRestart?_descending :
    ∃ script, ofDump (Generic.formatter ⟨"jos_"⟩) .install (twoEntries "10" "3") = .ok script
      ∧ Generic.reading.lastRestart? script.sql "jos_t" "id" = some 4
      ∧ 10 ∈ (twoEntries "10" "3").numbers "#__t" "id" := by
  have hok : (ofDump (Generic.formatter ⟨"jos_"⟩) .install (twoEntries "10" "3")).isOk = true := by
    decide +kernel
  obtain ⟨script, h⟩ := Checked.exists_of_isOk hok
  refine ⟨script, h, ?_, by decide +kernel⟩
  rw [lastRestart?_ofDump h]
  decide +kernel

end Script
end SchemaDump
