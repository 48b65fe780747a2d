/-
  SchemaDump/Proofs/Script.lean
  =============================
  **No text of a dump can add, swallow or split a statement.**

  A script is what its formatter writes for the tables and then for the rows.
  If each of these texts splits into a known number of statements, the whole
  script does, and the number depends only on how many tables, keys, comments,
  rows and counters the dump has, not on any name, type, default or value.
-/
import SchemaDump.Proofs.Dialect.Statements
import SchemaDump.Script

namespace SchemaDump

open Checked (bind_eq_ok_iff mapM_eq_ok_iff)
open Sql (AreQuoted Lexis SplitsInto Statement)

/-! ### Counts -/

/-- How many statements a script of a dump has, by how many of them create a table and how many
    move its counters past rows. -/
def Dump.statementCount (dump : Dump) (mode : Mode) (created : TableStructure → Nat)
    (moved : TableStructure → TableData → Nat) : Nat :=
  (dump.structures.map fun table => if mode = .install then created table else 1).sum
    + (dump.data.map fun data =>
        data.rows.length + (dump.structureOf? data.name).elim 0 fun table => moved table data).sum

namespace Dialect

/-- The statements that create a table: itself, its other keys, and all comments. -/
def Postgresql.created (table : TableStructure) : Nat :=
  1 + table.keyGroups.countP (fun key => key.kind != .primary)
    + table.keyGroups.countP (fun key => key.comment != "")
    + table.columns.countP (fun column => column.comment != "")

/-- The statements that move counters past rows, if there are rows. -/
def Postgresql.moved (table : TableStructure) (data : TableData) : Nat :=
  if data.rows.isEmpty then 0 else table.columns.countP Column.countsUp

/-- The statements that create a table: itself, its plain indexes, and all comments. -/
def Generic.created (table : TableStructure) : Nat :=
  1 + table.keyGroups.countP (fun key => key.kind == .index)
    + table.keyGroups.countP (fun key => key.comment != "")
    + table.columns.countP (fun column => column.comment != "")

/-- The statements that move counters past rows, for each counter with a number in some row. -/
def Generic.moved (table : TableStructure) (data : TableData) : Nat :=
  table.columns.countP fun column =>
    column.countsUp && data.rows.any fun row => row.holdsNumber column.name

/-! ### What formatters write -/

/-- A formatter whose texts split into as many statements as the counts say. -/
structure Counts (formatter : Formatter) (lexis : Lexis) (mode : Mode)
    (created : TableStructure → Nat) (moved : TableStructure → TableData → Nat) : Prop where
  prepare : ∀ table sql, Script.prepare formatter mode table = .ok sql →
    SplitsInto lexis sql (if mode = .install then created table else 1)
  insert : ∀ data sql, formatter.insert data = .ok sql → SplitsInto lexis sql data.rows.length
  reset : ∀ table data sql, formatter.reset table data = .ok sql →
    SplitsInto lexis sql (moved table data)

theorem splitsInto_written {spelling : Sql.Spelling} {lexis : Lexis}
    (hspelling : spelling.IsInert lexis) {written : Except Sql.Unsupported (List Statement)}
    {count : Nat} (hwritten : ∀ statements, written = .ok statements → AreQuoted statements count)
    {sql : String}
    (h : (written.bind fun statements => .ok (Sql.block spelling statements)) = Except.ok sql) :
    SplitsInto lexis sql count := by
  obtain ⟨statements, hstatements, h⟩ := bind_eq_ok_iff.1 h
  obtain rfl := Except.ok.inj h
  exact (hwritten statements hstatements).splitsInto_block hspelling

theorem splitsInto_line {spelling : Sql.Spelling} {lexis : Lexis}
    (hspelling : spelling.IsInert lexis) {statement : Statement} (h : statement.IsQuoted) :
    SplitsInto lexis (statement.render spelling ++ "\n") 1 :=
  (Statement.splitsInto_render hspelling h).append (.of_blankOnly rfl lexis)

theorem Postgresql.create_eq_ok {live : String} {table : TableStructure}
    {statements : List Statement}
    (h : Standard.create Postgresql.columnClause Postgresql.keyOutput live table
      = .ok statements) :
    AreQuoted statements (Postgresql.created table) :=
  Standard.create_eq_ok (fun _ _ => Postgresql.columnClause_isQuoted)
    (fun _ _ => Postgresql.keyOutput_counts) h

theorem Postgresql.counts (options : FormatOptions) (mode : Mode) :
    Counts (Postgresql.formatter options) .standard mode Postgresql.created Postgresql.moved := by
  constructor
  · intro table sql h
    cases mode with
    | install =>
      exact splitsInto_written Postgresql.spelling_isInert
        (fun statements => Postgresql.create_eq_ok) h
    | sampleData =>
      obtain rfl := Except.ok.inj h
      exact splitsInto_line Postgresql.spelling_isInert trivial
  · intro data sql h
    exact splitsInto_written Postgresql.spelling_isInert
      (fun statements => Standard.insert_eq_ok) h
  · intro table data sql h
    have hreset : (if data.rows.isEmpty then .ok "" else
        (Postgresql.reset (Table.liveName table.name options.tablePrefix) table.columns).bind
          fun statements => .ok (Sql.block Postgresql.spelling statements)) = Except.ok sql := h
    rw [Postgresql.moved]
    by_cases hempty : data.rows.isEmpty = true
    · rw [if_pos hempty] at hreset ⊢
      obtain rfl := Except.ok.inj hreset
      exact .empty .standard
    · rw [if_neg hempty] at hreset ⊢
      exact splitsInto_written Postgresql.spelling_isInert
        (fun statements => Postgresql.reset_eq_ok) hreset

theorem Generic.create_eq_ok {live : String} {table : TableStructure}
    {statements : List Statement}
    (h : Standard.create Generic.columnClause Generic.keyOutput live table = .ok statements) :
    AreQuoted statements (Generic.created table) :=
  Standard.create_eq_ok (fun _ _ => Generic.columnClause_isQuoted)
    (fun _ _ => Generic.keyOutput_counts) h

theorem Generic.counts (options : FormatOptions) (mode : Mode) :
    Counts (Generic.formatter options) .standard mode Generic.created Generic.moved := by
  constructor
  · intro table sql h
    cases mode with
    | install =>
      exact splitsInto_written Generic.spelling_isInert (fun statements => Generic.create_eq_ok) h
    | sampleData =>
      obtain rfl := Except.ok.inj h
      exact splitsInto_line Generic.spelling_isInert trivial
  · intro data sql h
    exact splitsInto_written Generic.spelling_isInert (fun statements => Standard.insert_eq_ok) h
  · intro table data sql h
    exact splitsInto_written Generic.spelling_isInert (fun statements => Generic.reset_eq_ok) h

theorem Mysql.counts (options : FormatOptions) :
    Counts (Mysql.formatter options) .mysql .sampleData (fun _ => 1) (fun _ _ => 0) := by
  constructor
  · intro table sql h
    obtain rfl := Except.ok.inj h
    exact splitsInto_line Mysql.spelling_isInert trivial
  · intro data sql h
    obtain rfl := Except.ok.inj h
    have hquoted : AreQuoted
        (Mysql.insert (Table.liveName data.name options.tablePrefix) data.rows)
        data.rows.length := by
      refine ⟨?_, List.length_map _⟩
      intro statement hmem
      obtain ⟨row, -, rfl⟩ := List.mem_map.1 hmem
      exact trivial
    exact hquoted.splitsInto_block Mysql.spelling_isInert
  · intro table data sql h
    obtain rfl := Except.ok.inj h
    exact .empty .mysql

end Dialect

/-! ### Whole scripts -/

namespace Script

open Dialect (Counts)

theorem splitsInto_fill {formatter : Formatter} {lexis : Lexis} {mode : Mode}
    {created : TableStructure → Nat} {moved : TableStructure → TableData → Nat}
    (hcounts : Counts formatter lexis mode created moved) {dump : Dump} {data : TableData}
    {sql : String} (h : fill formatter dump data = .ok sql) :
    SplitsInto lexis sql
      (data.rows.length
        + (dump.structureOf? data.name).elim 0 fun table => moved table data) := by
  obtain ⟨rows, hrows, h⟩ := bind_eq_ok_iff.1 h
  have hinserted := hcounts.insert data rows hrows
  cases hstructure : dump.structureOf? data.name with
  | some table =>
    simp only [hstructure] at h
    obtain ⟨counters, hcounters, h⟩ := bind_eq_ok_iff.1 h
    obtain rfl := Except.ok.inj h
    exact hinserted.append (hcounts.reset table data counters hcounters)
  | none =>
    simp only [hstructure] at h
    obtain rfl := Except.ok.inj h
    exact hinserted.append (.empty lexis)

/-- Texts for the items of a list, put together. -/
theorem splitsInto_join {α : Type} {lexis : Lexis} {write : α → Except Sql.Unsupported String}
    {count : α → Nat} {items : List α} {texts : List String}
    (hwrite : ∀ item sql, write item = .ok sql → SplitsInto lexis sql (count item))
    (h : items.mapM write = .ok texts) :
    SplitsInto lexis (String.join texts) (items.map count).sum := by
  refine .join ?_
  rw [List.forall₂_map_right_iff]
  rw [mapM_eq_ok_iff] at h
  exact h.flip.imp fun text item hitem => hwrite item text hitem

/-- The empty line after emptied tables is no statement. -/
theorem splitsInto_gap (lexis : Lexis) (cleared : Bool) :
    SplitsInto lexis (if cleared then "\n" else "") 0 := by
  cases cleared with
  | true => exact .of_blankOnly rfl lexis
  | false => exact .empty lexis

/-- **A script splits into the statements that its dump calls for.** -/
theorem splitsInto_ofDump {formatter : Formatter} {lexis : Lexis} {mode : Mode}
    {created : TableStructure → Nat} {moved : TableStructure → TableData → Nat}
    (hcounts : Counts formatter lexis mode created moved) {dump : Dump} {script : Script}
    (h : ofDump formatter mode dump = .ok script) :
    SplitsInto lexis script.sql (dump.statementCount mode created moved) := by
  obtain ⟨tables, htables, h⟩ := bind_eq_ok_iff.1 h
  obtain ⟨rows, hrows, h⟩ := bind_eq_ok_iff.1 h
  obtain rfl := Except.ok.inj h
  have hprepared := splitsInto_join hcounts.prepare htables
  have hfilled := splitsInto_join (fun data sql => splitsInto_fill hcounts) hrows
  exact (hprepared.append (splitsInto_gap lexis _)).append hfilled

/-- MySQL can always empty tables and fill them. -/
theorem exists_ofDump_mysql (options : FormatOptions) (dump : Dump) :
    ∃ script, ofDump (Dialect.Mysql.formatter options) .sampleData dump = .ok script := by
  have htables : ∃ texts, dump.structures.mapM
      (prepare (Dialect.Mysql.formatter options) .sampleData) = .ok texts :=
    ⟨_, Checked.mapM_eq_ok_map fun table _ => rfl⟩
  have hrows : ∃ texts, dump.data.mapM (fill (Dialect.Mysql.formatter options) dump)
      = .ok texts := by
    refine Checked.exists_mapM_eq_ok ?_
    intro data _
    rw [fill]
    cases dump.structureOf? data.name with
    | some table => exact ⟨_, rfl⟩
    | none => exact ⟨_, rfl⟩
  obtain ⟨tables, htables⟩ := htables
  obtain ⟨rows, hrows⟩ := hrows
  exact ⟨_, bind_eq_ok_iff.2 ⟨tables, htables, bind_eq_ok_iff.2 ⟨rows, hrows, rfl⟩⟩⟩

/-- **No text of a dump can add, swallow or split a statement.**  Scripts of the dialects outside
    MySQL, and those of MySQL that only fill tables, split into statements as the dump has
    tables, keys, comments, rows and counters, with no quotes open and nothing left over. -/
theorem splitsInto_statementCount (options : FormatOptions) (dump : Dump) :
    (∀ mode script, ofDump (Dialect.Postgresql.formatter options) mode dump = .ok script →
        SplitsInto .standard script.sql
          (dump.statementCount mode Dialect.Postgresql.created Dialect.Postgresql.moved))
      ∧ (∀ mode script, ofDump (Dialect.Generic.formatter options) mode dump = .ok script →
        SplitsInto .standard script.sql
          (dump.statementCount mode Dialect.Generic.created Dialect.Generic.moved))
      ∧ ∃ script, ofDump (Dialect.Mysql.formatter options) .sampleData dump = .ok script
        ∧ SplitsInto .mysql script.sql
          (dump.structures.length + (dump.data.map fun data => data.rows.length).sum) := by
  refine ⟨?_, ?_, ?_⟩
  · intro mode script h
    exact splitsInto_ofDump (Dialect.Postgresql.counts options mode) h
  · intro mode script h
    exact splitsInto_ofDump (Dialect.Generic.counts options mode) h
  · obtain ⟨script, h⟩ := exists_ofDump_mysql options dump
    have hsplit := splitsInto_ofDump (Dialect.Mysql.counts options) h
    have htables : (dump.structures.map fun _ => 1).sum = dump.structures.length := by
      rw [List.map_const', List.sum_replicate_nat, Nat.mul_one]
    have hmoved : ∀ table : Option TableStructure, table.elim 0 (fun _ => 0) = 0 := by
      intro table
      cases table <;> rfl
    simp only [Dump.statementCount, ite_self, htables, hmoved, Nat.add_zero] at hsplit
    exact ⟨script, h, hsplit⟩

/-- A table whose names, comments and values are full of quotes and semicolons. -/
def orders : Dump :=
  ⟨"",
    [.ofStructure
      ⟨"#__a;b",
        [⟨"id", "int(11)", false, "PRI", none, "auto_increment", "it's; \"this\""⟩,
          ⟨"at", "datetime", false, "", some "now()", "", ""⟩],
        [⟨"#__a;b", false, "PRIMARY", 1, "id", "A", "", "BTREE", ""⟩,
          ⟨"#__a;b", true, "k;", 1, "at", "A", "", "BTREE", "';"⟩]⟩,
      .ofData ⟨"#__a;b", [⟨[⟨"id", some "7"⟩, ⟨"at", some "';--"⟩]⟩]⟩]⟩

theorem splitsInto_orders :
    (∃ script, ofDump (Dialect.Postgresql.formatter {}) .install orders = .ok script
        ∧ SplitsInto .standard script.sql 6)
      ∧ ∃ script, ofDump (Dialect.Generic.formatter {}) .install orders = .ok script
        ∧ SplitsInto .standard script.sql 6 := by
  have hpostgresql : (ofDump (Dialect.Postgresql.formatter {}) .install orders).isOk = true := by
    decide +kernel
  have hgeneric : (ofDump (Dialect.Generic.formatter {}) .install orders).isOk = true := by
    decide +kernel
  have hcountPostgresql : orders.statementCount .install Dialect.Postgresql.created
      Dialect.Postgresql.moved = 6 := by
    decide +kernel
  have hcountGeneric : orders.statementCount .install Dialect.Generic.created
      Dialect.Generic.moved = 6 := by
    decide +kernel
  constructor
  · obtain ⟨script, h⟩ := Checked.exists_of_isOk hpostgresql
    rw [← hcountPostgresql]
    exact ⟨script, h, (splitsInto_statementCount {} orders).1 .install script h⟩
  · obtain ⟨script, h⟩ := Checked.exists_of_isOk hgeneric
    rw [← hcountGeneric]
    exact ⟨script, h, (splitsInto_statementCount {} orders).2.1 .install script h⟩

end Script
end SchemaDump
