/-
  SchemaDump/Proofs/Script/Gathering.lean
  =======================================
  **What a reader gathers from a script.**

  A script is what its formatter writes for the structures of a dump and then
  for its data entries.  If it is known what a reader gathers from each of these
  texts, it is known what the reader gathers from the script.
-/
import SchemaDump.Proofs.Script
import SchemaDump.Proofs.Sql.Gathering

namespace SchemaDump.Script

open Checked (bind_eq_ok_iff exists_of_mem_mapM)
open Dialect (Counts)
open Sql (AreQuoted Lexis Piece SeesTokens Spelling SplitsInto Statement gathered gathered_append
  gathered_of_splitsInto_zero)

section
variable {α : Type} {formatter : Formatter} {lexis : Lexis} {read : List Piece → Option α}
  {mode : Mode} {prepared : TableStructure → List α} {inserted : TableData → List α}
  {reset : TableStructure → TableData → List α} {created : TableStructure → Nat}
  {moved : TableStructure → TableData → Nat} {dump : Dump}

/-- A formatter of which it is known what a reader gathers from its texts. -/
structure Tells (formatter : Formatter) (lexis : Lexis) (read : List Piece → Option α)
    (mode : Mode) (prepared : TableStructure → List α) (inserted : TableData → List α)
    (reset : TableStructure → TableData → List α) : Prop where
  sees : SeesTokens read
  prepare : ∀ table sql, prepare formatter mode table = .ok sql →
    gathered lexis read sql = prepared table
  insert : ∀ data sql, formatter.insert data = .ok sql → gathered lexis read sql = inserted data
  reset : ∀ table data sql, formatter.reset table data = .ok sql →
    gathered lexis read sql = reset table data

/-- What a reader gathers from a block, if it is known what its statements say. -/
theorem gathered_written {spelling : Spelling} (hspelling : spelling.IsInert lexis)
    (hsees : SeesTokens read) {said : Statement → List α}
    (hsaid : ∀ statement : Statement, statement.IsQuoted →
      gathered lexis read (statement.render spelling) = said statement)
    {written : Except Sql.Unsupported (List Statement)} {count : Nat}
    (hquoted : ∀ statements, written = .ok statements → AreQuoted statements count)
    {told : List α} (htold : ∀ statements, written = .ok statements →
      statements.flatMap said = told) {sql : String}
    (h : (written.bind fun statements => .ok (Sql.block spelling statements)) = Except.ok sql) :
    gathered lexis read sql = told := by
  obtain ⟨statements, hstatements, h⟩ := bind_eq_ok_iff.1 h
  obtain rfl := Except.ok.inj h
  rw [(hquoted statements hstatements).gathered_block hsees hspelling hsaid,
    htold statements hstatements]

/-- What a reader gathers from a line with one statement. -/
theorem gathered_line {spelling : Spelling} (hspelling : spelling.IsInert lexis)
    (hsees : SeesTokens read) {statement : Statement} (h : statement.IsQuoted) :
    gathered lexis read (statement.render spelling ++ "\n")
      = gathered lexis read (statement.render spelling) := by
  have hbreak : SplitsInto lexis "\n" 0 := .of_blankOnly rfl lexis
  rw [gathered_append hsees (Statement.splitsInto_render hspelling h),
    gathered_of_splitsInto_zero hbreak, List.append_nil]

/-- What a reader gathers from the text that fills a table. -/
def filled (dump : Dump) (inserted : TableData → List α)
    (reset : TableStructure → TableData → List α) (data : TableData) : List α :=
  inserted data ++ (dump.structureOf? data.name).elim [] fun table => reset table data

theorem gathered_fill (hcounts : Counts formatter lexis mode created moved)
    (htells : Tells formatter lexis read mode prepared inserted reset) {data : TableData}
    {sql : String} (h : fill formatter dump data = .ok sql) :
    gathered lexis read sql = filled dump inserted reset data := by
  obtain ⟨rows, hrows, h⟩ := bind_eq_ok_iff.1 h
  have hsplit := hcounts.insert data rows hrows
  rw [filled]
  cases hstructure : dump.structureOf? data.name with
  | some table =>
    simp only [hstructure] at h
    obtain ⟨counters, hcounters, h⟩ := bind_eq_ok_iff.1 h
    obtain rfl := Except.ok.inj h
    rw [gathered_append htells.sees hsplit, htells.insert data rows hrows,
      htells.reset table data counters hcounters]
    rfl
  | none =>
    simp only [hstructure] at h
    obtain rfl := Except.ok.inj h
    rw [gathered_append htells.sees hsplit, htells.insert data rows hrows,
      gathered_of_splitsInto_zero (.empty lexis)]
    rfl

/-- What is gathered from texts for the items of a list, put together. -/
theorem gathered_texts {β : Type} {write : β → Except Sql.Unsupported String} {count : β → Nat}
    {told : β → List α} {items : List β} {texts : List String} (hsees : SeesTokens read)
    (hwrite : ∀ item sql, write item = .ok sql → SplitsInto lexis sql (count item))
    (hread : ∀ item sql, write item = .ok sql → gathered lexis read sql = told item)
    (h : items.mapM write = .ok texts) :
    gathered lexis read (String.join texts) = items.flatMap told := by
  have hsplit : ∀ text ∈ texts, ∃ count, SplitsInto lexis text count := by
    intro text hmem
    obtain ⟨item, -, hitem⟩ := exists_of_mem_mapM h hmem
    exact ⟨count item, hwrite item text hitem⟩
  rw [Sql.gathered_join hsees hsplit]
  exact Checked.flatMap_of_mapM h hread

/-- **A script tells what its structures tell, and then what its data entries tell.** -/
theorem gathered_ofDump (hcounts : Counts formatter lexis mode created moved)
    (htells : Tells formatter lexis read mode prepared inserted reset) {script : Script}
    (h : ofDump formatter mode dump = .ok script) :
    gathered lexis read script.sql
      = dump.structures.flatMap prepared ++ dump.data.flatMap (filled dump inserted reset) := by
  obtain ⟨tables, htables, h⟩ := bind_eq_ok_iff.1 h
  obtain ⟨rows, hrows, h⟩ := bind_eq_ok_iff.1 h
  obtain rfl := Except.ok.inj h
  have hprepared := splitsInto_join hcounts.prepare htables
  have hgap := splitsInto_gap lexis (mode == .sampleData && !tables.isEmpty)
  rw [gathered_append htells.sees (hprepared.append hgap), gathered_append htells.sees hprepared,
    gathered_of_splitsInto_zero hgap, List.append_nil,
    gathered_texts htells.sees hcounts.prepare htells.prepare htables,
    gathered_texts htells.sees (fun data sql => splitsInto_fill hcounts)
      (fun data sql => gathered_fill hcounts htells) hrows]

end
end SchemaDump.Script
