/-
  SchemaDump/Proofs/Exporter/Streaming.lean
  =========================================
  **Streaming an export is writing its dump.**

  An export either collects a dump and is written afterwards or is written while
  its rows arrive.  Both ask the source the same questions in the same order, so
  they meet the same failure first, and the events that are streamed are those
  of the dump.
-/
import SchemaDump.Exporter
import SchemaDump.Proofs.Document.Distinct

namespace SchemaDump.Exporter

open Document (entryEvents startEvents endEvents)
open Markup (Event Layout)

/-! ### One table -/

theorem all_structure (source : Source) (table : String) :
    (Run.ofExcept ((readStructure source table).map Document.structureEvents)).all
      = (readStructure source table).map fun held => entryEvents (.ofStructure held) :=
  Run.all_ofExcept _

/-- The rows are told one by one; a failure between two of them comes after the first. -/
theorem all_data (name : String) (rows : Run SourceError Row) :
    (Run.concat
        [Run.ofList (Document.dataStartEvents name), rows.flatMap Document.rowEvents .source,
          Run.ofList Document.dataEndEvents]).all
      = (rows.all.mapError ExportError.source).map fun held =>
          entryEvents (.ofData ⟨name, held⟩) := by
  rcases rows with ⟨items, failure⟩
  cases failure with
  | none =>
    simp [Run.concat, Run.flatMap, Run.ofList, Run.append, Run.all, Except.mapError, Except.map,
      entryEvents]
  | some cause => rfl

/-- **A table is streamed as its entries are written**, and fails for the same reason. -/
theorem all_tableEvents (exporter : Exporter) (source : Source) (table : String) :
    (exporter.tableEvents source table).all
      = (exporter.readEntries source table).map (·.flatMap entryEvents) := by
  obtain ⟨tables, withStructure, withData, name, bound⟩ := exporter
  have hdata := all_data (Table.genericName table source.tablePrefix) (source.rows table)
  -- the switches decide which questions are asked; each answer is then a value or a failure
  cases withStructure with
  | false =>
    cases withData with
    | false => rfl
    | true =>
      simp only [tableEvents, readEntries, Bool.false_eq_true, if_false, if_true, Run.all_append,
        Run.all_ofList, Checked.bind_ok, hdata]
      cases (source.rows table).all <;>
        simp [Except.mapError, Except.map, pure, Except.pure, bind, Except.bind]
  | true =>
    cases withData with
    | false =>
      simp only [tableEvents, readEntries, Bool.false_eq_true, if_false, if_true, Run.all_append,
        Run.all_ofList, all_structure]
      cases readStructure source table <;>
        simp [Except.map, pure, Except.pure, bind, Except.bind]
    | true =>
      simp only [tableEvents, readEntries, if_true, Run.all_append, all_structure, hdata]
      cases readStructure source table <;> cases (source.rows table).all <;>
        simp [Except.mapError, Except.map, pure, Except.pure, bind, Except.bind]

/-! ### All tables -/

/-- Tables are streamed one after another, up to the first failure. -/
theorem all_concat_tableEvents (exporter : Exporter) (source : Source) (tables : List String) :
    (Run.concat (tables.map (exporter.tableEvents source))).all
      = (tables.mapM (exporter.readEntries source)).map (·.flatten.flatMap entryEvents) := by
  induction tables with
  | nil => rfl
  | cons table tables ih =>
    have hcons : Run.concat ((table :: tables).map (exporter.tableEvents source))
        = (exporter.tableEvents source table).append
            (Run.concat (tables.map (exporter.tableEvents source))) := rfl
    rw [hcons, Run.all_append, all_tableEvents, ih, List.mapM_cons]
    cases exporter.readEntries source table with
    | error cause => rfl
    | ok entries =>
      cases tables.mapM (exporter.readEntries source) with
      | error cause => rfl
      | ok rest => simp [Except.map, bind, Except.bind, pure, Except.pure]

theorem all_streamedEvents (exporter : Exporter) (source : Source) :
    (exporter.streamedEvents source).all
      = (exporter.tables.mapM (exporter.readEntries source)).map fun entries =>
          startEvents exporter.databaseName ++ entries.flatten.flatMap entryEvents := by
  rw [streamedEvents, Run.all_append, all_concat_tableEvents]
  cases exporter.tables.mapM (exporter.readEntries source) <;> rfl

/-! ### The document -/

/-- What is streamed into a sink without a limit: all events and the end, or a failure. -/
theorem document_of_check {exporter : Exporter} {source : Source}
    (h : exporter.check = .ok source) :
    exporter.document = (exporter.streamedEvents source).all.map fun events =>
      String.join (({} : Layout).writeAll (events ++ endEvents)) ++ "\n" := by
  rw [document, writeTo, h]
  simp only [Writer.putAll_of_unlimited]
  rcases exporter.streamedEvents source with ⟨items, failure⟩
  cases failure with
  | none =>
    simp [Writer.finish_of_unlimited, Run.all, Except.map, Sink.push, Layout.writeAll_append,
      String.append_assoc]
  | some cause => rfl

/-- **The streamed document is the written dump**, and where there is no dump there is no document
    for the same reason. -/
theorem document_eq_map_write (exporter : Exporter) :
    exporter.document = exporter.dump.map Document.write := by
  cases hcheck : exporter.check with
  | error cause =>
    have hdump : exporter.dump = .error cause := by
      rw [dump, hcheck]
      rfl
    rw [document, writeTo, hcheck, hdump]
    rfl
  | ok source =>
    rw [document_of_check hcheck, all_streamedEvents, dump_of_check hcheck]
    cases exporter.tables.mapM (exporter.readEntries source) <;> rfl

/-- **An export is streamed as a document exactly if it gives the dump of that document**, and it
    breaks off exactly if it gives no dump, for the same reason. -/
theorem document_iff_dump (exporter : Exporter) :
    (∀ held : Dump, exporter.document = .ok (Document.write held) ↔ exporter.dump = .ok held)
      ∧ ∀ cause, exporter.document = .error cause ↔ exporter.dump = .error cause := by
  rw [document_eq_map_write]
  cases exporter.dump with
  | error cause => simp [Except.map]
  | ok exported => simp [Except.map, Document.write_injective.eq_iff]

end SchemaDump.Exporter
