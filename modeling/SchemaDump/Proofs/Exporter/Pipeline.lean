/-
  SchemaDump/Proofs/Exporter/Pipeline.lean
  ========================================
  **From one database to the script for another.**

  An export replaces the prefix of the source by the placeholder, is written as
  a document, read again and formatted with a prefix in the placeholder's place.
  With the prefix of the source that is what formatting the source's own tables
  would give: no stage loses, reorders or merges anything.
-/
import SchemaDump.Proofs.Exporter.Streaming
import SchemaDump.Proofs.Script.Live
import SchemaDump.Source.Memory

namespace SchemaDump

open Checked (bind_eq_ok_iff map_eq_ok_iff)

/-! ### Positions -/

theorem Dump.IsNumbered.generic {dump : Dump} (h : dump.IsNumbered) (tablePrefix : String) :
    (dump.generic tablePrefix).IsNumbered := by
  intro table htable part hpart
  rw [Dump.structures_generic] at htable
  obtain ⟨held, hheld, rfl⟩ := List.mem_map.1 htable
  obtain ⟨own, hown, rfl⟩ := List.mem_map.1 hpart
  exact h held hheld own hown

namespace Exporter

variable {exporter : Exporter} {source : Source}

/-! ### The source's own tables -/

/-- The structure of a table as the source tells it, under its live name. -/
def liveStructure (source : Source) (table : String) : Except SourceError TableStructure := do
  let columns ← source.columns table
  let keys ← source.keys table
  pure ⟨table, columns, keys⟩

/-- An entry that is asked for only if it is wanted. -/
def ifWanted (wanted : Bool) (entry : Except SourceError Entry) :
    Except SourceError (List Entry) :=
  if wanted then entry.map fun held => [held] else .ok []

/-- The entries of one table as the source tells them, under its live name. -/
def liveEntries (exporter : Exporter) (source : Source) (table : String) :
    Except SourceError (List Entry) := do
  let structures ← ifWanted exporter.withStructure ((liveStructure source table).map .ofStructure)
  let data ← ifWanted exporter.withData
    ((source.rows table).all.map fun rows => .ofData ⟨table, rows⟩)
  pure (structures ++ data)

/-- The selected tables in order, under their live names. -/
def liveDump (exporter : Exporter) (source : Source) : Except SourceError Dump := do
  let entries ← exporter.tables.mapM (exporter.liveEntries source)
  pure ⟨exporter.databaseName, entries.flatten⟩

theorem eq_ok_of_mem_ifWanted {wanted : Bool} {part : Except SourceError Entry}
    {entries : List Entry} (h : ifWanted wanted part = .ok entries) {entry : Entry}
    (hentry : entry ∈ entries) : wanted = true ∧ part = .ok entry := by
  cases wanted with
  | false =>
    obtain rfl := Except.ok.inj h
    cases hentry
  | true =>
    obtain ⟨held, hpart, rfl⟩ := map_eq_ok_iff.1 h
    rw [List.mem_singleton.1 hentry]
    exact ⟨rfl, hpart⟩

theorem mem_liveEntries {table : String} {entries : List Entry}
    (h : exporter.liveEntries source table = .ok entries) {entry : Entry}
    (hentry : entry ∈ entries) :
    (exporter.withStructure = true ∧ ∃ columns keys, source.keys table = .ok keys
        ∧ entry = .ofStructure ⟨table, columns, keys⟩)
      ∨ ∃ rows, entry = .ofData ⟨table, rows⟩ := by
  obtain ⟨structures, hstructures, h⟩ := bind_eq_ok_iff.1 h
  obtain ⟨data, hdata, h⟩ := bind_eq_ok_iff.1 h
  obtain rfl := Except.ok.inj h
  rcases List.mem_append.1 hentry with hmem | hmem
  · obtain ⟨hwanted, hpart⟩ := eq_ok_of_mem_ifWanted hstructures hmem
    obtain ⟨held, hheld, rfl⟩ := map_eq_ok_iff.1 hpart
    obtain ⟨columns, -, hheld⟩ := bind_eq_ok_iff.1 hheld
    obtain ⟨keys, hkeys, hheld⟩ := bind_eq_ok_iff.1 hheld
    obtain rfl := Except.ok.inj hheld
    exact .inl ⟨hwanted, columns, keys, hkeys, rfl⟩
  · obtain ⟨-, hpart⟩ := eq_ok_of_mem_ifWanted hdata hmem
    obtain ⟨rows, -, rfl⟩ := map_eq_ok_iff.1 hpart
    exact .inr ⟨rows, rfl⟩

theorem exists_of_mem_liveDump {live : Dump} (h : exporter.liveDump source = .ok live)
    {entry : Entry} (hentry : entry ∈ live.entries) :
    ∃ table ∈ exporter.tables, ∃ entries, exporter.liveEntries source table = .ok entries
      ∧ entry ∈ entries := by
  obtain ⟨all, hall, h⟩ := bind_eq_ok_iff.1 h
  obtain rfl := Except.ok.inj h
  obtain ⟨entries, hentries, hmem⟩ := List.mem_flatten.1 hentry
  obtain ⟨table, htable, hlive⟩ := Checked.exists_of_mem_mapM hall hentries
  exact ⟨table, htable, entries, hlive, hmem⟩

theorem isUnmarked_liveDump {live : Dump} (h : exporter.liveDump source = .ok live)
    (hnames : ∀ table ∈ exporter.tables, ¬Table.IsMarked table) : live.IsUnmarked := by
  intro entry hentry
  obtain ⟨table, htable, entries, hlive, hmem⟩ := exists_of_mem_liveDump h hentry
  rcases mem_liveEntries hlive hmem with ⟨-, columns, keys, -, rfl⟩ | ⟨rows, rfl⟩
  · exact hnames table htable
  · exact hnames table htable

theorem isNumbered_liveDump {live : Dump} (h : exporter.liveDump source = .ok live)
    (hpositions : exporter.withStructure = true → ∀ table ∈ exporter.tables,
      ∀ keys, source.keys table = .ok keys → ∀ part ∈ keys, 1 ≤ part.position) :
    live.IsNumbered := by
  intro held hheld part hpart
  obtain ⟨table, htable, entries, hlive, hmem⟩ :=
    exists_of_mem_liveDump h (Dump.mem_structures_iff.1 hheld)
  rcases mem_liveEntries hlive hmem with ⟨hswitch, columns, keys, hkeys, heq⟩ | ⟨rows, heq⟩
  · obtain rfl := Entry.ofStructure.inj heq
    exact hpositions hswitch table htable keys hkeys part hpart
  · cases heq

/-! ### What an export makes of them -/

theorem readEntries_eq (exporter : Exporter) (source : Source) (table : String) :
    exporter.readEntries source table
      = ((exporter.liveEntries source table).map
          (List.map fun entry => entry.generic source.tablePrefix)).mapError .source := by
  obtain ⟨tables, withStructure, withData, name, bound⟩ := exporter
  -- the switches decide which questions are asked; each answer is then a value or a failure
  cases withStructure <;> cases withData <;>
    simp only [readEntries, liveEntries, readStructure, liveStructure, ifWanted,
      Bool.false_eq_true, if_false, if_true] <;>
    cases source.columns table <;> cases source.keys table <;> cases (source.rows table).all <;>
    rfl

/-- **An export is the generic form of the source's own tables**, and fails where the source
    does not tell them. -/
theorem dump_eq_generic (h : exporter.check = .ok source) :
    exporter.dump
      = ((exporter.liveDump source).map fun live => live.generic source.tablePrefix).mapError
          .source := by
  rw [dump_of_check h, funext (readEntries_eq exporter source), Checked.mapM_map_mapError, liveDump]
  cases exporter.tables.mapM (exporter.liveEntries source) with
  | error cause => rfl
  | ok entries =>
    simp [Except.map, Except.mapError, bind, Except.bind, pure, Except.pure, Dump.generic,
      List.map_flatten]

/-! ### The whole way -/

theorem check_of_dump (hsource : exporter.source = some source) {exported : Dump}
    (h : exporter.dump = .ok exported) : exporter.check = .ok source := by
  have hcheck : exporter.check
      = if exporter.tables.isEmpty then .error .noTables else .ok source := by
    rw [check, hsource]
    cases exporter.tables.isEmpty <;> rfl
  cases hempty : exporter.tables.isEmpty with
  | false => rw [hcheck, hempty, if_neg Bool.false_ne_true]
  | true =>
    rw [dump, hcheck, if_pos hempty] at h
    cases h

/-- **A document that was exported gives the script of the source's own tables.**  It is read back
    with the prefix of the source, and they are formatted with any prefix: their names have no
    placeholder for it. -/
theorem ofDocument_document {exporter : Exporter} {source : Source}
    (hsource : exporter.source = some source)
    (hnames : ∀ table ∈ exporter.tables, ¬Table.IsMarked table)
    (hpositions : exporter.withStructure = true → ∀ table ∈ exporter.tables,
      ∀ keys, source.keys table = .ok keys → ∀ part ∈ keys, 1 ≤ part.position)
    {text : String} (hdocument : exporter.document = .ok text)
    {dialect tablePrefix : String} {formatter : Formatter}
    (hformatter : Dialects.builtin.create dialect ⟨tablePrefix⟩ = .ok formatter) (mode : Mode) :
    ∃ live, exporter.liveDump source = .ok live
      ∧ Script.ofDocument Dialects.builtin dialect ⟨source.tablePrefix⟩ mode text
        = (Script.ofDump formatter mode live).mapError fun cause =>
            .format (.unsupported cause) := by
  rw [document_eq_map_write] at hdocument
  obtain ⟨exported, hexported, rfl⟩ := map_eq_ok_iff.1 hdocument
  -- the exported dump is the generic form of the live one
  have hdump := dump_eq_generic (check_of_dump hsource hexported)
  rw [hexported] at hdump
  cases hlive : exporter.liveDump source with
  | error cause =>
    rw [hlive] at hdump
    cases hdump
  | ok live =>
    rw [hlive] at hdump
    obtain rfl : exported = live.generic source.tablePrefix := Except.ok.inj hdump
    have hunmarked := isUnmarked_liveDump hlive hnames
    -- reading gives it back
    have hread := Document.read_write_of_isNumbered
      ((isNumbered_liveDump hlive hpositions).generic source.tablePrefix)
    -- and it is formatted with one prefix as the live one is with the other
    obtain ⟨factory, hfactory, rfl⟩ := Dialects.exists_find?_of_create hformatter
    have hscript := Script.ofDump_of_live_eq (Dialects.readsLive_of_find? hfactory) mode
      (Dump.live_generic hunmarked source.tablePrefix tablePrefix)
      (hunmarked.staysApart_generic source.tablePrefix) (hunmarked.staysApart tablePrefix)
    refine ⟨live, rfl, ?_⟩
    rw [Script.ofDocument, Dialects.create, hfactory, hread, ← hscript]
    rfl

def siteMemory : Memory :=
  ⟨"app_",
    [⟨"app_users", [⟨"id", "int(11)", false, "PRI", none, "auto_increment", ""⟩],
        [.ascending "app_users" "PRIMARY" 1 "id" false], [⟨[⟨"id", some "7"⟩]⟩]⟩,
      ⟨"log", [⟨"line", "text", true, "", none, "", ""⟩], [], [⟨[⟨"line", none⟩]⟩]⟩]⟩

def siteExporter : Exporter :=
  { tables := ["app_users", "log"], withData := true, databaseName := "site",
    source := some siteMemory.source }

def siteDump : Dump :=
  ⟨"site",
    [.ofStructure ⟨"app_users", [⟨"id", "int(11)", false, "PRI", none, "auto_increment", ""⟩],
        [.ascending "app_users" "PRIMARY" 1 "id" false]⟩,
      .ofData ⟨"app_users", [⟨[⟨"id", some "7"⟩]⟩]⟩,
      .ofStructure ⟨"log", [⟨"line", "text", true, "", none, "", ""⟩], []⟩,
      .ofData ⟨"log", [⟨[⟨"line", none⟩]⟩]⟩]⟩

theorem liveDump_siteExporter : siteExporter.liveDump siteMemory.source = .ok siteDump := by
  rfl

theorem document_siteExporter :
    siteExporter.document = .ok (Document.write (siteDump.generic "app_")) := by
  have hcheck : siteExporter.check = .ok siteMemory.source := rfl
  rw [document_eq_map_write, dump_eq_generic hcheck, liveDump_siteExporter]
  rfl

theorem ofDocument_siteExporter :
    siteExporter.document = .ok (Document.write (siteDump.generic "app_"))
      ∧ (Script.ofDump (Dialect.Postgresql.formatter ⟨"other_"⟩) .install siteDump).isOk = true
      ∧ Script.ofDocument Dialects.builtin "postgres" ⟨"app_"⟩ .install
          (Document.write (siteDump.generic "app_"))
        = (Script.ofDump (Dialect.Postgresql.formatter ⟨"other_"⟩) .install siteDump).mapError
            fun cause => .format (.unsupported cause) := by
  have hnames : ∀ table ∈ siteExporter.tables, ¬Table.IsMarked table := by decide
  have hpositions : ∀ table ∈ siteExporter.tables,
      ∀ keys, siteMemory.source.keys table = .ok keys → ∀ part ∈ keys, 1 ≤ part.position := by
    intro table htable keys hkeys
    rcases List.mem_cons.1 htable with rfl | htable
    · obtain rfl := Except.ok.inj hkeys
      decide
    · obtain rfl := List.mem_singleton.1 htable
      obtain rfl := Except.ok.inj hkeys
      decide
  have hformatter : Dialects.builtin.create "postgres" ⟨"other_"⟩
      = .ok (Dialect.Postgresql.formatter ⟨"other_"⟩) := by
    rfl
  obtain ⟨live, hlive, hscript⟩ := ofDocument_document rfl hnames (fun _ => hpositions)
    document_siteExporter hformatter .install
  rw [liveDump_siteExporter] at hlive
  obtain rfl := Except.ok.inj hlive
  exact ⟨document_siteExporter, by decide +kernel, hscript⟩

end Exporter
end SchemaDump
