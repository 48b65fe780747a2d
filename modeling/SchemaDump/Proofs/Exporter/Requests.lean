/-
  SchemaDump/Proofs/Exporter/Requests.lean
  ========================================
  **What an export asks and what it tells.**

  An export asks its source, table after table in the order of the selection, for
  the columns and the keys of a table if structures are wanted and for its rows
  if data are.  The first request that the source refuses ends the export with
  the source's reason.  If none is refused the dump tells all answers as they
  were given, under the generic names of the tables.
-/
import SchemaDump.Exporter
import SchemaDump.Proofs.Checked

namespace SchemaDump

open Checked (Succeeds bind_eq_ok_iff map_eq_ok_iff mapError_eq_ok_iff)

/-! ### Requests -/

/-- What an export asks its source about a table. -/
inductive Request where
  | columns (table : String)
  | keys (table : String)
  | rows (table : String)
deriving DecidableEq, Repr

/-- Why a source refuses a request, if it does.  Rows are refused if their run breaks off anywhere
    before its end. -/
def Source.refusal? (source : Source) : Request → Option SourceError
  | .columns table => failureOf (source.columns table)
  | .keys table => failureOf (source.keys table)
  | .rows table => (source.rows table).failure

namespace Exporter

/-- The requests about one table, in the order in which they are put. -/
def tableRequests (exporter : Exporter) (table : String) : List Request :=
  (if exporter.withStructure then [.columns table, .keys table] else [])
    ++ (if exporter.withData then [.rows table] else [])

/-- All requests of an export, in the order in which they are put. -/
def requests (exporter : Exporter) : List Request :=
  exporter.tables.flatMap exporter.tableRequests

/-- About a table that is selected twice every request is put twice. -/
example : ({ tables := ["a", "a"], withStructure := false, withData := true } : Exporter).requests
    = [.rows "a", .rows "a"] := rfl

/-! ### Answers told in a dump -/

variable (exporter : Exporter) (source : Source) (table : String)

/-- The structure of a table as an export tells it: the columns as they are, and the keys but for
    the table they name. -/
inductive TellsStructure : List Entry → Prop
  | unwanted (hswitch : exporter.withStructure = false) : TellsStructure []
  | told {columns : List Column} {keys : List KeyPart} (hswitch : exporter.withStructure = true)
      (hcolumns : source.columns table = .ok columns) (hkeys : source.keys table = .ok keys) :
      TellsStructure
        [.ofStructure
          { name := Table.genericName table source.tablePrefix
            columns := columns
            keys := keys.map fun part =>
              { part with table := Table.genericName table source.tablePrefix } }]

/-- The data of a table as an export tells them: all rows, in the order in which they arrive. -/
inductive TellsData : List Entry → Prop
  | unwanted (hswitch : exporter.withData = false) : TellsData []
  | told {rows : List Row} (hswitch : exporter.withData = true)
      (hrows : source.rows table = Run.ofList rows) :
      TellsData [.ofData ⟨Table.genericName table source.tablePrefix, rows⟩]

/-- The entries of one table: its structure, then its data. -/
def Tells (entries : List Entry) : Prop :=
  ∃ structures data, exporter.TellsStructure source table structures
    ∧ exporter.TellsData source table data ∧ entries = structures ++ data

/-- **The dump of an export**: the name of the database and, for each selected table in order, the
    entries that the source tells of it. -/
structure IsExport (held : Dump) : Prop where
  database : held.database = exporter.databaseName
  entries : ∃ blocks, List.Forall₂ (exporter.Tells source) exporter.tables blocks
    ∧ held.entries = blocks.flatten

/-- **Why an export gives no dump**: there is no source; or there is one, but no table is selected;
    or there are both, and the source refuses a request, of several the first. -/
inductive FailsWith : ExportError → Prop
  | unbound (hsource : exporter.source = none) : FailsWith .missingSource
  | unselected {source : Source} (hsource : exporter.source = some source)
      (htables : exporter.tables = []) : FailsWith .noTables
  | refused {source : Source} {reason : SourceError} (hsource : exporter.source = some source)
      (htables : exporter.tables ≠ [])
      (hrefusal : exporter.requests.findSome? source.refusal? = some reason) :
      FailsWith (.source reason)

/-! ### Where an export stops -/

variable {exporter source table} {α β : Type}

/-- Whether a step fails exactly if the source refuses one of the requests that are put for it,
    with the reason of the first refusal. -/
def IsStoppedBy (source : Source) (requests : List Request) (step : Except ExportError α) : Prop :=
  failureOf step = (requests.findSome? source.refusal?).map ExportError.source

theorem isStoppedBy_iff {requests : List Request} {step : Except ExportError α} :
    IsStoppedBy source requests step
      ↔ Checked.IsStoppedBy (fun request => (source.refusal? request).map ExportError.source)
        requests step := by
  rw [IsStoppedBy, Checked.IsStoppedBy, List.map_findSome?]
  rfl

theorem isStoppedBy_pure (source : Source) (a : α) :
    IsStoppedBy source [] (pure a : Except ExportError α) := rfl

theorem isStoppedBy_answer {request : Request} {answer : Except SourceError α}
    (h : source.refusal? request = failureOf answer) :
    IsStoppedBy source [request] (answer.mapError .source) := by
  apply isStoppedBy_iff.2
  apply Checked.isStoppedBy_singleton
  rw [h]
  cases answer <;> rfl

/-- The requests of one step come before those of the next. -/
theorem IsStoppedBy.bind {step : Except ExportError α} {next : α → Except ExportError β}
    {first second : List Request} (hstep : IsStoppedBy source first step)
    (hnext : ∀ a, IsStoppedBy source second (next a)) :
    IsStoppedBy source (first ++ second) (step >>= next) := by
  simp only [isStoppedBy_iff] at hstep hnext ⊢
  exact hstep.bind hnext

theorem IsStoppedBy.map {requests : List Request} {step : Except ExportError α}
    (h : IsStoppedBy source requests step) (f : α → β) :
    IsStoppedBy source requests (step.map f) := by
  simp only [isStoppedBy_iff] at h ⊢
  exact h.map f

/-- For a step that is not wanted no request is put. -/
theorem IsStoppedBy.ifWanted {requests : List Request} {step : Except ExportError α}
    (h : IsStoppedBy source requests step) (wanted : Bool) (otherwise : α) :
    IsStoppedBy source (if wanted then requests else [])
      (if wanted then step else pure otherwise) := by
  cases wanted with
  | true => exact h
  | false => exact isStoppedBy_pure source otherwise

theorem IsStoppedBy.mapM {items : List α} {step : α → Except ExportError β}
    {requests : α → List Request} (h : ∀ item, IsStoppedBy source (requests item) (step item)) :
    IsStoppedBy source (items.flatMap requests) (items.mapM step) := by
  simp only [isStoppedBy_iff] at h ⊢
  exact Checked.IsStoppedBy.mapM fun item _ => h item

/-- The structure of a table, if it is wanted. -/
def structureEntries (exporter : Exporter) (source : Source) (table : String) :
    Except ExportError (List Entry) :=
  if exporter.withStructure then (readStructure source table).map fun held => [.ofStructure held]
  else pure []

/-- The data of a table, if they are wanted. -/
def dataEntries (exporter : Exporter) (source : Source) (table : String) :
    Except ExportError (List Entry) :=
  if exporter.withData then
    ((source.rows table).all.mapError .source).map fun rows =>
      [.ofData ⟨Table.genericName table source.tablePrefix, rows⟩]
  else pure []

theorem readEntries_eq_bind (exporter : Exporter) (source : Source) (table : String) :
    exporter.readEntries source table
      = (exporter.structureEntries source table).bind fun structures =>
          (exporter.dataEntries source table).map fun data => structures ++ data := by
  rw [readEntries, structureEntries, dataEntries]
  -- the switches decide which answers are wanted; each is then a value or a failure
  cases exporter.withStructure <;> cases exporter.withData <;>
    cases readStructure source table <;> cases (source.rows table).all <;> rfl

theorem isStoppedBy_readStructure (source : Source) (table : String) :
    IsStoppedBy source [.columns table, .keys table] (readStructure source table) := by
  have hcolumns : IsStoppedBy source [.columns table] ((source.columns table).mapError .source) :=
    isStoppedBy_answer rfl
  have hkeys : IsStoppedBy source [.keys table] ((source.keys table).mapError .source) :=
    isStoppedBy_answer rfl
  exact hcolumns.bind fun columns => hkeys.map fun keys => _

theorem isStoppedBy_rows (source : Source) (table : String) :
    IsStoppedBy source [.rows table] ((source.rows table).all.mapError .source) := by
  refine isStoppedBy_answer ?_
  rw [Source.refusal?, Run.all]
  cases (source.rows table).failure <;> rfl

/-- **A table is told up to the first request about it that the source refuses.** -/
theorem isStoppedBy_readEntries (exporter : Exporter) (source : Source) (table : String) :
    IsStoppedBy source (exporter.tableRequests table) (exporter.readEntries source table) := by
  have hstructure := ((isStoppedBy_readStructure source table).map fun held =>
    [Entry.ofStructure held]).ifWanted exporter.withStructure []
  have hdata := ((isStoppedBy_rows source table).map fun rows =>
    [Entry.ofData ⟨Table.genericName table source.tablePrefix, rows⟩]).ifWanted exporter.withData []
  rw [readEntries_eq_bind]
  exact hstructure.bind fun structures => hdata.map fun data => structures ++ data

/-! ### What an export gives -/

theorem readStructure_eq_ok_iff {held : TableStructure} :
    readStructure source table = .ok held
      ↔ ∃ columns keys, source.columns table = .ok columns ∧ source.keys table = .ok keys
        ∧ held = { name := Table.genericName table source.tablePrefix
                   columns := columns
                   keys := keys.map fun part =>
                     { part with table := Table.genericName table source.tablePrefix } } := by
  constructor
  · intro h
    obtain ⟨columns, hcolumns, h⟩ := bind_eq_ok_iff.1 h
    obtain ⟨keys, hkeys, h⟩ := bind_eq_ok_iff.1 h
    exact ⟨columns, keys, mapError_eq_ok_iff.1 hcolumns, mapError_eq_ok_iff.1 hkeys,
      (Except.ok.inj h).symm⟩
  · rintro ⟨columns, keys, hcolumns, hkeys, rfl⟩
    exact bind_eq_ok_iff.2 ⟨columns, mapError_eq_ok_iff.2 hcolumns,
      bind_eq_ok_iff.2 ⟨keys, mapError_eq_ok_iff.2 hkeys, rfl⟩⟩

theorem all_eq_ok_iff {ε : Type} {run : Run ε α} {items : List α} :
    run.all = .ok items ↔ run = Run.ofList items := by
  rcases run with ⟨held, failure⟩
  cases failure <;> simp [Run.all, Run.ofList]

/-- An entry that is asked for only if it is wanted. -/
theorem wanted_eq_ok_iff {wanted : Bool} {step : Except ExportError α} {entry : α → Entry}
    {entries : List Entry} :
    (if wanted then step.map fun a => [entry a] else pure []) = .ok entries
      ↔ (wanted = false ∧ entries = [])
        ∨ (wanted = true ∧ ∃ a, step = .ok a ∧ entries = [entry a]) := by
  cases wanted with
  | false => simp [pure, Except.pure, eq_comm]
  | true =>
    simp only [if_true, map_eq_ok_iff, reduceCtorEq, false_and, false_or, true_and]
    simp only [eq_comm]

theorem structureEntries_eq_ok_iff {entries : List Entry} :
    exporter.structureEntries source table = .ok entries
      ↔ exporter.TellsStructure source table entries := by
  rw [structureEntries, wanted_eq_ok_iff]
  constructor
  · rintro (⟨hswitch, rfl⟩ | ⟨hswitch, held, hheld, rfl⟩)
    · exact .unwanted hswitch
    · obtain ⟨columns, keys, hcolumns, hkeys, rfl⟩ := readStructure_eq_ok_iff.1 hheld
      exact .told hswitch hcolumns hkeys
  · rintro (hswitch | ⟨hswitch, hcolumns, hkeys⟩)
    · exact .inl ⟨hswitch, rfl⟩
    · exact .inr ⟨hswitch, _, readStructure_eq_ok_iff.2 ⟨_, _, hcolumns, hkeys, rfl⟩, rfl⟩

theorem dataEntries_eq_ok_iff {entries : List Entry} :
    exporter.dataEntries source table = .ok entries
      ↔ exporter.TellsData source table entries := by
  rw [dataEntries, wanted_eq_ok_iff]
  constructor
  · rintro (⟨hswitch, rfl⟩ | ⟨hswitch, rows, hrows, rfl⟩)
    · exact .unwanted hswitch
    · exact .told hswitch (all_eq_ok_iff.1 (mapError_eq_ok_iff.1 hrows))
  · rintro (hswitch | ⟨hswitch, hrows⟩)
    · exact .inl ⟨hswitch, rfl⟩
    · exact .inr ⟨hswitch, _, mapError_eq_ok_iff.2 (all_eq_ok_iff.2 hrows), rfl⟩

theorem readEntries_eq_ok_iff {entries : List Entry} :
    exporter.readEntries source table = .ok entries ↔ exporter.Tells source table entries := by
  rw [readEntries_eq_bind]
  constructor
  · intro h
    obtain ⟨structures, hstructures, h⟩ := bind_eq_ok_iff.1 h
    obtain ⟨data, hdata, rfl⟩ := map_eq_ok_iff.1 h
    exact ⟨structures, data, structureEntries_eq_ok_iff.1 hstructures,
      dataEntries_eq_ok_iff.1 hdata, rfl⟩
  · rintro ⟨structures, data, hstructures, hdata, rfl⟩
    exact bind_eq_ok_iff.2 ⟨structures, structureEntries_eq_ok_iff.2 hstructures,
      map_eq_ok_iff.2 ⟨data, dataEntries_eq_ok_iff.2 hdata, rfl⟩⟩

/-! ### Exports -/

theorem check_of_source (hsource : exporter.source = some source) (htables : exporter.tables ≠ []) :
    exporter.check = .ok source := by
  rw [check, hsource, List.isEmpty_eq_false_iff.2 htables]
  rfl

theorem dump_of_unbound (hsource : exporter.source = none) :
    exporter.dump = .error .missingSource := by
  rw [dump, check, hsource]
  rfl

theorem dump_of_unselected (hsource : exporter.source = some source)
    (htables : exporter.tables = []) : exporter.dump = .error .noTables := by
  rw [dump, check, hsource, htables]
  rfl

/-- **An export is told up to the first request that the source refuses.** -/
theorem isStoppedBy_dump (hsource : exporter.source = some source)
    (htables : exporter.tables ≠ []) : IsStoppedBy source exporter.requests exporter.dump := by
  rw [dump_of_check (check_of_source hsource htables)]
  have hblocks : IsStoppedBy source exporter.requests
      (exporter.tables.mapM (exporter.readEntries source)) :=
    IsStoppedBy.mapM (isStoppedBy_readEntries exporter source)
  exact hblocks.map _

theorem dump_eq_ok_iff_isExport (hsource : exporter.source = some source)
    (htables : exporter.tables ≠ []) {held : Dump} :
    exporter.dump = .ok held ↔ exporter.IsExport source held := by
  have hread : ∀ blocks, exporter.tables.mapM (exporter.readEntries source) = .ok blocks
      ↔ List.Forall₂ (exporter.Tells source) exporter.tables blocks := by
    intro blocks
    rw [Checked.mapM_eq_ok_iff]
    simp only [readEntries_eq_ok_iff]
  rw [dump_of_check (check_of_source hsource htables), map_eq_ok_iff]
  constructor
  · rintro ⟨blocks, hblocks, rfl⟩
    exact ⟨rfl, blocks, (hread blocks).1 hblocks, rfl⟩
  · rintro ⟨hname, blocks, hblocks, hentries⟩
    refine ⟨blocks, (hread blocks).2 hblocks, ?_⟩
    rw [← hname, ← hentries]

theorem dump_eq_ok_iff (exporter : Exporter) (held : Dump) :
    exporter.dump = .ok held
      ↔ ∃ source, exporter.source = some source ∧ exporter.tables ≠ []
        ∧ exporter.IsExport source held := by
  constructor
  · intro h
    cases hsource : exporter.source with
    | none =>
      rw [dump_of_unbound hsource] at h
      cases h
    | some source =>
      by_cases htables : exporter.tables = []
      · rw [dump_of_unselected hsource htables] at h
        cases h
      · exact ⟨source, rfl, htables, (dump_eq_ok_iff_isExport hsource htables).1 h⟩
  · rintro ⟨source, hsource, htables, hexport⟩
    exact (dump_eq_ok_iff_isExport hsource htables).2 hexport

theorem dump_eq_error_iff (exporter : Exporter) (cause : ExportError) :
    exporter.dump = .error cause ↔ exporter.FailsWith cause := by
  constructor
  · intro h
    cases hsource : exporter.source with
    | none =>
      rw [dump_of_unbound hsource] at h
      obtain rfl := Except.error.inj h
      exact .unbound hsource
    | some source =>
      by_cases htables : exporter.tables = []
      · rw [dump_of_unselected hsource htables] at h
        obtain rfl := Except.error.inj h
        exact .unselected hsource htables
      · have hstopped := isStoppedBy_dump hsource htables
        rw [IsStoppedBy, failureOf_eq_some_iff.2 h] at hstopped
        obtain ⟨reason, hrefusal, rfl⟩ := Option.map_eq_some_iff.1 hstopped.symm
        exact .refused hsource htables hrefusal
  · intro h
    cases h with
    | unbound hsource => exact dump_of_unbound hsource
    | unselected hsource htables => exact dump_of_unselected hsource htables
    | refused hsource htables hrefusal =>
      have hstopped := isStoppedBy_dump hsource htables
      rw [IsStoppedBy, hrefusal] at hstopped
      exact failureOf_eq_some_iff.1 hstopped

theorem succeeds_dump_iff (exporter : Exporter) :
    Succeeds exporter.dump
      ↔ ∃ source, exporter.source = some source ∧ exporter.tables ≠ []
        ∧ ∀ request ∈ exporter.requests, source.refusal? request = none := by
  constructor
  · rintro ⟨held, h⟩
    obtain ⟨source, hsource, htables, -⟩ := (dump_eq_ok_iff exporter held).1 h
    have hstopped := isStoppedBy_dump hsource htables
    rw [IsStoppedBy, failureOf_eq_none_iff.2 ⟨held, h⟩] at hstopped
    have hnone := Option.map_eq_none_iff.1 hstopped.symm
    exact ⟨source, hsource, htables, List.findSome?_eq_none_iff.1 hnone⟩
  · rintro ⟨source, hsource, htables, hnone⟩
    have hstopped := isStoppedBy_dump hsource htables
    rw [IsStoppedBy, List.findSome?_eq_none_iff.2 hnone] at hstopped
    exact failureOf_eq_none_iff.1 hstopped

/-- **An export loses nothing and adds nothing.**  It succeeds exactly if there is a source, tables
    are selected and the source refuses no request; its dump then tells every answer in the order
    of the selection; and it fails for the first thing that is missing or refused. -/
theorem dump_lossless (exporter : Exporter) :
    (Succeeds exporter.dump
        ↔ ∃ source, exporter.source = some source ∧ exporter.tables ≠ []
          ∧ ∀ request ∈ exporter.requests, source.refusal? request = none)
      ∧ (∀ held, exporter.dump = .ok held
        ↔ ∃ source, exporter.source = some source ∧ exporter.tables ≠ []
          ∧ exporter.IsExport source held)
      ∧ ∀ cause, exporter.dump = .error cause ↔ exporter.FailsWith cause :=
  ⟨succeeds_dump_iff exporter, dump_eq_ok_iff exporter, dump_eq_error_iff exporter⟩

end Exporter
end SchemaDump
