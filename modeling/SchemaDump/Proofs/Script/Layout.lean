/-
  SchemaDump/Proofs/Script/Layout.lean
  ====================================
  **What a script is made of, and in which order.**

  A dump mixes structures and rows, but a script takes them apart: first one
  step for each structure, then for each data entry its rows and, if the dump
  tells the structure of the table, its counters.  The steps can be listed from
  the dump (`steps`), so the script fails as the first step that fails, and what
  it holds otherwise is the texts of the steps in that order.  Neither the list
  nor the texts depend on how the two kinds of entries are mixed.
-/
import SchemaDump.Proofs.Checked
import SchemaDump.Script

namespace SchemaDump.Script

open Checked (IsStoppedBy Succeeds bind_eq_ok_iff mapM_eq_ok_iff)

variable {formatter : Formatter} {mode : Mode} {dump : Dump} {script : Script}

/-! ### Steps -/

/-- One text that a script needs. -/
inductive Step where
  | prepare (table : TableStructure)
  | insert (data : TableData)
  | reset (table : TableStructure) (data : TableData)

def Step.text (formatter : Formatter) (mode : Mode) : Step → Except Sql.Unsupported String
  | .prepare table => Script.prepare formatter mode table
  | .insert data => formatter.insert data
  | .reset table data => formatter.reset table data

/-- Rows come before counters, and counters need the structure of the table. -/
def fillSteps (dump : Dump) (data : TableData) : List Step :=
  .insert data :: ((dump.structureOf? data.name).map fun table => .reset table data).toList

def steps (dump : Dump) : List Step :=
  dump.structures.map .prepare ++ dump.data.flatMap (fillSteps dump)

/-- The first of the steps that gives no text gives this reason. -/
def FirstFails (formatter : Formatter) (mode : Mode) (steps : List Step)
    (cause : Sql.Unsupported) : Prop :=
  ∃ before step after, steps = before ++ step :: after
    ∧ (∀ earlier ∈ before, Succeeds (earlier.text formatter mode))
    ∧ step.text formatter mode = .error cause

/-- Why a step gives no text. -/
def Step.failure? (formatter : Formatter) (mode : Mode) (step : Step) : Option Sql.Unsupported :=
  failureOf (step.text formatter mode)

theorem findSome?_failure?_iff {steps : List Step} {cause : Sql.Unsupported} :
    steps.findSome? (Step.failure? formatter mode) = some cause
      ↔ FirstFails formatter mode steps cause := by
  rw [List.findSome?_eq_some_iff]
  constructor
  · rintro ⟨before, step, after, hsteps, hstep, hbefore⟩
    refine ⟨before, step, after, hsteps, ?_, failureOf_eq_some_iff.1 hstep⟩
    intro earlier hearlier
    exact failureOf_eq_none_iff.1 (hbefore earlier hearlier)
  · rintro ⟨before, step, after, hsteps, hbefore, hstep⟩
    refine ⟨before, step, after, hsteps, failureOf_eq_some_iff.2 hstep, ?_⟩
    intro earlier hearlier
    exact failureOf_eq_none_iff.2 (hbefore earlier hearlier)

/-! ### Where a script stops -/

theorem isStoppedBy_text (step : Step) :
    IsStoppedBy (Step.failure? formatter mode) [step] (step.text formatter mode) :=
  Checked.isStoppedBy_singleton rfl

/-- Filling a table stops at its rows or at its counters. -/
theorem isStoppedBy_fill (data : TableData) :
    IsStoppedBy (Step.failure? formatter mode) (fillSteps dump data)
      (fill formatter dump data) := by
  unfold fillSteps fill
  apply (isStoppedBy_text (.insert data)).bind
  intro rows
  cases dump.structureOf? data.name with
  | none => exact Checked.isStoppedBy_pure _ (rows ++ "")
  | some table => exact (isStoppedBy_text (.reset table data)).map fun counters => rows ++ counters

/-- **A script stops at the first of its steps that fails.** -/
theorem isStoppedBy_ofDump :
    IsStoppedBy (Step.failure? formatter mode) (steps dump) (ofDump formatter mode dump) := by
  have hprepared : IsStoppedBy (Step.failure? formatter mode) (dump.structures.map .prepare)
      (dump.structures.mapM (prepare formatter mode)) := by
    rw [List.map_eq_flatMap]
    apply IsStoppedBy.mapM
    intro table _
    exact isStoppedBy_text (.prepare table)
  apply hprepared.bind
  intro prepared
  exact (IsStoppedBy.mapM fun data _ => isStoppedBy_fill data).map _

theorem mem_steps_iff {step : Step} :
    step ∈ steps dump ↔ (∃ table ∈ dump.structures, step = .prepare table)
      ∨ ∃ data ∈ dump.data, step = .insert data
        ∨ ∃ table, dump.structureOf? data.name = some table ∧ step = .reset table data := by
  have hcounters : ∀ data, (some step = (dump.structureOf? data.name).map (Step.reset · data))
      ↔ ∃ table, dump.structureOf? data.name = some table ∧ step = .reset table data := by
    intro data
    cases dump.structureOf? data.name <;> simp
  simp [steps, fillSteps, eq_comm (b := step)]

/-- **Scripts succeed exactly if all of their parts do.** -/
theorem succeeds_ofDump_iff :
    Succeeds (ofDump formatter mode dump)
      ↔ (∀ table ∈ dump.structures, Succeeds (prepare formatter mode table))
        ∧ (∀ data ∈ dump.data, Succeeds (formatter.insert data))
        ∧ ∀ data ∈ dump.data, ∀ table, dump.structureOf? data.name = some table →
          Succeeds (formatter.reset table data) := by
  rw [isStoppedBy_ofDump.succeeds_iff]
  simp only [Step.failure?, failureOf_eq_none_iff, mem_steps_iff]
  constructor
  · intro h
    refine ⟨?_, ?_, ?_⟩
    · intro table htable
      exact h (.prepare table) (.inl ⟨table, htable, rfl⟩)
    · intro data hdata
      exact h (.insert data) (.inr ⟨data, hdata, .inl rfl⟩)
    · intro data hdata table htable
      exact h (.reset table data) (.inr ⟨data, hdata, .inr ⟨table, htable, rfl⟩⟩)
  · rintro ⟨hprepare, hinsert, hreset⟩ step (⟨table, htable, rfl⟩ | ⟨data, hdata, rfl |
      ⟨table, htable, rfl⟩⟩)
    · exact hprepare table htable
    · exact hinsert data hdata
    · exact hreset data hdata table htable

/-! ### What a script holds -/

/-- The text for a data entry: its rows, directly followed by the counters of its table if the
    dump tells its structure. -/
inductive Fills (formatter : Formatter) (dump : Dump) (data : TableData) : String → Prop
  | rows {rows : String} (hstructure : dump.structureOf? data.name = none)
      (hrows : formatter.insert data = .ok rows) : Fills formatter dump data rows
  | counted {table : TableStructure} {rows counters : String}
      (hstructure : dump.structureOf? data.name = some table)
      (hrows : formatter.insert data = .ok rows)
      (hcounters : formatter.reset table data = .ok counters) :
      Fills formatter dump data (rows ++ counters)

theorem fill_eq_ok_iff {data : TableData} {text : String} :
    fill formatter dump data = .ok text ↔ Fills formatter dump data text := by
  constructor
  · intro h
    obtain ⟨rows, hrows, h⟩ := bind_eq_ok_iff.1 h
    cases hstructure : dump.structureOf? data.name with
    | none =>
      simp only [hstructure] at h
      obtain rfl := Except.ok.inj h
      rw [String.append_empty]
      exact .rows hstructure hrows
    | some table =>
      simp only [hstructure] at h
      obtain ⟨counters, hcounters, h⟩ := bind_eq_ok_iff.1 h
      obtain rfl := Except.ok.inj h
      exact .counted hstructure hrows hcounters
  · intro h
    cases h with
    | rows hstructure hrows =>
      apply bind_eq_ok_iff.2
      refine ⟨text, hrows, ?_⟩
      simp only [hstructure]
      exact congrArg Except.ok String.append_empty
    | @counted table rows counters hstructure hrows hcounters =>
      apply bind_eq_ok_iff.2
      refine ⟨rows, hrows, ?_⟩
      simp only [hstructure]
      exact bind_eq_ok_iff.2 ⟨counters, hcounters, rfl⟩

/-- A script with one text for each structure, those for the data entries after all of them, a line
    between the two if tables are emptied, and the numbers of what it holds. -/
structure IsLaidOut (formatter : Formatter) (mode : Mode) (dump : Dump)
    (prepared filled : List String) (script : Script) : Prop where
  prepares : List.Forall₂ (fun table text => prepare formatter mode table = .ok text)
    dump.structures prepared
  fills : List.Forall₂ (Fills formatter dump) dump.data filled
  sql : script.sql = String.join prepared ++ (if 0 < script.truncates then "\n" else "")
    ++ String.join filled
  creates : script.creates = if mode = .install then dump.structures.length else 0
  truncates : script.truncates = if mode = .sampleData then dump.structures.length else 0
  inserts : script.inserts = dump.data.length

theorem forall₂_fills_iff {filled : List String} :
    List.Forall₂ (Fills formatter dump) dump.data filled
      ↔ dump.data.mapM (fill formatter dump) = .ok filled := by
  simp only [mapM_eq_ok_iff, fill_eq_ok_iff]

/-- The empty line stands there exactly if a table was emptied. -/
theorem gap_eq (mode : Mode) (prepared : List String) :
    (if mode == .sampleData && !prepared.isEmpty then "\n" else "")
      = if 0 < (if mode = .sampleData then prepared.length else 0) then "\n" else "" := by
  cases mode with
  | install => rfl
  | sampleData => cases prepared <;> rfl

/-- **Scripts are laid out, and what is laid out is the script.** -/
theorem ofDump_eq_ok_iff :
    ofDump formatter mode dump = .ok script
      ↔ ∃ prepared filled, IsLaidOut formatter mode dump prepared filled script := by
  constructor
  · intro h
    obtain ⟨prepared, hprepared, h⟩ := bind_eq_ok_iff.1 h
    obtain ⟨filled, hfilled, h⟩ := bind_eq_ok_iff.1 h
    obtain rfl := Except.ok.inj h
    have hprepares := mapM_eq_ok_iff.1 hprepared
    have hfills := forall₂_fills_iff.2 hfilled
    have hsame : dump.structures.length = prepared.length := hprepares.length_eq
    refine ⟨prepared, filled, hprepares, hfills, ?_, ?_, ?_, ?_⟩
    · simp only [gap_eq, beq_iff_eq]
    · simp only [beq_iff_eq, hsame]
    · simp only [beq_iff_eq, hsame]
    · exact hfills.length_eq.symm
  · rintro ⟨prepared, filled, hscript⟩
    have hprepared := mapM_eq_ok_iff.2 hscript.prepares
    have hfilled := forall₂_fills_iff.1 hscript.fills
    refine bind_eq_ok_iff.2 ⟨prepared, hprepared, bind_eq_ok_iff.2 ⟨filled, hfilled, ?_⟩⟩
    have hsame : prepared.length = dump.structures.length := hscript.prepares.length_eq.symm
    have hsql := hscript.sql
    rw [hscript.truncates, ← hsame, ← gap_eq] at hsql
    have hcreates := hscript.creates
    have htruncates := hscript.truncates
    rw [← hsame] at hcreates htruncates
    apply congrArg Except.ok
    cases script
    rw [mk.injEq]
    simp only [beq_iff_eq] at hsql ⊢
    exact ⟨hsql.symm, hcreates.symm, htruncates.symm,
      hscript.fills.length_eq.symm.trans hscript.inserts.symm⟩

/-- In the texts of a script no rows stand before a created table. -/
theorem IsLaidOut.sql_install {prepared filled : List String}
    (h : IsLaidOut formatter .install dump prepared filled script) :
    script.sql = String.join prepared ++ String.join filled := by
  rw [h.sql, h.truncates]
  simp

/-! ### How entries are mixed -/

/-- **Only the order of the structures and that of the data entries count.** -/
theorem ofDump_congr {other : Dump} (hstructures : other.structures = dump.structures)
    (hdata : other.data = dump.data) :
    ofDump formatter mode other = ofDump formatter mode dump := by
  have hfill : fill formatter other = fill formatter dump := by
    funext data
    rw [fill, fill, Dump.structureOf?, Dump.structureOf?, hstructures]
  rw [ofDump, ofDump, hstructures, hdata, hfill]

/-- **Scripts are laid out by kind.**  A script succeeds exactly if each of its parts does, fails as
    the first part that fails, structures before data entries and rows before counters, and holds
    the texts of its parts in that order.  So it is the same for all ways to mix structures with
    data entries, and no row is put in before every table is created. -/
theorem ofDump_layout (formatter : Formatter) (mode : Mode) (dump : Dump) :
    (Succeeds (ofDump formatter mode dump)
        ↔ (∀ table ∈ dump.structures, Succeeds (prepare formatter mode table))
          ∧ (∀ data ∈ dump.data, Succeeds (formatter.insert data))
          ∧ ∀ data ∈ dump.data, ∀ table, dump.structureOf? data.name = some table →
            Succeeds (formatter.reset table data))
      ∧ (∀ cause, ofDump formatter mode dump = .error cause
        ↔ FirstFails formatter mode (steps dump) cause)
      ∧ (∀ script, ofDump formatter mode dump = .ok script
        ↔ ∃ prepared filled, IsLaidOut formatter mode dump prepared filled script)
      ∧ (∀ other : Dump, other.structures = dump.structures → other.data = dump.data →
        ofDump formatter mode other = ofDump formatter mode dump)
      ∧ ∀ script, ofDump formatter .install dump = .ok script →
        ∃ created filled, IsLaidOut formatter .install dump created filled script
          ∧ script.sql = String.join created ++ String.join filled := by
  refine ⟨succeeds_ofDump_iff, ?_, fun _ => ofDump_eq_ok_iff, fun _ => ofDump_congr, ?_⟩
  · intro cause
    rw [isStoppedBy_ofDump.eq_error_iff, findSome?_failure?_iff]
  · intro script h
    obtain ⟨created, filled, hscript⟩ := ofDump_eq_ok_iff.1 h
    exact ⟨created, filled, hscript, hscript.sql_install⟩

/-- Two tables with rows, entries of one kind after those of the other. -/
def sorted : Dump where
  entries :=
    [.ofStructure ⟨"#__users", [⟨"id", "int(11)", false, "PRI", none, "auto_increment", ""⟩], []⟩,
      .ofStructure ⟨"#__session", [⟨"time", "int(11)", true, "", none, "", ""⟩], []⟩,
      .ofData ⟨"#__users", [⟨[⟨"id", some "7"⟩]⟩]⟩,
      .ofData ⟨"#__session", []⟩]

/-- The same entries, mixed. -/
def mixed : Dump where
  entries :=
    [.ofData ⟨"#__users", [⟨[⟨"id", some "7"⟩]⟩]⟩,
      .ofStructure ⟨"#__users", [⟨"id", "int(11)", false, "PRI", none, "auto_increment", ""⟩], []⟩,
      .ofData ⟨"#__session", []⟩,
      .ofStructure ⟨"#__session", [⟨"time", "int(11)", true, "", none, "", ""⟩], []⟩]

theorem ofDump_layout_mixed :
    (mixed.structures = sorted.structures ∧ mixed.data = sorted.data
        ∧ ofDump (Dialect.Generic.formatter {}) .install mixed
          = ofDump (Dialect.Generic.formatter {}) .install sorted)
      ∧ ∃ script, ofDump (Dialect.Generic.formatter {}) .install sorted = .ok script
        ∧ ∃ created filled,
          IsLaidOut (Dialect.Generic.formatter {}) .install sorted created filled script
            ∧ script.sql = String.join created ++ String.join filled := by
  have hstructures : mixed.structures = sorted.structures := rfl
  have hdata : mixed.data = sorted.data := rfl
  have hok : (ofDump (Dialect.Generic.formatter {}) .install sorted).isOk = true := by
    decide +kernel
  obtain ⟨script, hscript⟩ := Checked.exists_of_isOk hok
  obtain ⟨-, -, -, hmixed, hlaidOut⟩ :=
    ofDump_layout (Dialect.Generic.formatter {}) .install sorted
  exact ⟨⟨hstructures, hdata, hmixed mixed hstructures hdata⟩, script, hscript,
    hlaidOut script hscript⟩

end SchemaDump.Script
