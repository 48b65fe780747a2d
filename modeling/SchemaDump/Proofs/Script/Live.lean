/-
  SchemaDump/Proofs/Script/Live.lean
  ==================================
  **Scripts depend on names with the prefix in them only.**

  Two dumps that are the same once each has its prefix in give the same script,
  or are refused for the same reason.  Names before that count in one place: the
  structure of a data entry's table is looked up by them, so both prefixes have
  to keep tables apart that are apart in their dump.
-/
import SchemaDump.Proofs.Checked
import SchemaDump.Proofs.Dialect.Live
import SchemaDump.Script

namespace SchemaDump.Script

variable {factory : Formatter.Factory} {p q : String} {dump other : Dump}

theorem prepare_of_live_eq (hfactory : factory.ReadsLive) (mode : Mode)
    {table held : TableStructure} (h : table.live p = held.live q) :
    prepare (factory ⟨p⟩) mode table = prepare (factory ⟨q⟩) mode held := by
  cases mode with
  | install => exact hfactory.create h
  | sampleData => exact hfactory.clear h

/-- The rows of a table and its counters, whose structure both dumps find or both lack. -/
theorem fill_of_live_eq (hfactory : factory.ReadsLive) (hlive : dump.live p = other.live q)
    (hdump : dump.StaysApart p) (hother : other.StaysApart q) {data held : TableData}
    (hdata : data ∈ dump.data) (hheld : held ∈ other.data) (h : data.live p = held.live q) :
    fill (factory ⟨p⟩) dump data = fill (factory ⟨q⟩) other held := by
  have hfound : (dump.structureOf? data.name).map (·.live p)
      = (other.structureOf? held.name).map (·.live q) := by
    rw [← Dump.structureOf?_live hdump hdata, ← Dump.structureOf?_live hother hheld, hlive, h]
  rw [fill, fill, hfactory.insert h]
  cases htable : dump.structureOf? data.name with
  | none =>
    rw [htable, Option.map_none] at hfound
    rw [Option.map_eq_none_iff.1 hfound.symm]
  | some table =>
    rw [htable, Option.map_some] at hfound
    obtain ⟨found, hsome, hsame⟩ := Option.map_eq_some_iff.1 hfound.symm
    rw [hsome]
    dsimp only
    rw [hfactory.reset hsame.symm h]

/-- **The script of a dump is that of its live form.** -/
theorem ofDump_of_live_eq (hfactory : factory.ReadsLive) (mode : Mode)
    (hlive : dump.live p = other.live q) (hdump : dump.StaysApart p)
    (hother : other.StaysApart q) :
    ofDump (factory ⟨p⟩) mode dump = ofDump (factory ⟨q⟩) mode other := by
  have htables : dump.structures.map (·.live p) = other.structures.map (·.live q) := by
    rw [← Dump.structures_live, hlive, Dump.structures_live]
  have hrows : dump.data.map (·.live p) = other.data.map (·.live q) := by
    rw [← Dump.data_live, hlive, Dump.data_live]
  rw [ofDump, ofDump,
    Checked.mapM_eq_mapM htables fun table _ held _ => prepare_of_live_eq hfactory mode,
    Checked.mapM_eq_mapM hrows fun data hdata held hheld =>
      fill_of_live_eq hfactory hlive hdump hother hdata hheld]

/-! ### Renamed tables -/

/-- **Putting in a prefix is renaming tables**, and nothing else: a dump whose entries already have
    their live names gives the same script under any prefix, or is refused for the same reason. -/
theorem ofDump_renamed {dialect : String} {factory : Formatter.Factory}
    (hfactory : Dialects.builtin.find? dialect = some factory) (mode : Mode) {dump : Dump}
    {p : String} (hunmarked : (dump.renamed p).IsUnmarked) (hapart : dump.StaysApart p)
    (q : String) :
    ofDump (factory ⟨p⟩) mode dump = ofDump (factory ⟨q⟩) mode (dump.renamed p) :=
  ofDump_of_live_eq (Dialects.readsLive_of_find? hfactory) mode
    (Dump.live_renamed hunmarked q).symm hapart (hunmarked.staysApart q)

/-- Two tables of which one has the placeholder, and a counter in both. -/
def shop : Dump :=
  ⟨"shop",
    [.ofStructure
      ⟨"#__item", [⟨"id", "int(11)", false, "PRI", none, "auto_increment", "number"⟩],
        [.ascending "#__item" "PRIMARY" 1 "id" false, .ascending "#__item" "k" 1 "id" true]⟩,
      .ofStructure ⟨"item", [⟨"id", "int(11)", false, "", none, "auto_increment", ""⟩], []⟩,
      .ofData ⟨"#__item", [⟨[⟨"id", some "7"⟩]⟩]⟩,
      .ofData ⟨"item", [⟨[⟨"id", some "9"⟩]⟩]⟩]⟩

theorem ofDump_shop :
    Dialects.builtin.find? "Postgres" = some Dialect.Postgresql.formatter
      ∧ (shop.renamed "x_").IsUnmarked ∧ shop.StaysApart "x_"
      ∧ (ofDump (Dialect.Postgresql.formatter ⟨"x_"⟩) .install shop).isOk = true
      ∧ ofDump (Dialect.Postgresql.formatter ⟨"x_"⟩) .install shop
        = ofDump (Dialect.Postgresql.formatter ⟨"y_"⟩) .install (shop.renamed "x_") := by
  have hfactory : Dialects.builtin.find? "Postgres" = some Dialect.Postgresql.formatter := rfl
  have hunmarked : (shop.renamed "x_").IsUnmarked := by
    unfold Dump.IsUnmarked
    decide
  have hapart : shop.StaysApart "x_" := by
    unfold Dump.StaysApart
    decide
  exact ⟨hfactory, hunmarked, hapart, by decide +kernel,
    ofDump_renamed hfactory .install hunmarked hapart "y_"⟩

end SchemaDump.Script
