/-
  SchemaDump/Proofs/Script/Registered.lean
  ========================================
  **Scripts for every dialect of a registry.**

  The scripts for all dialects are made name by name from the list of names,
  while a formatter is had by a query: its blanks go, and an alias counts before
  a value.  So a listed name gives what its own factory makes if it means itself,
  and a registry can list names that do not: one that was registered with blanks
  around it, or one that was made an alias later.
-/
import SchemaDump.Proofs.Checked
import SchemaDump.Proofs.Registry
import SchemaDump.Script

namespace SchemaDump

open Registry (registered?)

namespace Dialects

/-- How the registry of the three dialects of the library comes about. -/
def builtinHistory : List (Registry.Change Formatter.Factory) :=
  [.addAlias "postgres" "postgresql", .addAlias "mysqli" "mysql", .addAlias "sql" "generic",
    .register "postgresql" Dialect.Postgresql.formatter,
    .register "mysql" Dialect.Mysql.formatter,
    .register "generic" Dialect.Generic.formatter]

theorem ofHistory_builtinHistory : Registry.ofHistory builtinHistory = builtin := rfl

/-- A query gives what was last registered under the name it means. -/
theorem create_ofHistory (history : List (Registry.Change Formatter.Factory)) (query : String)
    (options : FormatOptions) :
    create (Registry.ofHistory history) query options
      = (registered? ((Registry.ofHistory history).target query) history).elim
          (.error (.unknownFormat query)) fun factory => .ok (factory options) := by
  rw [create, Registry.find?_ofHistory]
  cases registered? ((Registry.ofHistory history).target query) history <;> rfl

/-- A query is refused exactly if the name it means is not listed. -/
theorem create_eq_unknownFormat_iff {dialects : Dialects} {query : String}
    {options : FormatOptions} :
    create dialects query options = .error (.unknownFormat query)
      ↔ dialects.target query ∉ dialects.names := by
  rw [Registry.mem_names_iff, create, Registry.find?]
  cases dialects.entries.lookup (dialects.target query) with
  | none => exact iff_of_true rfl (by simp)
  | some factory => exact iff_of_false (fun h => nomatch h) (by simp)

theorem create_of_listsItself {history : List (Registry.Change Formatter.Factory)}
    (h : (Registry.ofHistory history).ListsItself) {name : String}
    (hname : name ∈ (Registry.ofHistory history).names) (options : FormatOptions) :
    ∃ factory, registered? name history = some factory
      ∧ create (Registry.ofHistory history) name options = .ok (factory options) := by
  obtain ⟨factory, hfactory⟩ := Registry.exists_registered? hname
  refine ⟨factory, hfactory, ?_⟩
  rw [create_ofHistory, h name hname, hfactory, Option.elim_some]

end Dialects

namespace Script

/-- The script of one dialect with its name. -/
def named (formatter : Formatter) (mode : Mode) (dump : Dump) (name : String) :
    Except FormatError (String × Script) :=
  ((ofDump formatter mode dump).map fun script => (name, script)).mapError .unsupported

theorem named_ne_unknownFormat (formatter : Formatter) (mode : Mode) (dump : Dump)
    (name query : String) : named formatter mode dump name ≠ .error (.unknownFormat query) := by
  rw [named]
  cases ofDump formatter mode dump <;> exact fun h => nomatch h

/-- One dialect of all: the formatter is had by its name, and then the dump is converted. -/
theorem ofDumpForAll_eq_mapM (dialects : Dialects) (options : FormatOptions) (mode : Mode)
    (dump : Dump) :
    ofDumpForAll dialects options mode dump
      = dialects.names.mapM fun name =>
          (dialects.create name options).bind fun formatter => named formatter mode dump name := by
  rw [ofDumpForAll]
  refine Checked.mapM_congr fun name _ => ?_
  cases dialects.create name options with
  | error cause => rfl
  | ok formatter =>
    rw [Checked.bind_ok, named]
    dsimp only [bind, Except.bind]
    cases ofDump formatter mode dump <;> rfl

/-- **Every listed dialect gives its own script**, in the order of the names and up to the first
    dump that cannot be converted, if each listed name means itself. -/
theorem ofDumpForAll_of_listsItself {history : List (Registry.Change Formatter.Factory)}
    (h : (Registry.ofHistory history).ListsItself) (options : FormatOptions) (mode : Mode)
    (dump : Dump) :
    ∃ own : String → Formatter.Factory,
      (∀ name ∈ (Registry.ofHistory history).names,
        registered? name history = some (own name)
          ∧ Dialects.create (Registry.ofHistory history) name options = .ok (own name options))
      ∧ (ofDumpForAll (Registry.ofHistory history) options mode dump
        = (Registry.ofHistory history).names.mapM fun name =>
            named (own name options) mode dump name)
      ∧ ∀ query, ofDumpForAll (Registry.ofHistory history) options mode dump
        ≠ .error (.unknownFormat query) := by
  -- A name that is not listed has no factory; any one will do for it.
  have hown : ∀ name, ∃ factory, name ∈ (Registry.ofHistory history).names →
      registered? name history = some factory
        ∧ Dialects.create (Registry.ofHistory history) name options = .ok (factory options) := by
    intro name
    by_cases hname : name ∈ (Registry.ofHistory history).names
    · obtain ⟨factory, hfactory⟩ := Dialects.create_of_listsItself h hname options
      exact ⟨factory, fun _ => hfactory⟩
    · exact ⟨Dialect.Generic.formatter, fun hlisted => absurd hlisted hname⟩
  choose own hown using hown
  have hall : ofDumpForAll (Registry.ofHistory history) options mode dump
      = (Registry.ofHistory history).names.mapM fun name =>
          named (own name options) mode dump name := by
    rw [ofDumpForAll_eq_mapM]
    refine Checked.mapM_congr fun name hname => ?_
    rw [(hown name hname).2, Checked.bind_ok]
  refine ⟨own, hown, hall, fun query hfails => ?_⟩
  rw [hall] at hfails
  obtain ⟨name, -, hname⟩ := Checked.exists_of_mapM_eq_error hfails
  exact named_ne_unknownFormat _ _ _ _ _ hname

/-- The dialects of the library, after the alias `sql` became a dialect of its own. -/
def withOwnSql : List (Registry.Change Formatter.Factory) :=
  .register "SQL" Dialect.Mysql.formatter :: Dialects.builtinHistory

/-- A dump of one table with a counter, a primary key and a row. -/
def guests : Dump :=
  ⟨"site",
    [.ofStructure ⟨"#__guests",
      [⟨"id", "int(11)", false, "PRI", none, "auto_increment", ""⟩,
        ⟨"name", "varchar(40)", false, "", some "", "", ""⟩],
      [⟨"#__guests", false, "PRIMARY", 1, "id", "A", "", "BTREE", ""⟩]⟩,
    .ofData ⟨"#__guests", [⟨[⟨"id", some "1"⟩, ⟨"name", some "Ada"⟩]⟩]⟩]⟩

theorem ofDumpForAll_withOwnSql :
    (Registry.ofHistory withOwnSql).names = ["generic", "mysql", "postgresql", "sql"]
      ∧ (Registry.ofHistory withOwnSql).ListsItself
      ∧ (∃ own : String → Formatter.Factory,
        (∀ name ∈ (Registry.ofHistory withOwnSql).names,
          registered? name withOwnSql = some (own name)
            ∧ Dialects.create (Registry.ofHistory withOwnSql) name ⟨"p_"⟩
              = .ok (own name ⟨"p_"⟩))
        ∧ (ofDumpForAll (Registry.ofHistory withOwnSql) ⟨"p_"⟩ .install guests
          = (Registry.ofHistory withOwnSql).names.mapM fun name =>
              named (own name ⟨"p_"⟩) .install guests name)
        ∧ ∀ query, ofDumpForAll (Registry.ofHistory withOwnSql) ⟨"p_"⟩ .install guests
          ≠ .error (.unknownFormat query))
      ∧ (ofDumpForAll (Registry.ofHistory withOwnSql) ⟨"p_"⟩ .install guests).map
          (List.map fun (name, script) =>
            (name, script.sql.isEmpty, script.creates, script.inserts))
        = .ok [("generic", false, 1, 1), ("mysql", false, 1, 1), ("postgresql", false, 1, 1),
          ("sql", false, 1, 1)] := by
  have hitself : (Registry.ofHistory withOwnSql).ListsItself :=
    Registry.listsItself_of_forall (by decide)
  refine ⟨rfl, hitself, ofDumpForAll_of_listsItself hitself ⟨"p_"⟩ .install guests, ?_⟩
  decide +kernel

/-- A dialect that was registered with blanks around its name, which queries lose. -/
def paddedName : List (Registry.Change Formatter.Factory) :=
  [.register " sql " Dialect.Generic.formatter]

/-- The dialects of the library, after one of their names became an alias of a missing one. -/
def hiddenName : List (Registry.Change Formatter.Factory) :=
  .addAlias "mysql" "mariadb" :: Dialects.builtinHistory

/-- **Listed names that are not found**, and so no script for any dialect. -/
theorem ofDumpForAll_listed_unknown :
    (" sql " ∈ (Registry.ofHistory paddedName).names
        ∧ Dialects.create (Registry.ofHistory paddedName) " sql " ⟨"p_"⟩
          = .error (.unknownFormat " sql ")
        ∧ ofDumpForAll (Registry.ofHistory paddedName) ⟨"p_"⟩ .install ⟨"", []⟩
          = .error (.unknownFormat " sql "))
      ∧ "mysql" ∈ (Registry.ofHistory hiddenName).names
        ∧ Dialects.create (Registry.ofHistory hiddenName) "mysql" ⟨"p_"⟩
          = .error (.unknownFormat "mysql")
        ∧ ofDumpForAll (Registry.ofHistory hiddenName) ⟨"p_"⟩ .install ⟨"", []⟩
          = .error (.unknownFormat "mysql") := by
  refine ⟨⟨by decide, ?_, rfl⟩, by decide, ?_, rfl⟩
  · exact Dialects.create_eq_unknownFormat_iff.2 (by decide)
  · exact Dialects.create_eq_unknownFormat_iff.2 (by decide)

end Script
end SchemaDump
