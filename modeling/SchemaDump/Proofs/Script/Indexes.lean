/-
  SchemaDump/Proofs/Script/Indexes.lean
  =====================================
  **Whether the indexes of a script have names of their own.**

  PostgreSQL keeps the indexes of all tables in one space of names, so an index
  is named after its table and its key, with an underscore between them.  Both
  names may hold underscores themselves, and then two tables can come to the same
  name: `a` with the key `b_c`, and `a_b` with the key `c`.

  The names that a script gives are those of its tables and keys, in order
  (`indexNames_ofDump`).  Within a table they differ, since its keys do.  For
  tables with different names it is shown when two of them meet: one table's name
  is the other's, an underscore and the start of one of the other's keys
  (`indexName_eq_iff`).
-/
import SchemaDump.Proofs.Dialect.Insertion
import SchemaDump.Proofs.Script.Gathering
import SchemaDump.Proofs.Sql.Indexing
import SchemaDump.Proofs.Table.Key

namespace SchemaDump

open Checked (bind_eq_ok_iff check_eq_ok_iff exists_of_mem_mapM)
open Sql (Statement)

/-- The keys that are indexes of their own in PostgreSQL: all but the primary one. -/
def TableStructure.secondaryKeys (table : TableStructure) : List KeyGroup :=
  table.keyGroups.filter fun key => key.kind != .primary

namespace Dialect

/-! ### Statements of PostgreSQL -/

namespace Postgresql

theorem indexNames_keyOutput {table : String} {key : KeyGroup} {output : Standard.KeyOutput}
    (h : keyOutput table key = .ok output) :
    output.statements.flatMap Statement.indexNames
      = if key.kind != .primary then [indexName table key] else [] := by
  cases keyOutput_eq_ok h with
  | primary hkind hcomment =>
    rw [hkind]
    exact Standard.flatMap_commentOn (fun _ _ => rfl) hcomment
  | @index unique hash comment hkind hcomment =>
    have hnone : comment.flatMap Statement.indexNames = [] :=
      Standard.flatMap_commentOn (fun _ _ => rfl) hcomment
    rw [if_pos (bne_iff_ne.2 hkind), List.flatMap_cons, hnone]
    rfl

/-- **Creating a table creates an index for each of its secondary keys**, and no other. -/
theorem indexNames_create {live : String} {table : TableStructure} {statements : List Statement}
    (h : Standard.create columnClause keyOutput live table = .ok statements) :
    statements.flatMap Statement.indexNames = table.secondaryKeys.map (indexName live) := by
  rw [Standard.flatMap_create (fun _ _ _ => rfl) (fun _ _ => rfl)
    (fun key output => indexNames_keyOutput) h, TableStructure.secondaryKeys]
  induction table.keyGroups with
  | nil => rfl
  | cons key keys ih =>
    rw [List.flatMap_cons, ih, List.filter_cons]
    cases key.kind != .primary <;> rfl

theorem indexNames_reset {live : String} {columns : List Column} {statements : List Statement}
    (h : reset live columns = .ok statements) : statements.flatMap Statement.indexNames = [] := by
  obtain ⟨written, hwritten, h⟩ := bind_eq_ok_iff.1 h
  obtain rfl := Except.ok.inj h
  rw [List.flatMap_eq_nil_iff]
  intro statement hmem
  obtain ⟨own, hown, hstatement⟩ := List.mem_flatten.1 hmem
  obtain ⟨column, -, hcolumn⟩ := exists_of_mem_mapM hwritten hown
  obtain ⟨extras, -, hcolumn⟩ := bind_eq_ok_iff.1 hcolumn
  cases hcounter : Extra.autoIncrements extras with
  | true =>
    rw [hcounter] at hcolumn
    obtain ⟨-, -, hcolumn⟩ := bind_eq_ok_iff.1 hcolumn
    obtain ⟨-, -, hcolumn⟩ := bind_eq_ok_iff.1 hcolumn
    obtain rfl := Except.ok.inj hcolumn
    rw [List.mem_singleton.1 hstatement]
    rfl
  | false =>
    rw [hcounter] at hcolumn
    obtain rfl := Except.ok.inj hcolumn
    cases hstatement

end Postgresql

/-! ### Names with an underscore between two parts -/

/-- Two texts are the same around a mark exactly if both parts are, or if the mark of one stands
    within a part of the other. -/
theorem append_mark_eq_iff {mark : Char} {a b c d : List Char} :
    a ++ mark :: b = c ++ mark :: d
      ↔ (a = c ∧ b = d)
        ∨ (∃ middle, c = a ++ mark :: middle ∧ b = middle ++ mark :: d)
        ∨ ∃ middle, a = c ++ mark :: middle ∧ d = middle ++ mark :: b := by
  rw [List.append_eq_append_iff]
  constructor
  · rintro (⟨middle, rfl, h⟩ | ⟨middle, rfl, h⟩)
    · cases middle with
      | nil => exact .inl ⟨(List.append_nil a).symm, (List.cons.inj h).2⟩
      | cons first middle =>
        obtain ⟨rfl, rfl⟩ := List.cons.inj h
        exact .inr (.inl ⟨middle, rfl, rfl⟩)
    · cases middle with
      | nil => exact .inl ⟨List.append_nil c, (List.cons.inj h).2.symm⟩
      | cons first middle =>
        obtain ⟨rfl, rfl⟩ := List.cons.inj h
        exact .inr (.inr ⟨middle, rfl, rfl⟩)
  · rintro (⟨rfl, rfl⟩ | ⟨middle, rfl, rfl⟩ | ⟨middle, rfl, rfl⟩)
    · exact .inl ⟨[], (List.append_nil a).symm, rfl⟩
    · exact .inl ⟨mark :: middle, rfl, rfl⟩
    · exact .inr ⟨mark :: middle, rfl, rfl⟩

theorem toList_indexName (table : String) (key : KeyGroup) :
    (indexName table key).toList = table.toList ++ '_' :: key.name.toList := by
  rw [indexName, String.toList_append, String.toList_append, List.append_assoc]
  rfl

/-- A table's name goes on with an underscore and the start of a key of another table, whose rest
    is a key of its own: the two indexes are named alike. -/
def Overlaps (table : String) (key : KeyGroup) (other : String) (otherKey : KeyGroup) : Prop :=
  ∃ middle : List Char, other.toList = table.toList ++ '_' :: middle
    ∧ key.name.toList = middle ++ '_' :: otherKey.name.toList

/-- **When indexes of two tables have one name.** -/
theorem indexName_eq_iff {table other : String} (hne : table ≠ other) {key otherKey : KeyGroup} :
    indexName table key = indexName other otherKey
      ↔ Overlaps table key other otherKey ∨ Overlaps other otherKey table key := by
  rw [← String.toList_inj, toList_indexName, toList_indexName, append_mark_eq_iff]
  constructor
  · rintro (⟨hname, -⟩ | hoverlap | hoverlap)
    · exact absurd (String.toList_inj.1 hname) hne
    · exact .inl hoverlap
    · exact .inr hoverlap
  · rintro (hoverlap | hoverlap)
    · exact .inr (.inl hoverlap)
    · exact .inr (.inr hoverlap)

theorem not_overlaps_self (table : String) (key otherKey : KeyGroup) :
    ¬Overlaps table key table otherKey := by
  rintro ⟨middle, hname, -⟩
  have hlength := congrArg List.length hname
  rw [List.length_append, List.length_cons] at hlength
  omega

theorem indexName_injective (live : String) {key otherKey : KeyGroup}
    (h : indexName live key = indexName live otherKey) : key.name = otherKey.name := by
  rw [← String.toList_inj, toList_indexName, toList_indexName, List.append_cancel_left_eq] at h
  exact String.toList_inj.1 (List.cons.inj h).2

/-- The indexes of one table have names of their own. -/
theorem nodup_map_indexName (live : String) (table : TableStructure) :
    (table.secondaryKeys.map (indexName live)).Nodup := by
  have hkeys : (table.keyGroups.map KeyGroup.name).Nodup :=
    KeyGroup.nodup_map_name_collect table.keys
  have hsecondary : (table.secondaryKeys.map KeyGroup.name).Nodup :=
    hkeys.sublist (List.filter_sublist.map _)
  rw [List.Nodup, List.pairwise_map] at hsecondary ⊢
  exact hsecondary.imp fun hne h => hne (indexName_injective live h)

end Dialect

open Dialect

/-! ### Whole scripts -/

/-- The names of the indexes of a table, under a prefix. -/
def TableStructure.indexNames (tablePrefix : String) (table : TableStructure) : List String :=
  table.secondaryKeys.map (indexName (Table.liveName table.name tablePrefix))

/-- Some index of a table overlaps one of another table, under a prefix. -/
def TableStructure.Overlaps (tablePrefix : String) (table other : TableStructure) : Prop :=
  ∃ key ∈ table.secondaryKeys, ∃ otherKey ∈ other.secondaryKeys,
    Dialect.Overlaps (Table.liveName table.name tablePrefix) key
      (Table.liveName other.name tablePrefix) otherKey

theorem TableStructure.not_overlaps_self (tablePrefix : String) (table : TableStructure) :
    ¬table.Overlaps tablePrefix table := by
  rintro ⟨key, -, otherKey, -, hoverlap⟩
  exact Dialect.not_overlaps_self _ key otherKey hoverlap

/-- The indexes of two tables have different names exactly if none overlaps, either way. -/
theorem TableStructure.disjoint_indexNames_iff {tablePrefix : String} {table other : TableStructure}
    (hne : Table.liveName table.name tablePrefix ≠ Table.liveName other.name tablePrefix) :
    List.Disjoint (table.indexNames tablePrefix) (other.indexNames tablePrefix)
      ↔ ¬table.Overlaps tablePrefix other ∧ ¬other.Overlaps tablePrefix table := by
  constructor
  · intro hdisjoint
    constructor
    · rintro ⟨key, hkey, otherKey, hotherKey, hoverlap⟩
      refine hdisjoint (List.mem_map_of_mem hkey) ?_
      rw [(indexName_eq_iff hne).2 (.inl hoverlap)]
      exact List.mem_map_of_mem hotherKey
    · rintro ⟨otherKey, hotherKey, key, hkey, hoverlap⟩
      refine hdisjoint (List.mem_map_of_mem hkey) ?_
      rw [(indexName_eq_iff hne).2 (.inr hoverlap)]
      exact List.mem_map_of_mem hotherKey
  · rintro ⟨hforth, hback⟩ name hname hother
    obtain ⟨key, hkey, rfl⟩ := List.mem_map.1 hname
    obtain ⟨otherKey, hotherKey, hsame⟩ := List.mem_map.1 hother
    rcases (indexName_eq_iff hne).1 hsame.symm with hoverlap | hoverlap
    · exact hforth ⟨key, hkey, otherKey, hotherKey, hoverlap⟩
    · exact hback ⟨otherKey, hotherKey, key, hkey, hoverlap⟩

namespace Script

variable {options : FormatOptions} {dump : Dump} {script : Script}

theorem tells_indexNames (options : FormatOptions) :
    Tells (Postgresql.formatter options) .standard Postgresql.reading.indexName? .install
      (fun table => table.indexNames options.tablePrefix) (fun _ => []) fun _ _ => [] := by
  have hsees : Sql.SeesTokens Postgresql.reading.indexName? := Sql.seesTokens_indexName?
  have hsaid : ∀ statement : Statement, statement.IsQuoted →
      Sql.gathered .standard Postgresql.reading.indexName? (statement.render Postgresql.spelling)
        = statement.indexNames :=
    fun statement => Sql.indexNames_render Postgresql.reading_knows
  constructor
  · exact hsees
  · intro table sql h
    exact gathered_written Postgresql.spelling_isInert hsees hsaid
      (fun statements => Postgresql.create_eq_ok)
      (fun statements => Postgresql.indexNames_create) h
  · intro data sql h
    exact gathered_written Postgresql.spelling_isInert hsees hsaid
      (fun statements => Standard.insert_eq_ok)
      (fun statements => Standard.flatMap_insert (fun _ _ => rfl) fun _ => rfl) h
  · intro table data sql h
    have hreset : (if data.rows.isEmpty then .ok "" else
        (Postgresql.reset (Table.liveName table.name options.tablePrefix) table.columns).bind
          fun statements => .ok (Sql.block Postgresql.spelling statements)) = Except.ok sql := h
    by_cases hempty : data.rows.isEmpty = true
    · rw [if_pos hempty] at hreset
      obtain rfl := Except.ok.inj hreset
      exact Sql.gathered_of_splitsInto_zero (.empty .standard)
    · rw [if_neg hempty] at hreset
      exact gathered_written Postgresql.spelling_isInert hsees hsaid
        (fun statements => Postgresql.reset_eq_ok)
        (fun statements => Postgresql.indexNames_reset) hreset

/-- **A script creates the indexes of its tables**, in their order, and no other. -/
theorem indexNames_ofDump
    (h : ofDump (Postgresql.formatter options) .install dump = .ok script) :
    Postgresql.reading.indexNames script.sql
      = dump.structures.flatMap (TableStructure.indexNames options.tablePrefix) := by
  have hgathered :=
    gathered_ofDump (Postgresql.counts options .install) (tells_indexNames options) h
  have hfilled : dump.data.flatMap
      (filled dump (fun _ => ([] : List String)) fun _ _ => []) = [] := by
    rw [List.flatMap_eq_nil_iff]
    intro data _
    rw [filled, List.nil_append]
    cases dump.structureOf? data.name <;> rfl
  rw [hfilled, List.append_nil] at hgathered
  exact hgathered

/-- **When no two indexes of a script have one name.**  A script of tables with different live
    names creates the indexes of these tables.  Their names differ exactly if no table's name goes
    on as another table's with an underscore and the start of one of its keys, while the rest of
    that key is a key of the longer table. -/
theorem nodup_indexNames_iff
    (h : ofDump (Postgresql.formatter options) .install dump = .ok script)
    (hdistinct : (dump.structures.map fun table =>
      Table.liveName table.name options.tablePrefix).Nodup) :
    Postgresql.reading.indexNames script.sql
        = dump.structures.flatMap (TableStructure.indexNames options.tablePrefix)
      ∧ ((Postgresql.reading.indexNames script.sql).Nodup
        ↔ ∀ table ∈ dump.structures, ∀ other ∈ dump.structures,
          ¬table.Overlaps options.tablePrefix other) := by
  refine ⟨indexNames_ofDump h, ?_⟩
  have hnames := List.pairwise_map.1 hdistinct
  rw [indexNames_ofDump h, List.nodup_flatMap]
  constructor
  · rintro ⟨-, hdisjoint⟩ table htable other hother
    have happart : dump.structures.Pairwise fun table other =>
        ¬table.Overlaps options.tablePrefix other ∧ ¬other.Overlaps options.tablePrefix table :=
      (hnames.and hdisjoint).imp fun hboth =>
        (TableStructure.disjoint_indexNames_iff hboth.1).1 hboth.2
    exact (happart.forall_of_forall_of_flip
      (fun held _ => ⟨held.not_overlaps_self _, held.not_overlaps_self _⟩)
      (happart.imp And.symm) htable hother).1
  · intro hnone
    refine ⟨fun table _ => nodup_map_indexName _ table, ?_⟩
    refine hnames.imp_of_mem ?_
    intro table other htable hother hne
    exact (TableStructure.disjoint_indexNames_iff hne).2
      ⟨hnone table htable other hother, hnone other hother table htable⟩

/-- A table with one column and one index on it. -/
def indexed (name key : String) : TableStructure :=
  ⟨name, [⟨"x", "int(11)", true, "", none, "", ""⟩], [.ascending name key 1 "x" true]⟩

theorem nodup_indexNames_apart :
    ∃ script, ofDump (Postgresql.formatter ⟨"jos_"⟩) .install
        ⟨"", [.ofStructure (indexed "#__a" "b"), .ofStructure (indexed "#__b" "c")]⟩ = .ok script
      ∧ Postgresql.reading.indexNames script.sql
        = [indexed "#__a" "b", indexed "#__b" "c"].flatMap (TableStructure.indexNames "jos_")
      ∧ ((Postgresql.reading.indexNames script.sql).Nodup
        ↔ ∀ table ∈ [indexed "#__a" "b", indexed "#__b" "c"],
          ∀ other ∈ [indexed "#__a" "b", indexed "#__b" "c"], ¬table.Overlaps "jos_" other) := by
  have hok : (ofDump (Postgresql.formatter ⟨"jos_"⟩) .install
      ⟨"", [.ofStructure (indexed "#__a" "b"), .ofStructure (indexed "#__b" "c")]⟩).isOk
        = true := by
    decide +kernel
  obtain ⟨script, h⟩ := Checked.exists_of_isOk hok
  exact ⟨script, h, nodup_indexNames_iff h (by decide +kernel)⟩

/-- **Two tables whose indexes have one name**, although the tables do not. -/
theorem indexNames_colliding :
    ∃ script, ofDump (Postgresql.formatter ⟨"jos_"⟩) .install
        ⟨"", [.ofStructure (indexed "a" "b_c"), .ofStructure (indexed "a_b" "c")]⟩ = .ok script
      ∧ ([indexed "a" "b_c", indexed "a_b" "c"].map fun table =>
        Table.liveName table.name "jos_").Nodup
      ∧ Postgresql.reading.indexNames script.sql = ["a_b_c", "a_b_c"] := by
  have hok : (ofDump (Postgresql.formatter ⟨"jos_"⟩) .install
      ⟨"", [.ofStructure (indexed "a" "b_c"), .ofStructure (indexed "a_b" "c")]⟩).isOk
        = true := by
    decide +kernel
  obtain ⟨script, h⟩ := Checked.exists_of_isOk hok
  refine ⟨script, h, by decide +kernel, ?_⟩
  rw [indexNames_ofDump h]
  decide +kernel

end Script
end SchemaDump
