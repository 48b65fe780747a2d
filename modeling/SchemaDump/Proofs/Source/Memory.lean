/-
  SchemaDump/Proofs/Source/Memory.lean
  ====================================
  **Tables held in memory are an ordered map.**

  A memory is made of an empty one by adding tables.  Whatever was added, and
  however often, two things are kept by one more addition: the names of the held
  tables are the added names in the order of their first appearance
  (`map_name_ofAdditions`), and the table found under a name is the one last
  added under it (`find?_ofAdditions`).  All answers follow from these two.
-/
import SchemaDump.Proofs.Table.Key
import SchemaDump.Source.Memory

namespace SchemaDump

/-! ### Answers about one table -/

/-- What a source answers about a name: all that a table says, or that there is no such table. -/
structure Source.Tells (source : Source) (name : String) (held : Option MemoryTable) : Prop where
  columns : source.columns name
    = held.elim (.error (.tableNotFound name)) fun table => .ok table.columns
  keys : source.keys name
    = held.elim (.error (.tableNotFound name)) fun table => .ok table.keys
  rows : source.rows name
    = held.elim (.broken (.tableNotFound name)) fun table => .ofList table.rows

/-- Two sources that answer alike about a name. -/
structure Source.AgreeOn (name : String) (source other : Source) : Prop where
  columns : source.columns name = other.columns name
  keys : source.keys name = other.keys name
  rows : source.rows name = other.rows name

/-- A source has no table of a name exactly if one of the questions says so. -/
theorem Source.Tells.notFound_iff {source : Source} {name : String} {held : Option MemoryTable}
    (h : source.Tells name held) :
    (source.columns name = .error (.tableNotFound name) ↔ held = none)
      ∧ (source.keys name = .error (.tableNotFound name) ↔ held = none)
      ∧ (source.rows name = .broken (.tableNotFound name) ↔ held = none) := by
  rw [h.columns, h.keys, h.rows]
  cases held with
  | none => simp
  | some table => simp [Run.ofList, Run.broken]

namespace Memory

variable {added : List MemoryTable}

/-! ### One more table -/

/-- A table of a known name leaves the names as they are; any other comes last. -/
theorem map_name_put (table : MemoryTable) (tables : List MemoryTable) :
    (put table tables).map MemoryTable.name
      = if table.name ∈ tables.map MemoryTable.name then tables.map MemoryTable.name
        else tables.map MemoryTable.name ++ [table.name] := by
  induction tables with
  | nil => simp [put]
  | cons held tables ih =>
    by_cases hname : held.name = table.name
    · simp [put, hname]
    · have hother : table.name ≠ held.name := Ne.symm hname
      simp only [put, beq_iff_eq, hname, if_false, List.map_cons, ih, List.mem_cons, hother,
        false_or]
      split <;> simp

/-- **The table that was put is found under its name**, and all others as before. -/
theorem find?_put (table : MemoryTable) (tables : List MemoryTable) (name : String) :
    (put table tables).find? (·.name == name)
      = if table.name = name then some table else tables.find? (·.name == name) := by
  induction tables with
  | nil =>
    by_cases hname : table.name = name <;> simp [put, hname]
  | cons held tables ih =>
    by_cases hheld : held.name = table.name
    · by_cases hname : table.name = name <;> simp [put, hheld, hname]
    · rw [put, if_neg (by simpa using hheld), List.find?_cons, ih, List.find?_cons]
      by_cases hname : held.name = name
      · -- the held table answers to the name, so the one that was put does not
        have hother : table.name ≠ name := by
          intro h
          exact hheld (hname.trans h.symm)
        simp [hname, hother]
      · simp [beq_eq_false_iff_ne.2 hname]

theorem table_withTable_of_ne {memory : Memory} {table : MemoryTable} {name : String}
    (h : name ≠ table.name) : (memory.withTable table).table name = memory.table name := by
  simp only [Memory.table, withTable, find?_put, if_neg h.symm]

/-- **Adding a table leaves the answers about all other names as they are.** -/
theorem agreeOn_withTable (memory : Memory) {table : MemoryTable} {name : String}
    (h : name ≠ table.name) :
    Source.AgreeOn name (memory.withTable table).source memory.source := by
  constructor <;> simp only [source, table_withTable_of_ne h]

/-! ### Any number of tables -/

/-- The memory after some tables were added to an empty one, the first of them first. -/
def ofAdditions (tablePrefix : String) (added : List MemoryTable) : Memory :=
  added.foldl withTable { tablePrefix := tablePrefix }

theorem ofAdditions_concat (tablePrefix : String) (added : List MemoryTable)
    (table : MemoryTable) :
    ofAdditions tablePrefix (added ++ [table])
      = (ofAdditions tablePrefix added).withTable table := by
  simp [ofAdditions]

/-- **The held names are those of the added tables**, each where it first appears. -/
theorem map_name_ofAdditions (tablePrefix : String) (added : List MemoryTable) :
    (ofAdditions tablePrefix added).tables.map MemoryTable.name
      = (added.map MemoryTable.name).eraseDups := by
  -- by the tables that were added: one more of them is one more `put`
  induction added using List.reverseRecOn with
  | nil => rfl
  | append_singleton added table ih =>
    rw [ofAdditions_concat, withTable, map_name_put, ih, List.map_append, List.map_singleton]
    by_cases hmem : table.name ∈ added.map MemoryTable.name
    · rw [if_pos (List.mem_eraseDups.2 hmem), eraseDups_concat_of_mem hmem]
    · rw [if_neg fun h => hmem (List.mem_eraseDups.1 h), eraseDups_concat_of_notMem hmem]

/-- **Under a name the table last added is found.** -/
theorem find?_ofAdditions (tablePrefix : String) (added : List MemoryTable) (name : String) :
    (ofAdditions tablePrefix added).tables.find? (·.name == name)
      = added.reverse.find? (·.name == name) := by
  induction added using List.reverseRecOn with
  | nil => rfl
  | append_singleton added table ih =>
    rw [ofAdditions_concat, withTable, find?_put, ih, List.reverse_append]
    by_cases hname : table.name = name <;> simp [hname]

/-- The table last added under a name, if there is one. -/
inductive LastAdded (added : List MemoryTable) (name : String) : Option MemoryTable → Prop
  | none (hname : ∀ table ∈ added, table.name ≠ name) : LastAdded added name none
  | some {before after : List MemoryTable} {table : MemoryTable}
      (hadded : added = before ++ table :: after) (hname : table.name = name)
      (hlater : ∀ later ∈ after, later.name ≠ name) : LastAdded added name (some table)

theorem lastAdded_iff {name : String} {held : Option MemoryTable} :
    LastAdded added name held ↔ added.reverse.find? (·.name == name) = held := by
  constructor
  · intro h
    cases h with
    | none hname => simpa using hname
    | @some before after table hadded hname hlater =>
      have hsplit : added.reverse = after.reverse ++ table :: before.reverse := by
        simp [hadded]
      rw [List.find?_eq_some_iff_append]
      refine ⟨by simpa using hname, after.reverse, before.reverse, hsplit, ?_⟩
      simpa using hlater
  · rintro rfl
    cases hfind : added.reverse.find? (·.name == name) with
    | none =>
      apply LastAdded.none
      simpa using hfind
    | some table =>
      rw [List.find?_eq_some_iff_append] at hfind
      obtain ⟨hname, later, earlier, hadded, hlater⟩ := hfind
      have hsplit : added = earlier.reverse ++ table :: later.reverse := by
        rw [← List.reverse_reverse added, hadded]
        simp
      apply LastAdded.some hsplit (by simpa using hname)
      simpa using hlater

theorem tells_source {memory : Memory} (name : String) :
    memory.source.Tells name (memory.tables.find? (·.name == name)) := by
  constructor <;>
  · simp only [source, Memory.table]
    cases memory.tables.find? (·.name == name) <;> rfl

/-- **Tables in memory are an ordered map.**  After any additions the names are those of the added
    tables, each once and in the order of their first appearance; about a name the source tells
    what the table last added under it says, and that there is none exactly if none was added; and
    one more table changes no answer about another name. -/
theorem source_ofAdditions (tablePrefix : String) (added : List MemoryTable) :
    (∃ names, (ofAdditions tablePrefix added).source.tableNames = .ok names ∧ names.Nodup
        ∧ (∀ name, name ∈ names ↔ ∃ table ∈ added, table.name = name)
        ∧ names.Pairwise fun a b =>
          (added.map MemoryTable.name).idxOf a < (added.map MemoryTable.name).idxOf b)
      ∧ (∀ name, ∃ held, LastAdded added name held)
      ∧ (∀ name held, LastAdded added name held →
        (ofAdditions tablePrefix added).source.Tells name held)
      ∧ (∀ name,
        ((ofAdditions tablePrefix added).source.columns name = .error (.tableNotFound name)
            ↔ ∀ table ∈ added, table.name ≠ name)
          ∧ ((ofAdditions tablePrefix added).source.keys name = .error (.tableNotFound name)
            ↔ ∀ table ∈ added, table.name ≠ name)
          ∧ ((ofAdditions tablePrefix added).source.rows name = .broken (.tableNotFound name)
            ↔ ∀ table ∈ added, table.name ≠ name))
      ∧ ∀ table name, name ≠ table.name →
        Source.AgreeOn name (ofAdditions tablePrefix (added ++ [table])).source
          (ofAdditions tablePrefix added).source := by
  have htells : ∀ name, (ofAdditions tablePrefix added).source.Tells name
      (added.reverse.find? (·.name == name)) := by
    intro name
    rw [← find?_ofAdditions tablePrefix]
    exact tells_source name
  refine ⟨⟨_, rfl, ?_, ?_, ?_⟩, ?_, ?_, ?_, ?_⟩
  · rw [map_name_ofAdditions]
    exact nodup_eraseDups _
  · intro name
    rw [map_name_ofAdditions, List.mem_eraseDups, List.mem_map]
  · rw [map_name_ofAdditions]
    exact pairwise_idxOf_eraseDups _
  · intro name
    exact ⟨_, lastAdded_iff.2 rfl⟩
  · intro name held h
    rw [← lastAdded_iff.1 h]
    exact htells name
  · intro name
    have hnone : added.reverse.find? (·.name == name) = none
        ↔ ∀ table ∈ added, table.name ≠ name := by
      simp
    rw [← hnone]
    exact (htells name).notFound_iff
  · intro table name hname
    rw [ofAdditions_concat]
    exact agreeOn_withTable _ hname

def emptiedUsers : MemoryTable :=
  { name := "jos_users", columns := [⟨"id", "int(11)", false, "", none, "", ""⟩] }

/-- Two tables, and then the first of them again without its row. -/
def replacedTables : List MemoryTable :=
  [{ name := "jos_users", rows := [⟨[⟨"id", some "1"⟩]⟩] }, { name := "jos_session" }, emptiedUsers]

theorem source_ofAdditions_replacedTables :
    (LastAdded replacedTables "jos_users" (some emptiedUsers)
        ∧ (ofAdditions "jos_" replacedTables).source.Tells "jos_users" (some emptiedUsers))
      ∧ "jos_session" ≠ emptiedUsers.name
      ∧ Source.AgreeOn "jos_session"
        (ofAdditions "jos_" (replacedTables ++ [emptiedUsers])).source
        (ofAdditions "jos_" replacedTables).source := by
  have hlast : LastAdded replacedTables "jos_users" (some emptiedUsers) := lastAdded_iff.2 rfl
  have hother : "jos_session" ≠ emptiedUsers.name := by decide
  obtain ⟨-, -, htells, -, hagree⟩ := source_ofAdditions "jos_" replacedTables
  exact ⟨⟨hlast, htells "jos_users" _ hlast⟩, hother, hagree emptiedUsers _ hother⟩

end Memory
end SchemaDump
