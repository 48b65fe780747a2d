/-
  SchemaDump/Proofs/Dialect/Acceptance.lean
  =========================================
  **Which tables a dialect can create.**

  A table is refused for one of its columns, one of its keys or a comment, each
  by itself: no check of a dialect looks at two of them.  So dialects compare
  part by part.  Outside MySQL a column is refused for the same reasons but for
  its type, and PostgreSQL has a type wherever standard SQL has one; of keys
  standard SQL takes the fewest and MySQL the most.
-/
import Mathlib.Tactic.SplitIfs
import SchemaDump.Dialect.Generic
import SchemaDump.Dialect.Mysql
import SchemaDump.Dialect.Postgresql
import SchemaDump.Proofs.Checked

namespace SchemaDump

/-- A formatter that can create the table. -/
def Formatter.Accepts (formatter : Formatter) (table : TableStructure) : Prop :=
  Checked.Succeeds (formatter.create table)

instance (formatter : Formatter) (table : TableStructure) :
    Decidable (formatter.Accepts table) :=
  decidable_of_iff _ Checked.succeeds_iff_isOk.symm

namespace Dialect

open Checked
open Sql (ColumnOption DataType Unsupported carriesNul)

/-! ### Steps -/

theorem checkColumns_bind_succeeds_iff {β : Type} {table : String} {key : KeyGroup}
    {next : Unit → Except Unsupported β} :
    Succeeds (checkColumns table key >>= next)
      ↔ key.lacksColumn = false ∧ Succeeds (next ()) := by
  rw [checkColumns]
  cases key.lacksColumn with
  | true => exact iff_of_false (not_succeeds_error _) fun h => Bool.noConfusion h.1
  | false => exact ⟨fun h => ⟨rfl, h⟩, fun h => h.2⟩

namespace Standard

theorem carried_succeeds_iff {text : String} :
    Succeeds (carried text) ↔ carriesNul text = false := by
  rw [carried]
  cases carriesNul text <;> simp

/-- A comment is refused for NUL only. -/
theorem commentOn_succeeds_iff {subject : Sql.Subject} {comment : String} :
    Succeeds (commentOn subject comment) ↔ carriesNul comment = false := by
  rw [commentOn]
  by_cases hempty : comment.toList.isEmpty = true
  · have hnul : carriesNul comment = false := by
      rw [carriesNul, List.isEmpty_iff.1 hempty]
      rfl
    rw [if_pos hempty]
    exact iff_of_true (succeeds_ok []) hnul
  · rw [if_neg hempty, succeeds_map_iff, carried_succeeds_iff]

/-- **The tables that can be created** are those of which each column, each key and each comment
    on a column can be. -/
theorem create_succeeds_iff {columnClause : Column → Except Unsupported Sql.ColumnClause}
    {keyOutput : String → KeyGroup → Except Unsupported KeyOutput} {table : String}
    {definition : TableStructure} :
    Succeeds (create columnClause keyOutput table definition)
      ↔ (∀ column ∈ definition.columns, Succeeds (columnClause column))
        ∧ (∀ key ∈ definition.keyGroups, Succeeds (keyOutput table key))
        ∧ ∀ column ∈ definition.columns, carriesNul column.comment = false := by
  have hcomments : Succeeds (definition.columns.mapM fun column =>
      commentOn (.column table column.name) column.comment)
        ↔ ∀ column ∈ definition.columns, carriesNul column.comment = false := by
    simp only [succeeds_mapM_iff, commentOn_succeeds_iff]
  rw [← hcomments, ← succeeds_mapM_iff, ← succeeds_mapM_iff, create, succeeds_bind_iff]
  constructor
  · rintro ⟨columns, hcolumns, h⟩
    obtain ⟨keys, hkeys, h⟩ := succeeds_bind_iff.1 h
    obtain ⟨comments, hcomments, -⟩ := succeeds_bind_iff.1 h
    exact ⟨⟨columns, hcolumns⟩, ⟨keys, hkeys⟩, comments, hcomments⟩
  · rintro ⟨⟨columns, hcolumns⟩, ⟨keys, hkeys⟩, comments, hcomments⟩
    exact ⟨columns, hcolumns, succeeds_bind_iff.2 ⟨keys, hkeys,
      succeeds_bind_iff.2 ⟨comments, hcomments, succeeds_ok _⟩⟩⟩

/-- Nothing of a column but its type is decided by the dialect. -/
theorem columnClause_succeeds_iff {spell : DataType → String}
    {map : Column → ColumnType → List Extra → Except Unsupported DataType}
    {counter : List ColumnOption} {column : Column} :
    Succeeds (columnClause spell map counter column)
      ↔ ∃ extras type, plainExtras column = .ok extras ∧ typeOf column = .ok type
        ∧ Succeeds (map column type extras) ∧ Succeeds (defaultOptions column type extras)
        ∧ Succeeds (enumerationOptions type) := by
  rw [columnClause, succeeds_bind_iff]
  constructor
  · rintro ⟨extras, hextras, h⟩
    obtain ⟨type, htype, h⟩ := succeeds_bind_iff.1 h
    obtain ⟨target, htarget, h⟩ := succeeds_bind_iff.1 h
    obtain ⟨default, hdefault, h⟩ := succeeds_bind_iff.1 h
    obtain ⟨values, hvalues, -⟩ := succeeds_bind_iff.1 h
    exact ⟨extras, type, hextras, htype, ⟨target, htarget⟩, ⟨default, hdefault⟩, values, hvalues⟩
  · rintro ⟨extras, type, hextras, htype, ⟨target, htarget⟩, ⟨default, hdefault⟩, values, hvalues⟩
    exact ⟨extras, hextras, succeeds_bind_iff.2 ⟨type, htype,
      succeeds_bind_iff.2 ⟨target, htarget, succeeds_bind_iff.2 ⟨default, hdefault,
        succeeds_bind_iff.2 ⟨values, hvalues, succeeds_ok _⟩⟩⟩⟩⟩

end Standard

/-! ### Columns -/

theorem isInteger_iff {type : ColumnType} :
    type.isInteger = true
      ↔ type.base = "tinyint" ∨ type.base = "smallint" ∨ type.base = "mediumint"
        ∨ type.base = "int" ∨ type.base = "integer" ∨ type.base = "bigint" := by
  simp only [ColumnType.isInteger, List.contains_eq_mem, List.mem_cons, List.not_mem_nil, or_false,
    decide_eq_true_eq]

/-- The types that can count up are those of whole numbers. -/
theorem Postgresql.isSome_serialType? (type : ColumnType) :
    (Postgresql.serialType? type).isSome = type.isInteger := by
  rw [Bool.eq_iff_iff, isInteger_iff, Postgresql.serialType?]
  split <;> simp_all

/-- **PostgreSQL has a type for every column that standard SQL has one for.** -/
theorem Postgresql.dataType_succeeds_of_generic {column : Column} {type : ColumnType}
    {extras : List Extra} (h : Succeeds (Generic.dataType column type extras)) :
    Succeeds (Postgresql.dataType column type extras) := by
  rw [Generic.dataType] at h
  rw [Postgresql.dataType]
  by_cases hcounter : Extra.autoIncrements extras = true
  · rw [if_pos hcounter]
    cases hinteger : type.isInteger with
    | false => simp [hcounter, hinteger] at h
    | true =>
      obtain ⟨target, htarget⟩ :=
        Option.isSome_iff_exists.1 ((Postgresql.isSome_serialType? type).trans hinteger)
      rw [htarget]
      exact succeeds_ok target
  · rw [if_neg hcounter]
    split
    · exact succeeds_ok _
    · rename_i hlisted
      rw [Bool.or_eq_true, not_or] at hlisted
      cases hcommon : Standard.commonType? type with
      | some target => exact succeeds_ok target
      | none => simp [hcounter, hlisted.1, hlisted.2, hcommon] at h

theorem Postgresql.columnClause_succeeds_of_generic {column : Column}
    (h : Succeeds (Generic.columnClause column)) : Succeeds (Postgresql.columnClause column) := by
  obtain ⟨extras, type, hextras, htype, htarget, hdefault, hvalues⟩ :=
    Standard.columnClause_succeeds_iff.1 h
  exact Standard.columnClause_succeeds_iff.2 ⟨extras, type, hextras, htype,
    Postgresql.dataType_succeeds_of_generic htarget, hdefault, hvalues⟩

/-- MySQL refuses a column for its extras only. -/
theorem Mysql.columnClause_succeeds_iff {column : Column} :
    Succeeds (Mysql.columnClause column) ↔ Succeeds (extrasOf column) := by
  rw [Mysql.columnClause, succeeds_bind_iff]
  exact ⟨fun ⟨extras, hextras, _⟩ => ⟨extras, hextras⟩,
    fun ⟨extras, hextras⟩ => ⟨extras, hextras, succeeds_ok _⟩⟩

theorem Mysql.columnClause_succeeds_of_postgresql {column : Column}
    (h : Succeeds (Postgresql.columnClause column)) : Succeeds (Mysql.columnClause column) := by
  obtain ⟨extras, -, hextras, -⟩ := Standard.columnClause_succeeds_iff.1 h
  rw [Standard.plainExtras] at hextras
  obtain ⟨read, hread, -⟩ := bind_eq_ok_iff.1 hextras
  exact Mysql.columnClause_succeeds_iff.2 ⟨read, hread⟩

/-! ### Keys -/

/-- Whether a key is indexed as a tree, as it is if it does not say. -/
def isTree (method : String) : Bool := method == "" || method == "BTREE"

/-- **Standard SQL has tree indexes**, and constraints without directions and comments. -/
theorem Generic.keyOutput_succeeds_iff {table : String} {key : KeyGroup} :
    Succeeds (Generic.keyOutput table key)
      ↔ key.lacksColumn = false ∧ isTree key.method = true
        ∧ (key.kind ≠ .index → key.hasDescending = false ∧ key.comment = "")
        ∧ carriesNul key.comment = false := by
  have hconstraint : (key.comment = "" ∧ carriesNul key.comment = false) ↔ key.comment = "" :=
    and_iff_left_of_imp fun h => by rw [h]; rfl
  rw [Generic.keyOutput, checkColumns_bind_succeeds_iff, succeeds_check_iff, succeeds_check_iff,
    Bool.not_eq_false', ← isTree]
  cases hkind : key.kind with
  | index =>
    simp only [succeeds_bind_pure_iff, Standard.commentOn_succeeds_iff]
    simp
  | primary =>
    simp only [succeeds_check_iff]
    simp [and_assoc, hconstraint]
  | unique =>
    simp only [succeeds_check_iff]
    simp [and_assoc, hconstraint]

theorem Postgresql.isHashed_succeeds_iff {table : String} {key : KeyGroup} :
    Succeeds (Postgresql.isHashed table key)
      ↔ isTree key.method = true
        ∨ key.method = "HASH" ∧ key.kind ≠ .unique ∧ key.parts.length ≤ 1
          ∧ key.hasDescending = false := by
  rw [Postgresql.isHashed, ← isTree]
  simp only [beq_iff_eq, gt_iff_lt, ← Nat.not_lt, ne_eq]
  split_ifs with htree hhash hunique hlength hdescending <;> simp_all

/-- **PostgreSQL has tree indexes, and hashed ones** over one column without direction. -/
theorem Postgresql.keyOutput_succeeds_iff {table : String} {key : KeyGroup} :
    Succeeds (Postgresql.keyOutput table key)
      ↔ key.lacksColumn = false
        ∧ (if key.kind = .primary then isTree key.method = true ∧ key.hasDescending = false
          else Succeeds (Postgresql.isHashed table key))
        ∧ carriesNul key.comment = false := by
  have hcomment : ∀ {subject : Sql.Subject} {output : List Sql.Statement → Standard.KeyOutput},
      Succeeds (Standard.commentOn subject key.comment >>= fun comment => pure (output comment))
        ↔ carriesNul key.comment = false :=
    succeeds_bind_pure_iff.trans Standard.commentOn_succeeds_iff
  rw [Postgresql.keyOutput, checkColumns_bind_succeeds_iff]
  cases hkind : key.kind with
  | primary =>
    dsimp only
    rw [succeeds_check_iff, Bool.not_eq_false', ← isTree, succeeds_check_iff, hcomment]
    simp [and_assoc]
  | index =>
    simp only [succeeds_bind_and_iff fun hash => hcomment]
    simp
  | unique =>
    simp only [succeeds_bind_and_iff fun hash => hcomment]
    simp

theorem Mysql.keyClause_succeeds_iff {table : String} {key : KeyGroup} :
    Succeeds (Mysql.keyClause table key)
      ↔ key.lacksColumn = false ∧ (Mysql.keyForm? key.kind key.method).isSome = true := by
  rw [Mysql.keyClause, checkColumns_bind_succeeds_iff]
  cases Mysql.keyForm? key.kind key.method with
  | none => simp
  | some form =>
    obtain ⟨_ | word, hash⟩ := form <;> simp

theorem Postgresql.keyOutput_succeeds_of_generic {table other : String} {key : KeyGroup}
    (h : Succeeds (Generic.keyOutput table key)) : Succeeds (Postgresql.keyOutput other key) := by
  obtain ⟨hcolumns, htree, hconstraint, hcomment⟩ := Generic.keyOutput_succeeds_iff.1 h
  refine Postgresql.keyOutput_succeeds_iff.2 ⟨hcolumns, ?_, hcomment⟩
  split_ifs with hprimary
  · have hne : key.kind ≠ .index := by rw [hprimary]; decide
    exact ⟨htree, (hconstraint hne).1⟩
  · exact Postgresql.isHashed_succeeds_iff.2 (.inl htree)

/-- MySQL has tree and hashed indexes of every kind. -/
theorem Mysql.isSome_keyForm? {kind : KeyKind} {method : String}
    (h : isTree method = true ∨ method = "HASH") :
    (Mysql.keyForm? kind method).isSome = true := by
  have hform : ((method == "" || method == "BTREE") || method == "HASH") = true := by
    rwa [← isTree, Bool.or_eq_true, beq_iff_eq]
  cases kind <;> rw [Mysql.keyForm?] <;> simp only [hform, if_true, Option.isSome_some]

theorem Mysql.keyClause_succeeds_of_postgresql {table other : String} {key : KeyGroup}
    (h : Succeeds (Postgresql.keyOutput table key)) : Succeeds (Mysql.keyClause other key) := by
  obtain ⟨hcolumns, hmethod, -⟩ := Postgresql.keyOutput_succeeds_iff.1 h
  refine Mysql.keyClause_succeeds_iff.2 ⟨hcolumns, Mysql.isSome_keyForm? ?_⟩
  split_ifs at hmethod with hprimary
  · exact .inl hmethod.1
  · exact (Postgresql.isHashed_succeeds_iff.1 hmethod).imp_right And.left

/-! ### Tables -/

theorem Generic.accepts_iff {options : FormatOptions} {table : TableStructure} :
    (Generic.formatter options).Accepts table
      ↔ (∀ column ∈ table.columns, Succeeds (Generic.columnClause column))
        ∧ (∀ key ∈ table.keyGroups,
            Succeeds (Generic.keyOutput (Table.liveName table.name options.tablePrefix) key))
        ∧ ∀ column ∈ table.columns, carriesNul column.comment = false :=
  succeeds_bind_pure_iff.trans Standard.create_succeeds_iff

theorem Postgresql.accepts_iff {options : FormatOptions} {table : TableStructure} :
    (Postgresql.formatter options).Accepts table
      ↔ (∀ column ∈ table.columns, Succeeds (Postgresql.columnClause column))
        ∧ (∀ key ∈ table.keyGroups,
            Succeeds (Postgresql.keyOutput (Table.liveName table.name options.tablePrefix) key))
        ∧ ∀ column ∈ table.columns, carriesNul column.comment = false :=
  succeeds_bind_pure_iff.trans Standard.create_succeeds_iff

theorem Mysql.accepts_iff {options : FormatOptions} {table : TableStructure} :
    (Mysql.formatter options).Accepts table
      ↔ (∀ column ∈ table.columns, Succeeds (Mysql.columnClause column))
        ∧ ∀ key ∈ table.keyGroups,
            Succeeds (Mysql.keyClause (Table.liveName table.name options.tablePrefix) key) := by
  refine succeeds_bind_pure_iff.trans ?_
  rw [Mysql.create, ← succeeds_mapM_iff, ← succeeds_mapM_iff]
  exact succeeds_bind_and_iff fun columns => succeeds_bind_pure_iff

/-- **The dialects form a chain**: what standard SQL can create PostgreSQL can, and what PostgreSQL
    can create MySQL can, whatever the prefixes are. -/
theorem accepts_chain (table : TableStructure) (generic postgresql mysql : FormatOptions) :
    ((Generic.formatter generic).Accepts table → (Postgresql.formatter postgresql).Accepts table)
      ∧ ((Postgresql.formatter postgresql).Accepts table
        → (Mysql.formatter mysql).Accepts table) := by
  constructor
  · intro h
    obtain ⟨hcolumns, hkeys, hcomments⟩ := Generic.accepts_iff.1 h
    exact Postgresql.accepts_iff.2
      ⟨fun column hcolumn => Postgresql.columnClause_succeeds_of_generic (hcolumns column hcolumn),
        fun key hkey => Postgresql.keyOutput_succeeds_of_generic (hkeys key hkey), hcomments⟩
  · intro h
    obtain ⟨hcolumns, hkeys, -⟩ := Postgresql.accepts_iff.1 h
    exact Mysql.accepts_iff.2
      ⟨fun column hcolumn => Mysql.columnClause_succeeds_of_postgresql (hcolumns column hcolumn),
        fun key hkey => Mysql.keyClause_succeeds_of_postgresql (hkeys key hkey)⟩

/-- A counter, an enumeration, the current time, and one key of each kind. -/
def members : TableStructure :=
  ⟨"#__members",
    [⟨"id", "bigint(20) unsigned", false, "PRI", none, "auto_increment", ""⟩,
      ⟨"state", "enum('it''s','on')", false, "MUL", some "on", "", "what's up"⟩,
      ⟨"seen", "datetime(6)", true, "", some "now(6)", "DEFAULT_GENERATED", ""⟩],
    [⟨"#__members", false, "PRIMARY", 1, "id", "A", "", "BTREE", ""⟩,
      ⟨"#__members", false, "u", 1, "state", "A", "", "", ""⟩,
      ⟨"#__members", true, "k", 1, "seen", "D", "YES", "btree", "latest first"⟩]⟩

theorem accepts_members :
    (Generic.formatter {}).Accepts members ∧ (Postgresql.formatter ⟨"p_"⟩).Accepts members
      ∧ (Mysql.formatter ⟨""⟩).Accepts members := by
  have hgeneric : (Generic.formatter {}).Accepts members := by decide +kernel
  obtain ⟨hpostgresql, hmysql⟩ := accepts_chain members {} ⟨"p_"⟩ ⟨""⟩
  exact ⟨hgeneric, hpostgresql hgeneric, hmysql (hpostgresql hgeneric)⟩

def hashed : TableStructure :=
  ⟨"t", [⟨"a", "int(11)", true, "", none, "", ""⟩], [⟨"t", true, "k", 1, "a", "", "", "HASH", ""⟩]⟩

def flags : TableStructure := ⟨"t", [⟨"a", "bit(8)", true, "", some "b'0'", "", ""⟩], []⟩

/-- Neither step of the chain can be turned round. -/
example :
    (Postgresql.formatter {}).Accepts hashed ∧ ¬(Generic.formatter {}).Accepts hashed
      ∧ (Mysql.formatter {}).Accepts flags ∧ ¬(Postgresql.formatter {}).Accepts flags := by
  decide +kernel

end Dialect
end SchemaDump
