/-
  SchemaDump/Proofs/Dialect/Statements.lean
  =========================================
  **What a dialect writes for a table is as many statements as it decided on.**

  Outside MySQL every text of a dump is quoted or drawn from plain words: types
  are those of the dialect, defaults are literals or the current time.  So the
  text that creates a table, fills it or moves its counters splits into exactly
  the statements that the table's keys, comments, rows and counters call for.
-/
import SchemaDump.Dialect.Generic
import SchemaDump.Dialect.Mysql
import SchemaDump.Dialect.Postgresql
import SchemaDump.Proofs.Checked
import SchemaDump.Proofs.Sql.DataType
import SchemaDump.Proofs.Sql.Rendering
import SchemaDump.Proofs.Sql.Timestamp

namespace SchemaDump

/-- Whether the extras of a column name it as a counter. -/
def Column.countsUp (column : Column) : Bool :=
  match Extra.read column.extra with
  | .ok extras => extras.contains .autoIncrement
  | .error _ => false

/-- Whether a row holds a whole number of 64 bits for a column. -/
def Row.holdsNumber (row : Row) (column : String) : Bool :=
  match row.get? column with
  | some ⟨_, some text⟩ => (Text.signed64? (Text.trim text.toList)).isSome
  | _ => false

namespace Dialect

open Sql (AreQuoted Clause ColumnOption DataType Default Statement isPlain)
open Checked (bind_eq_ok_iff map_eq_ok_iff check_eq_ok_iff exists_of_mem_mapM)

/-! ### Spellings -/

theorem Mysql.spelling_isInert : Mysql.spelling.IsInert .mysql :=
  ⟨.graveName, .escapedLiteral⟩

theorem Postgresql.spelling_isInert : Postgresql.spelling.IsInert .standard :=
  ⟨.quotedName, .standardLiteral⟩

theorem Generic.spelling_isInert : Generic.spelling.IsInert .standard :=
  ⟨.bareName, .standardLiteral⟩

/-! ### Plain texts -/

theorem isPlain_append {first second : String} (hfirst : isPlain first = true)
    (hsecond : isPlain second = true) : isPlain (first ++ second) = true := by
  rw [isPlain, String.toList_append, List.all_append, Bool.and_eq_true]
  exact ⟨hfirst, hsecond⟩

theorem isPlain_parameterList (numbers : List Nat) :
    isPlain (DataType.parameterList numbers) = true := by
  rw [isPlain, List.all_eq_true]
  exact fun c hc =>
    Sql.isPlainChar_of_kind Sql.isParameterChar rfl (Sql.forall_mem_parameterList numbers c hc)

theorem isPlain_standard (type : DataType) : isPlain type.standard = true := by
  have hnames : ∀ name ∈ DataType.standardNames, isPlain name = true := by decide
  obtain ⟨name, hname, htype⟩ := type.exists_standard_eq
  rw [htype]
  exact isPlain_append (hnames name hname) (isPlain_parameterList _)

theorem isPlain_postgresql (type : DataType) : isPlain type.postgresql = true := by
  have hnames : ∀ name ∈ DataType.postgresqlNames, isPlain name = true := by decide
  obtain ⟨name, hname, numbers, htype⟩ := type.exists_postgresql_eq
  rw [htype]
  exact isPlain_append (hnames name hname) (isPlain_parameterList numbers)

/-- The precision of a current time is plain, whatever digits it is written with. -/
theorem isPlain_of_currentTime? {text precision : String}
    (h : Sql.currentTime? text = some precision) : isPlain precision = true := by
  have hdigits := (Sql.currentTime?_eq_some_iff.1 h).isDecimalDigit
  rw [isPlain, List.all_eq_true]
  exact fun c hc => Sql.isPlainChar_of_kind _ rfl (hdigits c hc)

/-! ### Sums -/

theorem sum_toNat {α : Type} (p : α → Bool) (xs : List α) :
    (xs.map fun x => (p x).toNat).sum = xs.countP p := by
  induction xs with
  | nil => rfl
  | cons x xs ih =>
    rw [List.map_cons, List.sum_cons, ih, List.countP_cons]
    cases p x with
    | true => exact Nat.add_comm _ _
    | false => exact Nat.zero_add _

theorem sum_toNat_add {α : Type} (p q : α → Bool) (xs : List α) :
    (xs.map fun x => (p x).toNat + (q x).toNat).sum = xs.countP p + xs.countP q := by
  rw [← sum_toNat p, ← sum_toNat q]
  induction xs with
  | nil => rfl
  | cons x xs ih =>
    simp only [List.map_cons, List.sum_cons, ih]
    omega

/-! ### Columns -/

theorem read?_of_typeOf {column : Column} {type : ColumnType} (h : typeOf column = .ok type) :
    ColumnType.read? column.type = some type := by
  rw [typeOf] at h
  split at h
  · rename_i read hread
    rw [hread, Except.ok.inj h]
  · cases h

namespace Standard

/-- A default is the current time or a literal. -/
theorem defaultOf_eq_ok {column : Column} {type : ColumnType} {extras : List Extra}
    {text : String} {value : Default} (h : defaultOf column type extras text = .ok value) :
    (∃ precision, Sql.currentTime? text = some precision ∧ value = .now precision)
      ∨ ∃ held, value = .literal held := by
  rw [defaultOf] at h
  split at h
  · rename_i precision hprecision
    split at hprecision
    · exact .inl ⟨precision, hprecision, (Except.ok.inj h).symm⟩
    · cases hprecision
  · split at h
    · cases h
    · obtain ⟨held, -, rfl⟩ := map_eq_ok_iff.1 h
      exact .inr ⟨held, rfl⟩

theorem defaultOf_isQuoted {column : Column} {type : ColumnType} {extras : List Extra}
    {text : String} {value : Default} (h : defaultOf column type extras text = .ok value) :
    value.IsQuoted := by
  rcases defaultOf_eq_ok h with ⟨precision, hprecision, rfl⟩ | ⟨held, rfl⟩
  · exact isPlain_of_currentTime? hprecision
  · exact trivial

/-- Of a default comes no other property of a column than a default. -/
theorem exists_of_mem_defaultOptions {column : Column} {type : ColumnType} {extras : List Extra}
    {options : List ColumnOption} (h : defaultOptions column type extras = .ok options)
    {option : ColumnOption} (hmem : option ∈ options) :
    ∃ text value, defaultOf column type extras text = .ok value ∧ option = .default value := by
  rw [defaultOptions] at h
  split at h
  · obtain rfl := Except.ok.inj h
    cases hmem
  · rename_i text _
    split at h
    · obtain rfl := Except.ok.inj h
      cases hmem
    · obtain ⟨value, hvalue, rfl⟩ := map_eq_ok_iff.1 h
      exact ⟨text, value, hvalue, List.mem_singleton.1 hmem⟩

theorem exists_of_mem_enumerationOptions {type : ColumnType} {options : List ColumnOption}
    (h : enumerationOptions type = .ok options) {option : ColumnOption} (hmem : option ∈ options) :
    ∃ values, option = .oneOf values := by
  rw [enumerationOptions] at h
  split at h
  · obtain ⟨listed, -, h⟩ := bind_eq_ok_iff.1 h
    obtain ⟨values, -, h⟩ := bind_eq_ok_iff.1 h
    obtain rfl := Except.ok.inj h
    exact ⟨values, List.mem_singleton.1 hmem⟩
  · obtain rfl := Except.ok.inj h
    cases hmem

/-- What the line of a column is made of. -/
theorem columnClause_eq_ok {spell : DataType → String}
    {map : Column → ColumnType → List Extra → Except Sql.Unsupported DataType}
    {counter : List ColumnOption} {column : Column} {clause : Sql.ColumnClause}
    (h : columnClause spell map counter column = .ok clause) :
    ∃ extras type target default values, plainExtras column = .ok extras
      ∧ typeOf column = .ok type ∧ map column type extras = .ok target
      ∧ defaultOptions column type extras = .ok default ∧ enumerationOptions type = .ok values
      ∧ clause = ⟨column.name, spell target,
          (if column.nullable then [] else [.notNull])
            ++ (if Extra.autoIncrements extras then counter else []) ++ default ++ values⟩ := by
  obtain ⟨extras, hextras, h⟩ := bind_eq_ok_iff.1 h
  obtain ⟨type, htype, h⟩ := bind_eq_ok_iff.1 h
  obtain ⟨target, htarget, h⟩ := bind_eq_ok_iff.1 h
  obtain ⟨default, hdefault, h⟩ := bind_eq_ok_iff.1 h
  obtain ⟨values, hvalues, h⟩ := bind_eq_ok_iff.1 h
  exact ⟨extras, type, target, default, values, hextras, htype, htarget, hdefault, hvalues,
    (Except.ok.inj h).symm⟩

/-- What an option of a column outside MySQL is: that it holds no NULL, what its counter needs, its
    default, or the list of its values. -/
theorem option_of_columnClause {spell : DataType → String}
    {map : Column → ColumnType → List Extra → Except Sql.Unsupported DataType}
    {counter : List ColumnOption} {column : Column} {clause : Sql.ColumnClause}
    (h : columnClause spell map counter column = .ok clause) {option : ColumnOption}
    (hmem : option ∈ clause.options) :
    option = .notNull ∨ option ∈ counter
      ∨ (∃ type extras text value, defaultOf column type extras text = .ok value
        ∧ option = .default value)
      ∨ ∃ values, option = .oneOf values := by
  obtain ⟨extras, type, target, default, values, -, -, -, hdefault, hvalues, rfl⟩ :=
    columnClause_eq_ok h
  simp only [List.mem_append] at hmem
  rcases hmem with ((hmem | hmem) | hmem) | hmem
  · split at hmem
    · cases hmem
    · exact .inl (List.mem_singleton.1 hmem)
  · split at hmem
    · exact .inr (.inl hmem)
    · cases hmem
  · exact .inr (.inr (.inl ⟨type, extras, exists_of_mem_defaultOptions hdefault hmem⟩))
  · exact .inr (.inr (.inr (exists_of_mem_enumerationOptions hvalues hmem)))

theorem exists_type_of_columnClause {spell : DataType → String}
    {map : Column → ColumnType → List Extra → Except Sql.Unsupported DataType}
    {counter : List ColumnOption} {column : Column} {clause : Sql.ColumnClause}
    (h : columnClause spell map counter column = .ok clause) :
    ∃ target, clause.type = spell target := by
  obtain ⟨extras, type, target, default, values, -, -, -, -, -, rfl⟩ := columnClause_eq_ok h
  exact ⟨target, rfl⟩

theorem name_of_columnClause {spell : DataType → String}
    {map : Column → ColumnType → List Extra → Except Sql.Unsupported DataType}
    {counter : List ColumnOption} {column : Column} {clause : Sql.ColumnClause}
    (h : columnClause spell map counter column = .ok clause) : clause.name = column.name := by
  obtain ⟨extras, type, target, default, values, -, -, -, -, -, rfl⟩ := columnClause_eq_ok h
  rfl

/-- **Columns outside MySQL are quoted or plain**, whatever the raw type and the default say. -/
theorem columnClause_isQuoted {spell : DataType → String}
    {map : Column → ColumnType → List Extra → Except Sql.Unsupported DataType}
    {counter : List ColumnOption} (hspell : ∀ type, isPlain (spell type) = true)
    (hcounter : ∀ option ∈ counter, option.IsQuoted) {column : Column} {clause : Sql.ColumnClause}
    (h : columnClause spell map counter column = .ok clause) :
    (Clause.column clause).IsQuoted := by
  refine ⟨?_, ?_⟩
  · obtain ⟨target, htarget⟩ := exists_type_of_columnClause h
    rw [htarget]
    exact hspell target
  · intro option hmem
    rcases option_of_columnClause h hmem with rfl | hmem | ⟨type, extras, text, value, hvalue, rfl⟩ |
      ⟨values, rfl⟩
    · exact trivial
    · exact hcounter option hmem
    · exact defaultOf_isQuoted hvalue
    · exact trivial

theorem valuesOf_eq_ok {type : ColumnType} {values : List String}
    (h : valuesOf type = .ok values) : type.values? = some values := by
  rw [valuesOf] at h
  split at h
  · rename_i listed hlisted
    rw [hlisted, Except.ok.inj h]
  · cases h

end Standard

theorem Generic.columnClause_isQuoted {column : Column} {clause : Sql.ColumnClause}
    (h : Generic.columnClause column = .ok clause) : (Clause.column clause).IsQuoted := by
  have hidentity : ColumnOption.identity.IsQuoted := trivial
  exact Standard.columnClause_isQuoted isPlain_standard (List.forall_mem_singleton.2 hidentity) h

theorem Postgresql.columnClause_isQuoted {column : Column} {clause : Sql.ColumnClause}
    (h : Postgresql.columnClause column = .ok clause) : (Clause.column clause).IsQuoted :=
  Standard.columnClause_isQuoted isPlain_postgresql (List.forall_mem_nil _) h

/-- The types of standard SQL: texts for enumerations and sets, and else the common ones. -/
theorem Generic.dataType_eq_ok {column : Column} {type : ColumnType} {extras : List Extra}
    {target : DataType} (h : Generic.dataType column type extras = .ok target) :
    (type.base = "enum" ∧ ∃ values, type.values? = some values
        ∧ target = .varchar (Generic.enumerationLength values))
      ∨ (type.base = "set" ∧ ∃ values, type.values? = some values
        ∧ target = .varchar (Generic.setLength values))
      ∨ (type.base ≠ "enum" ∧ type.base ≠ "set" ∧ Standard.commonType? type = some target) := by
  rw [Generic.dataType] at h
  split at h
  · cases h
  split at h
  · rename_i henum
    obtain ⟨values, hvalues, rfl⟩ := map_eq_ok_iff.1 h
    exact .inl ⟨beq_iff_eq.1 henum, values, Standard.valuesOf_eq_ok hvalues, rfl⟩
  rename_i henum
  split at h
  · rename_i hset
    obtain ⟨values, hvalues, rfl⟩ := map_eq_ok_iff.1 h
    exact .inr (.inl ⟨beq_iff_eq.1 hset, values, Standard.valuesOf_eq_ok hvalues, rfl⟩)
  rename_i hset
  split at h
  · rename_i common hcommon
    rw [beq_iff_eq] at henum hset
    exact .inr (.inr ⟨henum, hset, by rw [hcommon, Except.ok.inj h]⟩)
  · cases h

/-- The types of PostgreSQL: serial ones for counters, text for enumerations and sets, and else
    the common ones. -/
theorem Postgresql.dataType_eq_ok {column : Column} {type : ColumnType} {extras : List Extra}
    {target : DataType} (h : Postgresql.dataType column type extras = .ok target) :
    (Extra.autoIncrements extras = true ∧ Postgresql.serialType? type = some target)
      ∨ (Extra.autoIncrements extras = false ∧ (type.base = "enum" ∨ type.base = "set")
        ∧ target = .text)
      ∨ (Extra.autoIncrements extras = false ∧ type.base ≠ "enum" ∧ type.base ≠ "set"
        ∧ Standard.commonType? type = some target) := by
  rw [Postgresql.dataType] at h
  split at h
  · rename_i hcounter
    split at h
    · rename_i counting hserial
      exact .inl ⟨hcounter, by rw [hserial, Except.ok.inj h]⟩
    · cases h
  rename_i hcounter
  rw [Bool.not_eq_true] at hcounter
  split at h
  · rename_i hlisted
    rw [Bool.or_eq_true, beq_iff_eq, beq_iff_eq] at hlisted
    exact .inr (.inl ⟨hcounter, hlisted, (Except.ok.inj h).symm⟩)
  rename_i hlisted
  rw [Bool.or_eq_true, beq_iff_eq, beq_iff_eq, not_or] at hlisted
  split at h
  · rename_i common hcommon
    exact .inr (.inr ⟨hcounter, hlisted.1, hlisted.2, by rw [hcommon, Except.ok.inj h]⟩)
  · cases h

/-! ### Tables -/

namespace Standard

theorem commentOn_eq_ok {subject : Sql.Subject} {comment : String} {statements : List Statement}
    (h : commentOn subject comment = .ok statements) :
    AreQuoted statements (comment != "").toNat := by
  rw [commentOn] at h
  by_cases hempty : comment = ""
  · rw [hempty] at h ⊢
    obtain rfl := Except.ok.inj h
    exact .nil
  · have hsome : ¬ comment.toList.isEmpty = true := by simpa using hempty
    rw [if_neg hsome] at h
    obtain ⟨text, -, rfl⟩ := map_eq_ok_iff.1 h
    rw [bne_iff_ne.2 hempty]
    refine .cons ?_ .nil
    exact trivial

/-- What is known of the output for a key. -/
structure KeyOutput.Counts (output : KeyOutput) (count : Nat) : Prop where
  clauses : ∀ clause ∈ output.clauses, clause.IsQuoted
  statements : AreQuoted output.statements count

theorem counts_clause {clause : Clause} (h : clause.IsQuoted) {statements : List Statement}
    {count : Nat} (hstatements : AreQuoted statements count) :
    KeyOutput.Counts ⟨[clause], statements⟩ count := by
  refine ⟨?_, hstatements⟩
  intro other hmem
  rw [List.mem_singleton.1 hmem]
  exact h

theorem counts_statements {statements : List Statement} {count : Nat}
    (h : AreQuoted statements count) : KeyOutput.Counts ⟨[], statements⟩ count := by
  refine ⟨?_, h⟩
  intro clause hmem
  cases hmem

/-- What holds of the lines of columns and of the clauses of keys holds of all clauses. -/
theorem forall_mem_clauses {columnClause : Column → Except Sql.Unsupported Sql.ColumnClause}
    {keyOutput : KeyGroup → Except Sql.Unsupported KeyOutput} {definition : TableStructure}
    {columns : List Sql.ColumnClause} {keys : List KeyOutput} {P : Clause → Prop}
    (hcolumns : definition.columns.mapM columnClause = .ok columns)
    (hkeys : definition.keyGroups.mapM keyOutput = .ok keys)
    (hcolumn : ∀ column clause, columnClause column = .ok clause → P (.column clause))
    (hkey : ∀ key output, keyOutput key = .ok output → ∀ clause ∈ output.clauses, P clause) :
    ∀ clause ∈ columns.map Clause.column ++ keys.flatMap KeyOutput.clauses, P clause := by
  intro clause hmem
  rcases List.mem_append.1 hmem with hmem | hmem
  · obtain ⟨written, hwritten, rfl⟩ := List.mem_map.1 hmem
    obtain ⟨column, -, hcreated⟩ := exists_of_mem_mapM hcolumns hwritten
    exact hcolumn column written hcreated
  · obtain ⟨output, houtput, hclause⟩ := List.mem_flatMap.1 hmem
    obtain ⟨key, -, hcreated⟩ := exists_of_mem_mapM hkeys houtput
    exact hkey key output hcreated clause hclause

/-- **The statements of a table**: the table, what its keys add, and the comments on columns. -/
theorem create_eq_ok {columnClause : Column → Except Sql.Unsupported Sql.ColumnClause}
    {keyOutput : String → KeyGroup → Except Sql.Unsupported KeyOutput} {follows : KeyGroup → Bool}
    {table : String} {definition : TableStructure} {statements : List Statement}
    (hcolumn : ∀ column clause, columnClause column = .ok clause →
      (Clause.column clause).IsQuoted)
    (hkey : ∀ key output, keyOutput table key = .ok output →
      output.Counts ((follows key).toNat + (key.comment != "").toNat))
    (h : create columnClause keyOutput table definition = .ok statements) :
    AreQuoted statements
      (1 + definition.keyGroups.countP follows
        + definition.keyGroups.countP (fun key => key.comment != "")
        + definition.columns.countP fun column => column.comment != "") := by
  obtain ⟨columns, hcolumns, h⟩ := bind_eq_ok_iff.1 h
  obtain ⟨keys, hkeys, h⟩ := bind_eq_ok_iff.1 h
  obtain ⟨comments, hcomments, h⟩ := bind_eq_ok_iff.1 h
  obtain rfl := Except.ok.inj h
  have hclauses : ∀ clause ∈ columns.map Clause.column ++ keys.flatMap KeyOutput.clauses,
      clause.IsQuoted :=
    forall_mem_clauses hcolumns hkeys hcolumn fun key output hcreated =>
      (hkey key output hcreated).clauses
  have hcharset : ∀ text ∈ (none : Option String), isPlain text = true := by
    intro text hmem
    cases hmem
  have hfollowing := AreQuoted.flatMap
    (fun key output hcreated => (hkey key output hcreated).statements) hkeys
  have hcommented := AreQuoted.flatten
    (fun column written hcreated => commentOn_eq_ok hcreated) hcomments
  rw [sum_toNat_add] at hfollowing
  rw [sum_toNat] at hcommented
  rw [Nat.add_assoc 1, Nat.add_assoc 1]
  exact .cons ⟨hclauses, hcharset⟩ (hfollowing.append hcommented)

/-! What the statements of a table say, where neither tables nor comments say anything. -/

section
variable {α : Type} {said : Statement → List α}

theorem flatMap_commentOn (hcomment : ∀ subject text, said (.comment subject text) = [])
    {subject : Sql.Subject} {comment : String} {statements : List Statement}
    (h : commentOn subject comment = .ok statements) : statements.flatMap said = [] := by
  rw [commentOn] at h
  split at h
  · obtain rfl := Except.ok.inj h
    rfl
  · obtain ⟨text, -, rfl⟩ := map_eq_ok_iff.1 h
    rw [List.flatMap_singleton, hcomment]

theorem flatMap_create
    (htable : ∀ table clauses charset, said (.createTable table clauses charset) = [])
    (hcomment : ∀ subject text, said (.comment subject text) = [])
    {columnClause : Column → Except Sql.Unsupported Sql.ColumnClause}
    {keyOutput : String → KeyGroup → Except Sql.Unsupported KeyOutput} {told : KeyGroup → List α}
    {table : String} {definition : TableStructure} {statements : List Statement}
    (hkey : ∀ key output, keyOutput table key = .ok output →
      output.statements.flatMap said = told key)
    (h : create columnClause keyOutput table definition = .ok statements) :
    statements.flatMap said = definition.keyGroups.flatMap told := by
  obtain ⟨columns, -, h⟩ := bind_eq_ok_iff.1 h
  obtain ⟨keys, hkeys, h⟩ := bind_eq_ok_iff.1 h
  obtain ⟨comments, hcomments, h⟩ := bind_eq_ok_iff.1 h
  obtain rfl := Except.ok.inj h
  have hfollowing : (keys.flatMap KeyOutput.statements).flatMap said
      = definition.keyGroups.flatMap told := by
    rw [List.flatMap_assoc]
    exact Checked.flatMap_of_mapM hkeys hkey
  have hcommented : comments.flatten.flatMap said = [] := by
    rw [List.flatMap_eq_nil_iff]
    intro statement hmem
    obtain ⟨written, hwritten, hstatement⟩ := List.mem_flatten.1 hmem
    obtain ⟨column, -, hcolumn⟩ := exists_of_mem_mapM hcomments hwritten
    exact List.flatMap_eq_nil_iff.1 (flatMap_commentOn hcomment hcolumn) statement hstatement
  rw [List.flatMap_cons, htable, List.flatMap_append, hfollowing, hcommented, List.append_nil,
    List.nil_append]

end

end Standard

/-! ### Keys -/

/-- **What a key adds to a table of PostgreSQL**: a clause for the primary key, an index after the
    table for any other, and a comment on it. -/
inductive Postgresql.Adds (table : String) (key : KeyGroup) : Standard.KeyOutput → Prop
  | primary {comment : List Statement} (hkind : key.kind = .primary)
      (hcomment : Standard.commentOn (.constraint (table ++ "_pkey") table) key.comment
        = .ok comment) :
      Adds table key ⟨[.primaryKey (indexColumns key) false ""], comment⟩
  | index {unique hash : Bool} {comment : List Statement} (hkind : key.kind ≠ .primary)
      (hcomment : Standard.commentOn (.index (indexName table key)) key.comment = .ok comment) :
      Adds table key
        ⟨[], .createIndex unique (indexName table key) table hash (indexColumns key) :: comment⟩

theorem Postgresql.keyOutput_eq_ok {table : String} {key : KeyGroup}
    {output : Standard.KeyOutput} (h : Postgresql.keyOutput table key = .ok output) :
    Postgresql.Adds table key output := by
  obtain ⟨-, -, h⟩ := bind_eq_ok_iff.1 h
  have hindex : ∀ {unique : Bool}, key.kind ≠ .primary →
      ((Postgresql.isHashed table key).bind fun hash =>
        (Standard.commentOn (.index (indexName table key)) key.comment).bind fun comment =>
          .ok { statements :=
            .createIndex unique (indexName table key) table hash (indexColumns key) :: comment })
        = Except.ok output →
      Postgresql.Adds table key output := by
    intro unique hkind h
    obtain ⟨hash, -, h⟩ := bind_eq_ok_iff.1 h
    obtain ⟨comment, hcomment, h⟩ := bind_eq_ok_iff.1 h
    obtain rfl := Except.ok.inj h
    exact .index hkind hcomment
  cases hkind : key.kind with
  | primary =>
    simp only [hkind] at h
    obtain ⟨-, h⟩ := check_eq_ok_iff.1 h
    obtain ⟨-, h⟩ := check_eq_ok_iff.1 h
    obtain ⟨comment, hcomment, h⟩ := bind_eq_ok_iff.1 h
    obtain rfl := Except.ok.inj h
    exact .primary hkind hcomment
  | unique =>
    simp only [hkind] at h
    exact hindex (by rw [hkind]; decide) h
  | index =>
    simp only [hkind] at h
    exact hindex (by rw [hkind]; decide) h

theorem Postgresql.keyOutput_counts {table : String} {key : KeyGroup}
    {output : Standard.KeyOutput} (h : Postgresql.keyOutput table key = .ok output) :
    output.Counts ((key.kind != .primary).toNat + (key.comment != "").toNat) := by
  cases Postgresql.keyOutput_eq_ok h with
  | primary hkind hcomment =>
    rw [hkind]
    refine Standard.counts_clause ?_ (AreQuoted.nil.append (Standard.commentOn_eq_ok hcomment))
    exact trivial
  | index hkind hcomment =>
    rw [bne_iff_ne.2 hkind]
    apply Standard.counts_statements
    exact .cons trivial (Standard.commentOn_eq_ok hcomment)

/-- **What a key adds to a table of standard SQL**: a constraint, which has no comment, or an index
    after the table and a comment on it. -/
inductive Generic.Adds (table : String) (key : KeyGroup) : Standard.KeyOutput → Prop
  | primary (hkind : key.kind = .primary) (hcomment : key.comment = "") :
      Adds table key ⟨[.primaryKey (indexColumns key) false ""], []⟩
  | unique (hkind : key.kind = .unique) (hcomment : key.comment = "") :
      Adds table key ⟨[.uniqueConstraint (indexName table key) (indexColumns key)], []⟩
  | index {comment : List Statement} (hkind : key.kind = .index)
      (hcomment : Standard.commentOn (.index (indexName table key)) key.comment = .ok comment) :
      Adds table key
        ⟨[], .createIndex false (indexName table key) table false (indexColumns key) :: comment⟩

theorem Generic.keyOutput_eq_ok {table : String} {key : KeyGroup}
    {output : Standard.KeyOutput} (h : Generic.keyOutput table key = .ok output) :
    Generic.Adds table key output := by
  obtain ⟨-, -, h⟩ := bind_eq_ok_iff.1 h
  obtain ⟨-, h⟩ := check_eq_ok_iff.1 h
  obtain ⟨-, h⟩ := check_eq_ok_iff.1 h
  cases hkind : key.kind with
  | index =>
    simp only [hkind] at h
    obtain ⟨comment, hcomment, h⟩ := bind_eq_ok_iff.1 h
    obtain rfl := Except.ok.inj h
    exact .index hkind hcomment
  | primary =>
    simp only [hkind] at h
    obtain ⟨hcomment, h⟩ := check_eq_ok_iff.1 h
    obtain rfl := Except.ok.inj h
    exact .primary hkind (by simpa using hcomment)
  | unique =>
    simp only [hkind] at h
    obtain ⟨hcomment, h⟩ := check_eq_ok_iff.1 h
    obtain rfl := Except.ok.inj h
    exact .unique hkind (by simpa using hcomment)

theorem Generic.keyOutput_counts {table : String} {key : KeyGroup}
    {output : Standard.KeyOutput} (h : Generic.keyOutput table key = .ok output) :
    output.Counts ((key.kind == .index).toNat + (key.comment != "").toNat) := by
  cases Generic.keyOutput_eq_ok h with
  | primary hkind hcomment =>
    rw [hkind, hcomment]
    refine Standard.counts_clause ?_ .nil
    exact trivial
  | unique hkind hcomment =>
    rw [hkind, hcomment]
    refine Standard.counts_clause ?_ .nil
    exact trivial
  | index hkind hcomment =>
    rw [hkind]
    apply Standard.counts_statements
    exact .cons trivial (Standard.commentOn_eq_ok hcomment)

/-! ### Counters -/

theorem read_of_extrasOf {column : Column} {extras : List Extra}
    (h : extrasOf column = .ok extras) : Extra.read column.extra = .ok extras := by
  rw [extrasOf] at h
  split at h
  · rename_i read hread
    obtain rfl := Except.ok.inj h
    exact hread
  · cases h
  · cases h

theorem countsUp_of_read {column : Column} {extras : List Extra}
    (h : Extra.read column.extra = .ok extras) :
    column.countsUp = Extra.autoIncrements extras := by
  rw [Column.countsUp, h]
  rfl

theorem extrasOf_eq_ok {column : Column} {extras : List Extra}
    (h : extrasOf column = .ok extras) : Extra.autoIncrements extras = column.countsUp :=
  (countsUp_of_read (read_of_extrasOf h)).symm

theorem Standard.plainExtras_eq_ok {column : Column} {extras : List Extra}
    (h : Standard.plainExtras column = .ok extras) :
    Extra.read column.extra = .ok extras ∧ Extra.updateExpression? extras = none := by
  obtain ⟨read, hread, h⟩ := bind_eq_ok_iff.1 h
  obtain ⟨hplain, h⟩ := check_eq_ok_iff.1 h
  obtain rfl := Except.ok.inj h
  exact ⟨read_of_extrasOf hread, Option.not_isSome_iff_eq_none.1 (by rw [hplain]; decide)⟩

/-- Statements that move the counters of some columns, one for each column that has one. -/
theorem countP_eq_ok {write : Column → Except Sql.Unsupported (List Statement)}
    {moves : Column → Bool} {columns : List Column} {statements : List Statement}
    (hwrite : ∀ column written, write column = .ok written →
      AreQuoted written (moves column).toNat)
    (h : ((columns.mapM write).bind fun written => .ok written.flatten) = Except.ok statements) :
    AreQuoted statements (columns.countP moves) := by
  obtain ⟨written, hwritten, h⟩ := bind_eq_ok_iff.1 h
  obtain rfl := Except.ok.inj h
  rw [← sum_toNat]
  exact AreQuoted.flatten hwrite hwritten

/-- One item for each that is asked for, and none for any other. -/
theorem flatMap_if {α β : Type} (p : α → Bool) (f : α → β) (xs : List α) :
    (xs.flatMap fun x => if p x then [f x] else []) = (xs.filter p).map f := by
  induction xs with
  | nil => rfl
  | cons x xs ih =>
    rw [List.flatMap_cons, ih, List.filter_cons]
    split <;> rfl

/-- A statement for each counter by its words, in order. -/
theorem Postgresql.reset_eq_ok_map {table : String} {columns : List Column}
    {statements : List Statement} (h : Postgresql.reset table columns = .ok statements) :
    statements
      = (columns.filter Column.countsUp).map fun column => .advance table column.name := by
  obtain ⟨written, hwritten, h⟩ := bind_eq_ok_iff.1 h
  obtain rfl := Except.ok.inj h
  rw [← flatMap_if, ← List.flatMap_id]
  refine Checked.flatMap_of_mapM hwritten ?_
  intro column moved hmoved
  obtain ⟨extras, hextras, hmoved⟩ := bind_eq_ok_iff.1 hmoved
  rw [extrasOf_eq_ok hextras] at hmoved
  cases hcounter : column.countsUp with
  | true =>
    rw [hcounter] at hmoved
    obtain ⟨-, -, hmoved⟩ := bind_eq_ok_iff.1 hmoved
    obtain ⟨-, -, hmoved⟩ := bind_eq_ok_iff.1 hmoved
    exact (Except.ok.inj hmoved).symm
  | false =>
    rw [hcounter] at hmoved
    exact (Except.ok.inj hmoved).symm

theorem Postgresql.reset_eq_ok {table : String} {columns : List Column}
    {statements : List Statement} (h : Postgresql.reset table columns = .ok statements) :
    AreQuoted statements (columns.countP Column.countsUp) := by
  rw [Postgresql.reset_eq_ok_map h]
  constructor
  · intro statement hmem
    obtain ⟨column, -, rfl⟩ := List.mem_map.1 hmem
    exact trivial
  · rw [List.length_map, List.countP_eq_length_filter]

/-- There is a greatest number exactly if some row holds one. -/
theorem Generic.isSome_greatest? (column : String) (rows : List Row) :
    (Generic.greatest? (Generic.columnNumbers column rows)).isSome
      = rows.any fun row => row.holdsNumber column := by
  have hgreatest : ∀ numbers, (Generic.greatest? numbers).isSome = !numbers.isEmpty := by
    intro numbers
    cases numbers with
    | nil => rfl
    | cons n rest => rfl
  rw [hgreatest]
  induction rows with
  | nil => rfl
  | cons row rows ih =>
    rw [List.any_cons, ← ih, Generic.columnNumbers, List.filterMap_cons, Row.holdsNumber]
    cases row.get? column with
    | none => rfl
    | some field =>
      obtain ⟨name, value⟩ := field
      cases value with
      | none => rfl
      | some text =>
        simp only [Option.bind_some]
        cases Text.signed64? (Text.trim text.toList) with
        | none => rfl
        | some n => rfl

theorem Generic.reset_eq_ok {table : String} {columns : List Column} {rows : List Row}
    {statements : List Statement} (h : Generic.reset table columns rows = .ok statements) :
    AreQuoted statements (columns.countP fun column =>
      column.countsUp && rows.any fun row => row.holdsNumber column.name) := by
  refine countP_eq_ok ?_ h
  intro column written hcolumn
  obtain ⟨extras, hextras, hcolumn⟩ := bind_eq_ok_iff.1 hcolumn
  rw [← extrasOf_eq_ok hextras, ← Generic.isSome_greatest?]
  cases hcounter : Extra.autoIncrements extras with
  | true =>
    simp only [hcounter, if_pos] at hcolumn
    cases hgreatest : Generic.greatest? (Generic.columnNumbers column.name rows) with
    | some n =>
      simp only [hgreatest] at hcolumn
      obtain rfl := Except.ok.inj hcolumn
      refine .cons ?_ .nil
      exact trivial
    | none =>
      simp only [hgreatest] at hcolumn
      obtain rfl := Except.ok.inj hcolumn
      exact .nil
  | false =>
    simp only [hcounter] at hcolumn
    obtain rfl := Except.ok.inj hcolumn
    exact .nil

/-! ### Rows -/

theorem Standard.flatMap_insert {α : Type} {said : Statement → List α}
    (hinsert : ∀ table fields, said (.insert table fields) = [])
    (hdefaults : ∀ table, said (.insertDefaults table) = []) {table : String} {rows : List Row}
    {statements : List Statement} (h : Standard.insert table rows = .ok statements) :
    statements.flatMap said = [] := by
  rw [List.flatMap_eq_nil_iff]
  intro statement hmem
  obtain ⟨row, -, hrow⟩ := exists_of_mem_mapM h hmem
  rw [Standard.insertRow] at hrow
  split at hrow
  · obtain rfl := Except.ok.inj hrow
    exact hdefaults table
  · obtain ⟨fields, -, rfl⟩ := map_eq_ok_iff.1 hrow
    exact hinsert table fields

theorem Standard.insert_eq_ok {table : String} {rows : List Row} {statements : List Statement}
    (h : Standard.insert table rows = .ok statements) : AreQuoted statements rows.length := by
  constructor
  · intro statement hmem
    obtain ⟨row, -, hrow⟩ := exists_of_mem_mapM h hmem
    rw [Standard.insertRow] at hrow
    split at hrow
    · obtain rfl := Except.ok.inj hrow
      exact trivial
    · obtain ⟨fields, -, rfl⟩ := map_eq_ok_iff.1 hrow
      exact trivial
  · rw [Standard.insert, Checked.mapM_eq_ok_iff] at h
    exact h.length_eq.symm

end Dialect
end SchemaDump
