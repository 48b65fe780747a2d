/-
  SchemaDump/Proofs/Dialect/PrimaryKey.lean
  =========================================
  **How many primary keys a table gets.**

  Key parts are gathered by the exact name of their key, but two names, each in
  any case, make a key the primary one.  So there is one primary key for each way
  in which its name is spelled (`countP_primary_collect`), and a table has more
  than one if the parts of the primary key are not all spelled alike.  Every
  dialect takes each of these groups for a primary key of its own, and the text
  that creates the table declares all of them.
-/
import SchemaDump.Proofs.Dialect.Insertion
import SchemaDump.Proofs.Dialect.Statements
import SchemaDump.Proofs.Sql.PrimaryKeys
import SchemaDump.Proofs.Table.Key

namespace SchemaDump

open Checked (bind_eq_ok_iff check_eq_ok_iff exists_of_mem_mapM map_eq_ok_iff)

/-! ### Groups -/

namespace KeyGroup

/-- Whether a name is one for the primary key. -/
def namesPrimary (name : String) : Bool :=
  Text.sameLetters name "PRIMARY" || Text.sameLetters name "PRI"

/-- The ways in which the name of the primary key is spelled, each once. -/
def primarySpellings (parts : List KeyPart) : List String :=
  (parts.map KeyPart.keyName).eraseDups.filter namesPrimary

/-- Parts of the primary key that all spell its name alike. -/
def SpellPrimaryAlike (parts : List KeyPart) : Prop :=
  ∀ part ∈ parts, ∀ other ∈ parts, namesPrimary part.keyName = true →
    namesPrimary other.keyName = true → part.keyName = other.keyName

theorem kind_eq_primary (group : KeyGroup) :
    (group.kind == .primary) = namesPrimary group.name := by
  rw [kind, namesPrimary]
  split
  · rename_i h
    exact h.symm
  · rename_i h
    rw [Bool.not_eq_true] at h
    split <;> exact h.symm

/-- **There is one primary group for each spelling of its name.** -/
theorem countP_primary_collect (parts : List KeyPart) :
    (collect parts).countP (·.kind == .primary) = (primarySpellings parts).length := by
  rw [primarySpellings, ← List.countP_eq_length_filter, ← map_name_collect, List.countP_map]
  apply List.countP_congr
  intro group _
  rw [kind_eq_primary]
  rfl

theorem mem_primarySpellings {parts : List KeyPart} {name : String} :
    name ∈ primarySpellings parts
      ↔ (∃ part ∈ parts, part.keyName = name) ∧ namesPrimary name = true := by
  rw [primarySpellings, List.mem_filter, List.mem_eraseDups, List.mem_map]

theorem length_le_one_iff_of_nodup {α : Type} {items : List α} (h : items.Nodup) :
    items.length ≤ 1 ↔ ∀ a ∈ items, ∀ b ∈ items, a = b := by
  cases items with
  | nil => simp
  | cons first others =>
    cases others with
    | nil => simp
    | cons second more =>
      have hne : first ≠ second := by
        rintro rfl
        simp at h
      refine iff_of_false (by simp) ?_
      intro hall
      exact hne (hall first (by simp) second (by simp))

/-- **At most one group is primary exactly if its name is spelled in one way.** -/
theorem length_primarySpellings_le_one_iff (parts : List KeyPart) :
    (primarySpellings parts).length ≤ 1 ↔ SpellPrimaryAlike parts := by
  have hnodup : (primarySpellings parts).Nodup := (nodup_eraseDups _).filter _
  rw [length_le_one_iff_of_nodup hnodup]
  constructor
  · intro h part hpart other hother hprimary hotherPrimary
    exact h _ (mem_primarySpellings.2 ⟨⟨part, hpart, rfl⟩, hprimary⟩) _
      (mem_primarySpellings.2 ⟨⟨other, hother, rfl⟩, hotherPrimary⟩)
  · intro h name hname next hnext
    obtain ⟨⟨part, hpart, rfl⟩, hprimary⟩ := mem_primarySpellings.1 hname
    obtain ⟨⟨other, hother, rfl⟩, hotherPrimary⟩ := mem_primarySpellings.1 hnext
    exact h part hpart other hother hprimary hotherPrimary

end KeyGroup

namespace Dialect

open Sql (Clause ColumnOption DataType Declares Default Lexis Reading Spelling Statement
  declaredPrimaryKeys)

/-! ### Types and times -/

/-- The word PRIMARY has a letter Y, as numbers and times have not. -/
theorem hasY_primary : 'y' ∈ (Text.lower "PRIMARY").toList := by decide

theorem declares_currentTimestamp {text precision : String}
    (h : Sql.currentTime? text = some precision) (lexis : Lexis) :
    Declares lexis (Sql.currentTimestamp precision) 0 :=
  (Sql.lacks_currentTimestamp hasY_primary h lexis).declares

theorem declares_standard (type : DataType) (lexis : Lexis) : Declares lexis type.standard 0 :=
  (Sql.lacks_standard hasY_primary (by decide) type lexis).declares

theorem declares_postgresql (type : DataType) (lexis : Lexis) :
    Declares lexis type.postgresql 0 :=
  (Sql.lacks_postgresql hasY_primary (by decide) type lexis).declares

/-! ### Standard dialects -/

namespace Standard

theorem defaultOf_isSilent {column : Column} {type : ColumnType} {extras : List Extra}
    {text : String} {value : Default} (h : defaultOf column type extras text = .ok value)
    (lexis : Lexis) : value.IsSilent lexis := by
  rcases defaultOf_eq_ok h with ⟨precision, hprecision, rfl⟩ | ⟨held, rfl⟩
  · exact declares_currentTimestamp hprecision lexis
  · exact trivial

/-- No text of a column outside MySQL declares a primary key. -/
theorem columnClause_isSilent {spell : DataType → String}
    {map : Column → ColumnType → List Extra → Except Sql.Unsupported DataType}
    {counter : List ColumnOption} {lexis : Lexis} (hspell : ∀ type, Declares lexis (spell type) 0)
    (hcounter : ∀ option ∈ counter, option.IsSilent lexis) {column : Column}
    {clause : Sql.ColumnClause} (h : columnClause spell map counter column = .ok clause) :
    (Clause.column clause).IsSilent lexis := by
  refine ⟨?_, ?_⟩
  · obtain ⟨target, htarget⟩ := exists_type_of_columnClause h
    rw [htarget]
    exact hspell target
  · intro option hmem
    rcases option_of_columnClause h hmem with rfl | hmem | ⟨type, extras, text, value, hvalue, rfl⟩ |
      ⟨values, rfl⟩
    · exact trivial
    · exact hcounter option hmem
    · exact defaultOf_isSilent hvalue lexis
    · exact trivial

/-- What is known of the output for a key: its clauses for a primary key, and that the statements
    after the table declare none. -/
structure KeyOutput.DeclaresPrimary (output : KeyOutput) (spelling : Spelling) (lexis : Lexis)
    (count : Nat) : Prop where
  clauses : ∀ clause ∈ output.clauses, clause.IsSilent lexis
  count : output.clauses.countP Clause.isPrimaryKey = count
  statements : ∀ statement ∈ output.statements, Declares lexis (statement.render spelling) 0

theorem declares_of_mem_commentOn {reading : Reading} {spelling : Spelling}
    (hreading : reading.Knows spelling) {subject : Sql.Subject} {comment : String}
    {statements : List Statement} (h : commentOn subject comment = .ok statements) :
    ∀ statement ∈ statements, Declares reading.lexis (statement.render spelling) 0 := by
  rw [commentOn] at h
  split at h
  · obtain rfl := Except.ok.inj h
    exact List.forall_mem_nil _
  · obtain ⟨text, -, rfl⟩ := map_eq_ok_iff.1 h
    rw [List.forall_mem_singleton]
    exact Sql.declares_comment hreading subject text

/-- **A table is created with a primary key for each primary group.** -/
theorem declares_create {reading : Reading} {spelling : Spelling}
    (hreading : reading.Knows spelling)
    {columnClause : Column → Except Sql.Unsupported Sql.ColumnClause}
    {keyOutput : String → KeyGroup → Except Sql.Unsupported KeyOutput} {table : String}
    {definition : TableStructure} {statements : List Statement}
    (hcolumn : ∀ column clause, columnClause column = .ok clause →
      (Clause.column clause).IsSilent reading.lexis)
    (hkey : ∀ key output, keyOutput table key = .ok output →
      output.DeclaresPrimary spelling reading.lexis (key.kind == .primary).toNat)
    (h : create columnClause keyOutput table definition = .ok statements) :
    Declares reading.lexis (Sql.block spelling statements)
      (definition.keyGroups.countP (·.kind == .primary)) := by
  obtain ⟨columns, hcolumns, h⟩ := bind_eq_ok_iff.1 h
  obtain ⟨keys, hkeys, h⟩ := bind_eq_ok_iff.1 h
  obtain ⟨comments, hcomments, h⟩ := bind_eq_ok_iff.1 h
  obtain rfl := Except.ok.inj h
  have hclauses : ∀ clause ∈ columns.map Clause.column ++ keys.flatMap KeyOutput.clauses,
      clause.IsSilent reading.lexis :=
    forall_mem_clauses hcolumns hkeys hcolumn fun key output hcreated =>
      (hkey key output hcreated).clauses
  have hcount : (columns.map Clause.column ++ keys.flatMap KeyOutput.clauses).countP
      Clause.isPrimaryKey = definition.keyGroups.countP (·.kind == .primary) := by
    have hnone : (columns.map Clause.column).countP Clause.isPrimaryKey = 0 := by
      rw [List.countP_map, List.countP_eq_zero]
      exact fun column _ => Bool.false_ne_true
    rw [List.countP_append, hnone, Nat.zero_add, List.countP_flatMap, ← sum_toNat]
    exact Checked.sum_map_of_mapM hkeys fun key output hcreated => (hkey key output hcreated).count
  have hothers : ∀ statement ∈ keys.flatMap KeyOutput.statements ++ comments.flatten,
      Declares reading.lexis (statement.render spelling) 0 := by
    intro statement hmem
    rcases List.mem_append.1 hmem with hmem | hmem
    · obtain ⟨output, houtput, hstatement⟩ := List.mem_flatMap.1 hmem
      obtain ⟨key, -, hcreated⟩ := exists_of_mem_mapM hkeys houtput
      exact (hkey key output hcreated).statements statement hstatement
    · obtain ⟨written, hwritten, hstatement⟩ := List.mem_flatten.1 hmem
      obtain ⟨column, -, hcreated⟩ := exists_of_mem_mapM hcomments hwritten
      exact declares_of_mem_commentOn hreading hcreated statement hstatement
  rw [← hcount]
  have hcharset : ∀ text ∈ (none : Option String), Sql.isSilent text = true := by
    intro text hmem
    cases hmem
  exact Sql.declares_block (Sql.declares_createTable hreading table hclauses hcharset) hothers

end Standard

theorem Generic.keyOutput_declaresPrimary {table : String} {key : KeyGroup}
    {output : Standard.KeyOutput} (h : Generic.keyOutput table key = .ok output) :
    output.DeclaresPrimary Generic.spelling .standard (key.kind == .primary).toNat := by
  cases Generic.keyOutput_eq_ok h with
  | primary hkind hcomment =>
    rw [hkind]
    exact ⟨List.forall_mem_singleton.2 trivial, rfl, List.forall_mem_nil _⟩
  | unique hkind hcomment =>
    rw [hkind]
    exact ⟨List.forall_mem_singleton.2 trivial, rfl, List.forall_mem_nil _⟩
  | index hkind hcomment =>
    rw [hkind]
    refine ⟨List.forall_mem_nil _, rfl, ?_⟩
    rw [List.forall_mem_cons]
    exact ⟨Sql.declares_createIndex Generic.reading_knows false _ _ false _,
      Standard.declares_of_mem_commentOn Generic.reading_knows hcomment⟩

theorem Postgresql.keyOutput_declaresPrimary {table : String} {key : KeyGroup}
    {output : Standard.KeyOutput} (h : Postgresql.keyOutput table key = .ok output) :
    output.DeclaresPrimary Postgresql.spelling .standard (key.kind == .primary).toNat := by
  cases Postgresql.keyOutput_eq_ok h with
  | primary hkind hcomment =>
    rw [hkind]
    exact ⟨List.forall_mem_singleton.2 trivial, rfl,
      Standard.declares_of_mem_commentOn Postgresql.reading_knows hcomment⟩
  | index hkind hcomment =>
    rw [beq_false_of_ne hkind]
    refine ⟨List.forall_mem_nil _, rfl, ?_⟩
    rw [List.forall_mem_cons]
    exact ⟨Sql.declares_createIndex Postgresql.reading_knows _ _ _ _ _,
      Standard.declares_of_mem_commentOn Postgresql.reading_knows hcomment⟩

theorem Generic.declares_create {options : FormatOptions} {table : TableStructure} {sql : String}
    (h : (Generic.formatter options).create table = .ok sql) :
    Declares .standard sql (table.keyGroups.countP (·.kind == .primary)) := by
  obtain ⟨statements, hstatements, h⟩ := bind_eq_ok_iff.1 h
  obtain rfl := Except.ok.inj h
  have hcounter : ∀ option ∈ [ColumnOption.identity], option.IsSilent .standard := by
    rw [List.forall_mem_singleton]
    exact trivial
  exact Standard.declares_create Generic.reading_knows
    (fun column clause =>
      Standard.columnClause_isSilent (fun type => declares_standard type .standard) hcounter)
    (fun key output => Generic.keyOutput_declaresPrimary) hstatements

theorem Postgresql.declares_create {options : FormatOptions} {table : TableStructure}
    {sql : String} (h : (Postgresql.formatter options).create table = .ok sql) :
    Declares .standard sql (table.keyGroups.countP (·.kind == .primary)) := by
  obtain ⟨statements, hstatements, h⟩ := bind_eq_ok_iff.1 h
  obtain rfl := Except.ok.inj h
  exact Standard.declares_create Postgresql.reading_knows
    (fun column clause =>
      Standard.columnClause_isSilent (fun type => declares_postgresql type .standard)
        (List.forall_mem_nil _))
    (fun key output => Postgresql.keyOutput_declaresPrimary) hstatements

/-! ### MySQL -/

theorem startsApart_blanks {blanks : List Char} (h : Text.AreBlank blanks) (lexis : Lexis) :
    Sql.StartsApart lexis (String.ofList blanks) := by
  have hplain : Sql.isPlain (String.ofList blanks) = true := by
    rw [Sql.isPlain, String.toList_ofList, List.all_eq_true]
    exact fun c hc => Sql.isPlainChar_of_kind Text.isBlank rfl (h c hc)
  rw [Sql.StartsApart, Sql.pieces_of_isPlain hplain, String.toList_ofList]
  cases blanks with
  | nil => rfl
  | cons blank more =>
    exact Sql.standsApart_char (Sql.isWordChar_of_isBlank (h blank List.mem_cons_self)) _

/-- Zeros and ones are escaped nowhere. -/
theorem escapedLiteral_bits {bits : List Char} (h : ∀ bit ∈ bits, bit = '0' ∨ bit = '1') :
    (Sql.escapedLiteral (String.ofList bits)).toList = '\'' :: (bits ++ ['\'']) := by
  have hescaped : bits.flatMap Sql.escapedChar = bits := by
    induction bits with
    | nil => rfl
    | cons bit bits ih =>
      rw [List.forall_mem_cons] at h
      rw [List.flatMap_cons, ih h.2]
      rcases h.1 with rfl | rfl <;> rfl
  rw [Sql.escapedLiteral, String.toList_ofList, String.toList_ofList, hescaped]
  rfl

/-- Bit literals declare nothing: a letter, a literal right after it, and blanks. -/
theorem declares_bits {text : String} (h : Sql.isBitLiteral text = true) :
    Declares .mysql text 0 := by
  obtain ⟨hbefore, hletter, hbits, hafter, htext⟩ := Sql.isBitLiteral_iff.1 h
  rename_i before bits after letter
  have hsplit : text = String.ofList (before ++ [letter])
      ++ Sql.escapedLiteral (String.ofList bits) ++ String.ofList after := by
    apply String.toList_injective
    rw [htext, String.toList_append, String.toList_append, String.toList_ofList,
      String.toList_ofList, escapedLiteral_bits hbits]
    simp
  have hstart : ∀ c ∈ before ++ [letter],
      (Text.isBlank c || c == 'b' || c == 'B') = true := by
    intro c hc
    rcases List.mem_append.1 hc with hc | hc
    · rw [hbefore c hc, Bool.true_or, Bool.true_or]
    · rw [List.mem_singleton.1 hc]
      rcases hletter with rfl | rfl <;> rfl
  have hletters : Sql.Lacks .mysql "PRIMARY" (String.ofList (before ++ [letter])) := by
    apply Sql.lacks_of_kind (fun c => Text.isBlank c || c == 'b' || c == 'B') rfl rfl hasY_primary
    rw [String.toList_ofList]
    exact hstart
  have hblanks : Sql.Lacks .mysql "PRIMARY" (String.ofList after) := by
    apply Sql.lacks_of_kind Text.isBlank rfl rfl hasY_primary
    rw [String.toList_ofList]
    exact hafter
  have hplain : Sql.isPlain (String.ofList (before ++ [letter])) = true := by
    rw [Sql.isPlain, String.toList_ofList, List.all_eq_true]
    exact fun c hc => Sql.isPlainChar_of_kind
      (fun c => Text.isBlank c || c == 'b' || c == 'B') rfl (hstart c hc)
  have hliteral : Sql.Lacks .mysql "PRIMARY" (Sql.escapedLiteral (String.ofList bits)) :=
    Sql.lacks_literal Mysql.reading_knows "PRIMARY" _
  -- the quotes of the literal end the word of the letter, though no gap stands between them
  have hquoted : ∀ word more,
      Sql.tokens (Sql.pieces .mysql (Sql.escapedLiteral (String.ofList bits)))
        ≠ .word word :: more := by
    intro word more hword
    rw [Sql.pieces_escapedLiteral] at hword
    cases hword
  rw [hsplit]
  refine ((hletters.of_significant_append hliteral ?_).append hblanks
    (startsApart_blanks hafter .mysql)).declares
  rw [Sql.pieces_of_isPlain hplain, String.toList_ofList, Sql.significant,
    Sql.tokens_chars_append hquoted, List.filter_append]
  rfl

/-- **What MySQL takes over unchanged from a column declares no primary key**: its type, a default
    that is an expression, and the expression that updates it. -/
structure Mysql.TakesOverSilent (column : Column) : Prop where
  type : Declares .mysql column.type 0
  default : ∀ extras text, extrasOf column = .ok extras → Extra.generatesDefault extras = true →
    column.defaultValue = some text → Declares .mysql text 0
  update : ∀ extras expression, extrasOf column = .ok extras →
    Extra.updateExpression? extras = some expression → Declares .mysql expression 0

theorem Mysql.defaultOf_isSilent {column : Column} (hcolumn : Mysql.TakesOverSilent column)
    {extras : List Extra} (hextras : extrasOf column = .ok extras) {text : String}
    (htext : column.defaultValue = some text) :
    (Mysql.defaultOf column extras text).IsSilent .mysql := by
  rw [Mysql.defaultOf]
  split
  · rename_i precision hprecision
    split at hprecision
    · exact declares_currentTimestamp hprecision .mysql
    · cases hprecision
  · split
    · rename_i hgenerated
      exact hcolumn.default extras text hextras hgenerated htext
    · split
      · rename_i hbits
        rw [Bool.and_eq_true] at hbits
        exact declares_bits hbits.2
      · exact trivial

theorem Mysql.columnClause_isSilent {column : Column} (hcolumn : Mysql.TakesOverSilent column)
    {clause : Sql.ColumnClause} (h : Mysql.columnClause column = .ok clause) :
    (Clause.column clause).IsSilent .mysql := by
  obtain ⟨extras, hextras, h⟩ := bind_eq_ok_iff.1 h
  obtain rfl := Except.ok.inj h
  refine ⟨hcolumn.type, ?_⟩
  intro option hmem
  simp only [List.mem_append] at hmem
  rcases hmem with (((hmem | hmem) | hmem) | hmem) | hmem
  · split at hmem
    · cases hmem
    · rw [List.mem_singleton.1 hmem]
      exact trivial
  · cases htext : column.defaultValue with
    | none =>
      rw [htext] at hmem
      cases hmem
    | some text =>
      rw [htext] at hmem
      rw [List.mem_singleton.1 hmem]
      exact Mysql.defaultOf_isSilent hcolumn hextras htext
  · split at hmem
    · rw [List.mem_singleton.1 hmem]
      exact trivial
    · cases hmem
  · cases hupdate : Extra.updateExpression? extras with
    | none =>
      rw [hupdate] at hmem
      cases hmem
    | some expression =>
      rw [hupdate] at hmem
      rw [List.mem_singleton.1 hmem]
      exact hcolumn.update extras expression hextras hupdate
  · split at hmem
    · cases hmem
    · rw [List.mem_singleton.1 hmem]
      exact trivial

/-- Only a primary key has no word of its own. -/
theorem Mysql.isNone_of_keyForm? {kind : KeyKind} {method : String} {word : Option Sql.KeyWord}
    {hash : Bool} (h : Mysql.keyForm? kind method = some (word, hash)) :
    word.isNone = (kind == .primary) := by
  cases kind <;>
  · simp only [Mysql.keyForm?] at h
    split_ifs at h <;>
    · obtain ⟨rfl, -⟩ := Prod.mk.inj (Option.some.inj h)
      rfl

/-- A key is a clause, and one for a primary key exactly if the key is primary. -/
theorem Mysql.keyClause_eq_ok {table : String} {key : KeyGroup} {clause : Clause}
    (h : Mysql.keyClause table key = .ok clause) :
    clause.isPrimaryKey = (key.kind == .primary) ∧ clause.IsSilent .mysql := by
  obtain ⟨-, -, h⟩ := bind_eq_ok_iff.1 h
  split at h
  · rename_i hash hform
    obtain rfl := Except.ok.inj h
    exact ⟨Mysql.isNone_of_keyForm? hform, trivial⟩
  · rename_i word hash hform
    obtain rfl := Except.ok.inj h
    exact ⟨Mysql.isNone_of_keyForm? hform, trivial⟩
  · cases h

/-- **What MySQL creates a table with.** -/
theorem Mysql.create_eq_ok {table : String} {definition : TableStructure} {statement : Statement}
    (h : Mysql.create table definition = .ok statement) :
    ∃ clauses, statement = .createTable table clauses (some "utf8mb4")
      ∧ clauses.countP Clause.isPrimaryKey = definition.keyGroups.countP (·.kind == .primary)
      ∧ ((∀ column ∈ definition.columns, Mysql.TakesOverSilent column) →
        ∀ clause ∈ clauses, clause.IsSilent .mysql) := by
  obtain ⟨columns, hcolumns, h⟩ := bind_eq_ok_iff.1 h
  obtain ⟨keys, hkeys, h⟩ := bind_eq_ok_iff.1 h
  refine ⟨columns.map Clause.column ++ keys, (Except.ok.inj h).symm, ?_, ?_⟩
  · have hnone : (columns.map Clause.column).countP Clause.isPrimaryKey = 0 := by
      rw [List.countP_map, List.countP_eq_zero]
      exact fun column _ => Bool.false_ne_true
    rw [List.countP_append, hnone, Nat.zero_add, ← sum_toNat, ← sum_toNat]
    apply Checked.sum_map_of_mapM hkeys
    intro key clause hcreated
    rw [(Mysql.keyClause_eq_ok hcreated).1]
  · intro hsilent clause hmem
    rcases List.mem_append.1 hmem with hmem | hmem
    · obtain ⟨written, hwritten, rfl⟩ := List.mem_map.1 hmem
      obtain ⟨column, hcolumn, hcreated⟩ := exists_of_mem_mapM hcolumns hwritten
      exact Mysql.columnClause_isSilent (hsilent column hcolumn) hcreated
    · obtain ⟨key, -, hcreated⟩ := exists_of_mem_mapM hkeys hmem
      exact (Mysql.keyClause_eq_ok hcreated).2

theorem Mysql.declares_create {options : FormatOptions} {table : TableStructure} {sql : String}
    (h : (Mysql.formatter options).create table = .ok sql)
    (hsilent : ∀ column ∈ table.columns, Mysql.TakesOverSilent column) :
    Declares .mysql sql (table.keyGroups.countP (·.kind == .primary)) := by
  obtain ⟨statement, hstatement, h⟩ := bind_eq_ok_iff.1 h
  obtain rfl := Except.ok.inj h
  obtain ⟨clauses, rfl, hcount, hclauses⟩ := Mysql.create_eq_ok hstatement
  rw [← hcount]
  have hcharset : ∀ text ∈ some "utf8mb4", Sql.isSilent text = true := by
    intro text hmem
    rw [← Option.some.inj hmem]
    decide
  exact Sql.declares_block
    (Sql.declares_createTable Mysql.reading_knows _ (hclauses hsilent) hcharset)
    (List.forall_mem_nil _)

/-! ### All dialects -/

/-- **A table gets a primary key for each spelling of its name.**  So it gets at most one exactly if
    all parts of the primary key spell it alike.  The texts of all dialects declare these primary
    keys and no others, that of MySQL as far as no text that it takes over declares one. -/
theorem declaredPrimaryKeys_create (options : FormatOptions) (table : TableStructure) :
    table.keyGroups.countP (·.kind == .primary) = (KeyGroup.primarySpellings table.keys).length
      ∧ (table.keyGroups.countP (·.kind == .primary) ≤ 1
        ↔ KeyGroup.SpellPrimaryAlike table.keys)
      ∧ (∀ sql, (Generic.formatter options).create table = .ok sql →
        declaredPrimaryKeys .standard sql = (KeyGroup.primarySpellings table.keys).length)
      ∧ (∀ sql, (Postgresql.formatter options).create table = .ok sql →
        declaredPrimaryKeys .standard sql = (KeyGroup.primarySpellings table.keys).length)
      ∧ ∀ sql, (Mysql.formatter options).create table = .ok sql →
        (∃ clauses, sql = Sql.block Mysql.spelling
              [.createTable (Table.liveName table.name options.tablePrefix) clauses
                (some "utf8mb4")]
            ∧ clauses.countP Clause.isPrimaryKey = (KeyGroup.primarySpellings table.keys).length)
          ∧ ((∀ column ∈ table.columns, Mysql.TakesOverSilent column) →
            declaredPrimaryKeys .mysql sql = (KeyGroup.primarySpellings table.keys).length) := by
  have hcount : table.keyGroups.countP (·.kind == .primary)
      = (KeyGroup.primarySpellings table.keys).length :=
    KeyGroup.countP_primary_collect table.keys
  rw [hcount]
  refine ⟨rfl, KeyGroup.length_primarySpellings_le_one_iff table.keys, ?_, ?_, ?_⟩
  · intro sql h
    rw [← hcount]
    exact (Generic.declares_create h).declaredPrimaryKeys_eq
  · intro sql h
    rw [← hcount]
    exact (Postgresql.declares_create h).declaredPrimaryKeys_eq
  · intro sql h
    rw [← hcount]
    refine ⟨?_, ?_⟩
    · obtain ⟨statement, hstatement, hsql⟩ := bind_eq_ok_iff.1 h
      obtain ⟨clauses, rfl, hclauses, -⟩ := Mysql.create_eq_ok hstatement
      exact ⟨clauses, (Except.ok.inj hsql).symm, hclauses⟩
    · intro hsilent
      exact (Mysql.declares_create h hsilent).declaredPrimaryKeys_eq

/-- A counter that is the primary key, and a name that is unique. -/
def accounts : TableStructure :=
  ⟨"#__accounts",
    [⟨"id", "int(11)", false, "PRI", none, "auto_increment", ""⟩,
      ⟨"name", "varchar(64)", false, "UNI", none, "", "primary key of old"⟩],
    [⟨"#__accounts", false, "PRIMARY", 1, "id", "A", "", "BTREE", ""⟩,
      ⟨"#__accounts", false, "name", 1, "name", "A", "", "BTREE", ""⟩]⟩

/-- Columns without a default and without an expression that updates them. -/
theorem Mysql.takesOverSilent_of_plain {column : Column} (htype : Sql.isSilent column.type = true)
    (hdefault : column.defaultValue = none) {extras : List Extra}
    (hextras : extrasOf column = .ok extras) (hupdate : Extra.updateExpression? extras = none) :
    Mysql.TakesOverSilent column := by
  refine ⟨.words htype .mysql, ?_, ?_⟩
  · intro other text _ _ htext
    rw [hdefault] at htext
    cases htext
  · intro other expression hother hexpression
    obtain rfl := Except.ok.inj (hextras.symm.trans hother)
    rw [hupdate] at hexpression
    cases hexpression

theorem takesOverSilent_accounts : ∀ column ∈ accounts.columns, Mysql.TakesOverSilent column := by
  simp only [accounts, List.forall_mem_cons]
  refine ⟨?_, ?_, List.forall_mem_nil _⟩
  · exact Mysql.takesOverSilent_of_plain (by decide) rfl
      (by decide +kernel : extrasOf _ = .ok [.autoIncrement]) rfl
  · exact Mysql.takesOverSilent_of_plain (by decide) rfl
      (by decide +kernel : extrasOf _ = .ok []) rfl

theorem declaredPrimaryKeys_accounts :
    (∃ sql, (Generic.formatter {}).create accounts = .ok sql
        ∧ declaredPrimaryKeys .standard sql = 1)
      ∧ (∃ sql, (Postgresql.formatter {}).create accounts = .ok sql
        ∧ declaredPrimaryKeys .standard sql = 1)
      ∧ (∀ column ∈ accounts.columns, Mysql.TakesOverSilent column)
      ∧ ∃ sql, (Mysql.formatter {}).create accounts = .ok sql
        ∧ declaredPrimaryKeys .mysql sql = 1 := by
  have hgeneric : ((Generic.formatter {}).create accounts).isOk = true := by decide +kernel
  have hpostgresql : ((Postgresql.formatter {}).create accounts).isOk = true := by decide +kernel
  have hmysql : ((Mysql.formatter {}).create accounts).isOk = true := by decide +kernel
  have hone : (KeyGroup.primarySpellings accounts.keys).length = 1 := by decide
  obtain ⟨-, -, hstandard, hpostgres, hmy⟩ := declaredPrimaryKeys_create {} accounts
  rw [hone] at hstandard hpostgres hmy
  obtain ⟨standard, hcreated⟩ := Checked.exists_of_isOk hgeneric
  obtain ⟨postgres, hcreatedToo⟩ := Checked.exists_of_isOk hpostgresql
  obtain ⟨own, hcreatedOwn⟩ := Checked.exists_of_isOk hmysql
  exact ⟨⟨standard, hcreated, hstandard standard hcreated⟩,
    ⟨postgres, hcreatedToo, hpostgres postgres hcreatedToo⟩, takesOverSilent_accounts,
    own, hcreatedOwn, (hmy own hcreatedOwn).2 takesOverSilent_accounts⟩

/-- A primary key over two columns, whose parts spell its name in both ways. -/
def memberships : TableStructure :=
  ⟨"#__memberships",
    [⟨"person", "int(11)", false, "PRI", none, "", ""⟩,
      ⟨"club", "int(11)", false, "PRI", none, "", ""⟩],
    [⟨"#__memberships", false, "PRIMARY", 1, "person", "A", "", "BTREE", ""⟩,
      ⟨"#__memberships", false, "PRI", 2, "club", "A", "", "BTREE", ""⟩]⟩

/-- All dialects give the table two primary keys. -/
theorem declaredPrimaryKeys_memberships :
    (KeyGroup.collect memberships.keys).countP (·.kind == .primary) = 2
      ∧ (∃ sql, (Generic.formatter {}).create memberships = .ok sql
        ∧ declaredPrimaryKeys .standard sql = 2)
      ∧ (∃ sql, (Postgresql.formatter {}).create memberships = .ok sql
        ∧ declaredPrimaryKeys .standard sql = 2)
      ∧ ∃ sql, (Mysql.formatter {}).create memberships = .ok sql
        ∧ declaredPrimaryKeys .mysql sql = 2 := by
  have hgeneric : ((Generic.formatter {}).create memberships).isOk = true := by decide +kernel
  have hpostgresql : ((Postgresql.formatter {}).create memberships).isOk = true := by
    decide +kernel
  have hmysql : ((Mysql.formatter {}).create memberships).isOk = true := by decide +kernel
  have hcount : memberships.keyGroups.countP (·.kind == .primary) = 2 := by
    rw [TableStructure.keyGroups, KeyGroup.countP_primary_collect]
    decide
  have hsilent : ∀ column ∈ memberships.columns, Mysql.TakesOverSilent column := by
    simp only [memberships, List.forall_mem_cons]
    refine ⟨?_, ?_, List.forall_mem_nil _⟩ <;>
    · exact Mysql.takesOverSilent_of_plain (by decide) rfl
        (by decide +kernel : extrasOf _ = .ok []) rfl
  obtain ⟨standard, hstandard⟩ := Checked.exists_of_isOk hgeneric
  obtain ⟨postgres, hpostgres⟩ := Checked.exists_of_isOk hpostgresql
  obtain ⟨own, hown⟩ := Checked.exists_of_isOk hmysql
  refine ⟨hcount, ⟨standard, hstandard, ?_⟩, ⟨postgres, hpostgres, ?_⟩, own, hown, ?_⟩
  · rw [(Generic.declares_create hstandard).declaredPrimaryKeys_eq, hcount]
  · rw [(Postgresql.declares_create hpostgres).declaredPrimaryKeys_eq, hcount]
  · rw [(Mysql.declares_create hown hsilent).declaredPrimaryKeys_eq, hcount]

end Dialect
end SchemaDump
