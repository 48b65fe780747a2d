/-
  SchemaDump/Proofs/Sql/Rendering.lean
  ====================================
  **Each statement is written as one statement.**

  Names and literals are quoted; what else stands in a statement are the words
  of the language and the few texts that are written as they are: types, the
  precision of a time, a character set.  Where these hold neither marks nor
  semicolons (`Statement.IsQuoted`), the text is one statement, whatever the
  names and literals are.
-/
import SchemaDump.Proofs.Checked
import SchemaDump.Proofs.Sql.Splitting

namespace SchemaDump.Sql

/-- A spelling whose names and literals end no statement. -/
structure Spelling.IsInert (spelling : Spelling) (lexis : Lexis) : Prop where
  name : ∀ name, Sql.IsInert lexis (spelling.name name)
  literal : ∀ text, Sql.IsInert lexis (spelling.literal text)

/-! ### Texts that are written as they are -/

def Default.IsQuoted : Default → Prop
  | .now precision => isPlain precision = true
  | .literal _ => True
  | .bits text | .expression text => isPlain text = true

def ColumnOption.IsQuoted : ColumnOption → Prop
  | .default value => value.IsQuoted
  | .onUpdate expression => isPlain expression = true
  | .notNull | .identity | .autoIncrement | .comment _ | .oneOf _ => True

def Clause.IsQuoted : Clause → Prop
  | .column definition =>
    isPlain definition.type = true ∧ ∀ option ∈ definition.options, option.IsQuoted
  | .primaryKey _ _ _ | .key _ _ _ _ _ | .uniqueConstraint _ _ => True

/-- **All texts of a statement are quoted or plain.** -/
def Statement.IsQuoted : Statement → Prop
  | .createTable _ clauses charset =>
    (∀ clause ∈ clauses, clause.IsQuoted) ∧ ∀ text ∈ charset, isPlain text = true
  | .createIndex _ _ _ _ _ | .comment _ _ | .insert _ _ | .insertDefaults _ | .delete _
  | .truncate _ _ | .restart _ _ _ | .advance _ _ => True

/-! ### Parts of statements -/

section
variable {spelling : Spelling} {lexis : Lexis}

/-- Words that are there or not. -/
theorem IsInert.ite {text : String} (h : isPlain text = true) (present : Bool) :
    IsInert lexis (if present then text else "") := by
  cases present with
  | true => exact .of_isPlain h lexis
  | false => exact .empty lexis

theorem isInert_currentTimestamp {precision : String} (h : isPlain precision = true) :
    IsInert lexis (currentTimestamp precision) := by
  rw [currentTimestamp]
  split
  · exact .of_isPlain (by decide) lexis
  · have hstart : IsInert lexis "CURRENT_TIMESTAMP(" := .of_isPlain (by decide) lexis
    have hend : IsInert lexis ")" := .of_isPlain (by decide) lexis
    exact (hstart.append (.of_isPlain h lexis)).append hend

theorem Default.isInert (hspelling : spelling.IsInert lexis) {value : Default}
    (h : value.IsQuoted) : Sql.IsInert lexis (value.render spelling) := by
  cases value with
  | now precision => exact isInert_currentTimestamp h
  | literal text => exact hspelling.literal text
  | bits text => exact .of_isPlain h lexis
  | expression text =>
    have hopen : Sql.IsInert lexis "(" := .of_isPlain (by decide) lexis
    exact (hopen.append (.of_isPlain h lexis)).append (.of_isPlain (by decide) lexis)

theorem isInert_literals (hspelling : spelling.IsInert lexis) (texts : List String) :
    IsInert lexis (parenthesized (texts.map spelling.literal)) :=
  .parenthesized fun text _ => hspelling.literal text

theorem ColumnOption.isInert (hspelling : spelling.IsInert lexis) (column : String)
    {option : ColumnOption} (h : option.IsQuoted) :
    Sql.IsInert lexis (option.render spelling column) := by
  cases option with
  | notNull => exact .of_isPlain (by decide : isPlain " NOT NULL" = true) lexis
  | identity =>
    exact .of_isPlain (by decide : isPlain " GENERATED BY DEFAULT AS IDENTITY" = true) lexis
  | autoIncrement => exact .of_isPlain (by decide : isPlain " AUTO_INCREMENT" = true) lexis
  | default value =>
    have hword : Sql.IsInert lexis " DEFAULT " := .of_isPlain (by decide) lexis
    exact hword.append (Default.isInert hspelling h)
  | onUpdate expression =>
    have hword : Sql.IsInert lexis " ON UPDATE " := .of_isPlain (by decide) lexis
    exact hword.append (.of_isPlain h lexis)
  | comment text =>
    have hword : Sql.IsInert lexis " COMMENT " := .of_isPlain (by decide) lexis
    exact hword.append (hspelling.literal text)
  | oneOf values =>
    have hstart : Sql.IsInert lexis " CHECK (" := .of_isPlain (by decide) lexis
    have hword : Sql.IsInert lexis " IN " := .of_isPlain (by decide) lexis
    have hend : Sql.IsInert lexis ")" := .of_isPlain (by decide) lexis
    have hname := (hstart.append (hspelling.name column)).append hword
    exact (hname.append (isInert_literals hspelling values)).append hend

theorem isInert_renderColumns (hspelling : spelling.IsInert lexis) (columns : List IndexColumn) :
    IsInert lexis (renderColumns spelling columns) := by
  apply IsInert.parenthesized
  intro column _
  rw [IndexColumn.render]
  split
  · exact (hspelling.name column.name).append (.of_isPlain (by decide) lexis)
  · exact hspelling.name column.name

theorem isInert_renderKeyEnd (hspelling : spelling.IsInert lexis) (hash : Bool)
    (comment : String) : IsInert lexis (renderKeyEnd spelling hash comment) := by
  have hmethod : IsInert lexis (if hash then " USING HASH" else "") := .ite (by decide) hash
  apply hmethod.append
  split
  · exact .empty lexis
  · have hword : IsInert lexis " COMMENT " := .of_isPlain (by decide) lexis
    exact hword.append (hspelling.literal comment)

theorem Clause.isInert (hspelling : spelling.IsInert lexis) {clause : Clause}
    (h : clause.IsQuoted) : Sql.IsInert lexis (clause.render spelling) := by
  have hgap : Sql.IsInert lexis " " := .of_isPlain (by decide) lexis
  cases clause with
  | column definition =>
    have htype := ((hspelling.name definition.name).append hgap).append (.of_isPlain h.1 lexis)
    apply htype.append
    apply IsInert.join
    intro option hoption
    exact ColumnOption.isInert hspelling definition.name (h.2 option hoption)
  | primaryKey columns hash comment =>
    have hword : Sql.IsInert lexis "PRIMARY KEY " := .of_isPlain (by decide) lexis
    exact (hword.append (isInert_renderColumns hspelling columns)).append
      (isInert_renderKeyEnd hspelling hash comment)
  | key word name columns hash comment =>
    have hword : Sql.IsInert lexis word.render := by
      cases word <;> exact .of_isPlain (by decide) lexis
    have hname := ((hword.append hgap).append (hspelling.name name)).append hgap
    exact (hname.append (isInert_renderColumns hspelling columns)).append
      (isInert_renderKeyEnd hspelling hash comment)
  | uniqueConstraint name columns =>
    have hword : Sql.IsInert lexis "CONSTRAINT " := .of_isPlain (by decide) lexis
    have hname := (hword.append (hspelling.name name)).append
      (.of_isPlain (by decide : isPlain " UNIQUE " = true) lexis)
    exact hname.append (isInert_renderColumns hspelling columns)

theorem isInert_clauses (hspelling : spelling.IsInert lexis) {clauses : List Clause}
    (h : ∀ clause ∈ clauses, clause.IsQuoted) :
    IsInert lexis (Text.joined ",\n" (clauses.map fun clause => "  " ++ clause.render spelling)) := by
  have hcomma : IsInert lexis ",\n" := .of_isPlain (by decide) lexis
  have hindent : IsInert lexis "  " := .of_isPlain (by decide) lexis
  apply hcomma.joined
  intro clause hclause
  exact hindent.append (Clause.isInert hspelling (h clause hclause))

theorem isInert_charset {charset : Option String} (h : ∀ text ∈ charset, isPlain text = true) :
    IsInert lexis (charset.elim "" (" DEFAULT CHARSET=" ++ ·)) := by
  cases charset with
  | none => exact .empty lexis
  | some text =>
    have hdefault : IsInert lexis " DEFAULT CHARSET=" := .of_isPlain (by decide) lexis
    exact hdefault.append (.of_isPlain (h text rfl) lexis)

theorem Subject.isInert (hspelling : spelling.IsInert lexis) (subject : Subject) :
    Sql.IsInert lexis (subject.render spelling) := by
  cases subject with
  | column table name =>
    have hword : Sql.IsInert lexis "COLUMN " := .of_isPlain (by decide) lexis
    have hdot : Sql.IsInert lexis "." := .of_isPlain (by decide) lexis
    exact ((hword.append (hspelling.name table)).append hdot).append (hspelling.name name)
  | index name =>
    have hword : Sql.IsInert lexis "INDEX " := .of_isPlain (by decide) lexis
    exact hword.append (hspelling.name name)
  | constraint name table =>
    have hword : Sql.IsInert lexis "CONSTRAINT " := .of_isPlain (by decide) lexis
    have hon : Sql.IsInert lexis " ON " := .of_isPlain (by decide) lexis
    exact ((hword.append (hspelling.name name)).append hon).append (hspelling.name table)

theorem isInert_renderValue (hspelling : spelling.IsInert lexis) (value : Option String) :
    IsInert lexis (renderValue spelling value) := by
  cases value with
  | some text => exact hspelling.literal text
  | none => exact .of_isPlain (by decide : isPlain "NULL" = true) lexis

theorem all_isPlainChar_decimal (n : Nat) : (Text.decimal n).all isPlainChar = true := by
  rw [List.all_eq_true]
  intro c hc
  exact isPlainChar_of_kind _ rfl (List.all_eq_true.1 (Text.all_isDigit_decimal n) c hc)

theorem isPlain_signedDecimal (n : Int) :
    isPlain (String.ofList (Text.signedDecimal n)) = true := by
  rw [isPlain, String.toList_ofList]
  cases n with
  | ofNat n => exact all_isPlainChar_decimal n
  | negSucc n => exact all_isPlainChar_decimal (n + 1)

theorem isInert_signedDecimal (n : Int) :
    IsInert lexis (String.ofList (Text.signedDecimal n)) :=
  .of_isPlain (isPlain_signedDecimal n) lexis

/-! ### Statements -/

theorem Statement.render_insertDefaults (spelling : Spelling) (table : String) :
    (Statement.insertDefaults table).render spelling
      = "INSERT INTO " ++ spelling.name table ++ " DEFAULT VALUES" ++ ";" := by
  rw [String.append_assoc]
  rfl

theorem Statement.render_advance (spelling : Spelling) (table column : String) :
    (Statement.advance table column).render spelling
      = "SELECT setval(pg_get_serial_sequence(" ++ spelling.literal (spelling.name table) ++ ", "
        ++ spelling.literal column ++ "), COALESCE((SELECT MAX(" ++ spelling.name column
        ++ ") FROM " ++ spelling.name table ++ "), 0) + 1, false)" ++ ";" := by
  rw [String.append_assoc]
  rfl

/-- **A statement whose own texts are plain is written as one statement.** -/
theorem Statement.splitsInto_render (hspelling : spelling.IsInert lexis) {statement : Statement}
    (h : statement.IsQuoted) : SplitsInto lexis (statement.render spelling) 1 := by
  have hgap : Sql.IsInert lexis " " := .of_isPlain (by decide) lexis
  have hname := hspelling.name
  cases statement with
  | createTable table clauses charset =>
    have hword : IsPhrase lexis "CREATE TABLE " := .of_isPlain (by decide) (by decide) lexis
    have hopen : Sql.IsInert lexis " (\n" := .of_isPlain (by decide) lexis
    have hclose : Sql.IsInert lexis "\n)" := .of_isPlain (by decide) lexis
    have htable := (hword.append (hname table)).append hopen
    have hclauses := (htable.append (isInert_clauses hspelling h.1)).append hclose
    exact .of_isPhrase (hclauses.append (isInert_charset h.2))
  | createIndex unique name table hash columns =>
    have hword : IsPhrase lexis "CREATE " := .of_isPlain (by decide) (by decide) lexis
    have hunique : Sql.IsInert lexis (if unique then "UNIQUE " else "") := .ite (by decide) unique
    have hindex : Sql.IsInert lexis "INDEX " := .of_isPlain (by decide) lexis
    have hon : Sql.IsInert lexis " ON " := .of_isPlain (by decide) lexis
    have hmethod : Sql.IsInert lexis (if hash then " USING hash" else "") := .ite (by decide) hash
    have hnamed := ((hword.append hunique).append hindex).append (hname name)
    have htable := ((hnamed.append hon).append (hname table)).append hmethod
    exact .of_isPhrase ((htable.append hgap).append (isInert_renderColumns hspelling columns))
  | comment subject text =>
    have hword : IsPhrase lexis "COMMENT ON " := .of_isPlain (by decide) (by decide) lexis
    have his : Sql.IsInert lexis " IS " := .of_isPlain (by decide) lexis
    have hsubject := (hword.append (Subject.isInert hspelling subject)).append his
    exact .of_isPhrase (hsubject.append (hspelling.literal text))
  | insert table fields =>
    have hword : IsPhrase lexis "INSERT INTO " := .of_isPlain (by decide) (by decide) lexis
    have hvalues : Sql.IsInert lexis " VALUES " := .of_isPlain (by decide) lexis
    have hfields : Sql.IsInert lexis
        (parenthesized (fields.map fun field => spelling.name field.name)) :=
      .parenthesized fun field _ => hname field.name
    have hwritten : Sql.IsInert lexis
        (parenthesized (fields.map fun field => renderValue spelling field.value)) :=
      .parenthesized fun field _ => isInert_renderValue hspelling field.value
    have htable := ((hword.append (hname table)).append hgap).append hfields
    exact .of_isPhrase ((htable.append hvalues).append hwritten)
  | insertDefaults table =>
    have hword : IsPhrase lexis "INSERT INTO " := .of_isPlain (by decide) (by decide) lexis
    have hend : Sql.IsInert lexis " DEFAULT VALUES" := .of_isPlain (by decide) lexis
    rw [Statement.render_insertDefaults]
    exact .of_isPhrase ((hword.append (hname table)).append hend)
  | delete table =>
    have hword : IsPhrase lexis "DELETE FROM " := .of_isPlain (by decide) (by decide) lexis
    exact .of_isPhrase (hword.append (hname table))
  | truncate table restartIdentity =>
    have hword : IsPhrase lexis "TRUNCATE TABLE " := .of_isPlain (by decide) (by decide) lexis
    have hidentity : Sql.IsInert lexis (if restartIdentity then " RESTART IDENTITY" else "") :=
      .ite (by decide) restartIdentity
    exact .of_isPhrase ((hword.append (hname table)).append hidentity)
  | restart table column next =>
    have hword : IsPhrase lexis "ALTER TABLE " := .of_isPlain (by decide) (by decide) lexis
    have hcolumn : Sql.IsInert lexis " ALTER COLUMN " := .of_isPlain (by decide) lexis
    have hwith : Sql.IsInert lexis " RESTART WITH " := .of_isPlain (by decide) lexis
    have htable := ((hword.append (hname table)).append hcolumn).append (hname column)
    exact .of_isPhrase ((htable.append hwith).append (isInert_signedDecimal next))
  | advance table column =>
    have hword : IsPhrase lexis "SELECT setval(pg_get_serial_sequence(" :=
      .of_isPlain (by decide) (by decide) lexis
    have hcomma : Sql.IsInert lexis ", " := .of_isPlain (by decide) lexis
    have hmax : Sql.IsInert lexis "), COALESCE((SELECT MAX(" := .of_isPlain (by decide) lexis
    have hfrom : Sql.IsInert lexis ") FROM " := .of_isPlain (by decide) lexis
    have hend : Sql.IsInert lexis "), 0) + 1, false)" := .of_isPlain (by decide) lexis
    rw [Statement.render_advance]
    have hsequence := ((hword.append (hspelling.literal (spelling.name table))).append
      hcomma).append (hspelling.literal column)
    have hgreatest := ((hsequence.append hmax).append (hname column)).append hfrom
    exact .of_isPhrase ((hgreatest.append (hname table)).append hend)

/-! ### Lists of statements -/

/-- Statements that are all quoted, and how many they are. -/
structure AreQuoted (statements : List Statement) (count : Nat) : Prop where
  quoted : ∀ statement ∈ statements, statement.IsQuoted
  length : statements.length = count

namespace AreQuoted

theorem nil : AreQuoted [] 0 := by
  refine ⟨?_, rfl⟩
  intro statement hmem
  cases hmem

theorem cons {statement : Statement} {statements : List Statement} {count : Nat}
    (h : statement.IsQuoted) (hrest : AreQuoted statements count) :
    AreQuoted (statement :: statements) (1 + count) := by
  constructor
  · rw [List.forall_mem_cons]
    exact ⟨h, hrest.quoted⟩
  · rw [List.length_cons, hrest.length, Nat.add_comm]

theorem append {first second : List Statement} {m n : Nat} (hfirst : AreQuoted first m)
    (hsecond : AreQuoted second n) : AreQuoted (first ++ second) (m + n) := by
  constructor
  · intro statement hmem
    rcases List.mem_append.1 hmem with hmem | hmem
    · exact hfirst.quoted statement hmem
    · exact hsecond.quoted statement hmem
  · rw [List.length_append, hfirst.length, hsecond.length]

/-- What is written for each item of a list, put together. -/
theorem flatMap {α β ε : Type} {write : α → Except ε β} {statements : β → List Statement}
    {count : α → Nat} {items : List α} {written : List β}
    (hwrite : ∀ item output, write item = .ok output → AreQuoted (statements output) (count item))
    (h : items.mapM write = .ok written) :
    AreQuoted (written.flatMap statements) (items.map count).sum := by
  constructor
  · intro statement hmem
    obtain ⟨output, houtput, hstatement⟩ := List.mem_flatMap.1 hmem
    obtain ⟨item, -, hitem⟩ := Checked.exists_of_mem_mapM h houtput
    exact (hwrite item output hitem).quoted statement hstatement
  · rw [List.length_flatMap]
    exact Checked.sum_map_of_mapM h fun item output hitem => (hwrite item output hitem).length

theorem flatten {α ε : Type} {write : α → Except ε (List Statement)} {count : α → Nat}
    {items : List α} {written : List (List Statement)}
    (hwrite : ∀ item statements, write item = .ok statements → AreQuoted statements (count item))
    (h : items.mapM write = .ok written) : AreQuoted written.flatten (items.map count).sum := by
  rw [← List.flatMap_id]
  exact flatMap hwrite h

theorem splitsInto_block (hspelling : spelling.IsInert lexis) {statements : List Statement}
    {count : Nat} (h : AreQuoted statements count) :
    SplitsInto lexis (block spelling statements) count := by
  rw [← h.length]
  exact .block fun statement hmem => Statement.splitsInto_render hspelling (h.quoted statement hmem)

end AreQuoted

end

end SchemaDump.Sql
