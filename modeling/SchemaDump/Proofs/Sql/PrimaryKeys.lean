/-
  SchemaDump/Proofs/Sql/PrimaryKeys.lean
  ======================================
  **The primary keys that a text declares.**

  A text declares a primary key wherever the words PRIMARY KEY stand side by side
  outside of quotes.  A name that could be taken for the first of them is quoted,
  and of all other parts of a statement only the clause of a primary key holds
  it, so a table is created with as many primary keys as it has clauses for one.

  All parts of a statement meet at blanks or symbols, so what each part declares
  can be told apart from the others (`Declares`) and added up.
-/
import SchemaDump.Proofs.Sql.ColumnLine
import SchemaDump.Proofs.Sql.Indexing

namespace SchemaDump.Sql

/-! ### The reader -/

/-- How often the words PRIMARY KEY stand side by side. -/
def primaryKeys : List Token → Nat
  | [] => 0
  | token :: rest =>
    if token.isWord "PRIMARY" && rest.head?.any (Token.isWord "KEY") then primaryKeys rest + 1
    else primaryKeys rest

/-- **How many primary keys a text declares.** -/
def declaredPrimaryKeys (lexis : Lexis) (text : String) : Nat :=
  primaryKeys (significant (pieces lexis text))

/-- A text that leaves no quotes open and declares so many primary keys, whatever comes after. -/
structure Declares (lexis : Lexis) (text : String) (count : Nat) : Prop where
  closed : IsClosed lexis text
  read : ∀ rest, primaryKeys (significant (pieces lexis text) ++ rest) = primaryKeys rest + count

theorem Declares.declaredPrimaryKeys_eq {lexis : Lexis} {text : String} {count : Nat}
    (h : Declares lexis text count) : declaredPrimaryKeys lexis text = count := by
  have hread := h.read []
  rw [List.append_nil] at hread
  rw [declaredPrimaryKeys, hread]
  exact Nat.zero_add count

theorem primaryKeys_append {first : List Token}
    (h : ∀ token ∈ first, token.isWord "PRIMARY" = false) (rest : List Token) :
    primaryKeys (first ++ rest) = primaryKeys rest := by
  induction first with
  | nil => rfl
  | cons token first ih =>
    rw [List.forall_mem_cons] at h
    rw [List.cons_append, primaryKeys, h.1, Bool.false_and, if_neg Bool.false_ne_true, ih h.2]

/-- A text without the word PRIMARY declares nothing. -/
theorem Lacks.declares {lexis : Lexis} {text : String} (h : Lacks lexis "PRIMARY" text) :
    Declares lexis text 0 :=
  ⟨h.closed, primaryKeys_append h.words⟩

/-! ### Texts one after another -/

section
variable {lexis : Lexis} {first second : String} {m n : Nat}

theorem Declares.of_significant_append (hfirst : Declares lexis first m)
    (hsecond : Declares lexis second n)
    (hmeet : significant (pieces lexis first ++ pieces lexis second)
      = significant (pieces lexis first) ++ significant (pieces lexis second)) :
    Declares lexis (first ++ second) (m + n) := by
  refine ⟨hfirst.closed.append hsecond.closed, ?_⟩
  intro rest
  rw [pieces_append hfirst.closed, hmeet, List.append_assoc, hfirst.read, hsecond.read]
  omega

/-- **What two texts declare adds up**, if the second begins apart from the first. -/
theorem Declares.append (hfirst : Declares lexis first m) (hsecond : Declares lexis second n)
    (hstart : StartsApart lexis second) : Declares lexis (first ++ second) (m + n) :=
  hfirst.of_significant_append hsecond (significant_append hstart _)

theorem Declares.append_of_endsApart (hfirst : Declares lexis first m)
    (hsecond : Declares lexis second n) (hend : EndsApart lexis first) :
    Declares lexis (first ++ second) (m + n) :=
  hfirst.of_significant_append hsecond (hend _)

/-- Whether words hold no quotes, and PRIMARY is none of them. -/
def isSilent (words : String) : Bool :=
  isPlain words && (significant (words.toList.map .char)).all fun token => !token.isWord "PRIMARY"

theorem isPlain_of_isSilent {words : String} (h : isSilent words = true) :
    isPlain words = true := by
  rw [isSilent, Bool.and_eq_true] at h
  exact h.1

/-- Words of the language declare nothing. -/
theorem Declares.words {words : String} (h : isSilent words = true) (lexis : Lexis) :
    Declares lexis words 0 :=
  (Lacks.of_words h lexis).declares

theorem Declares.empty (lexis : Lexis) : Declares lexis "" 0 := .words rfl lexis

/-- A text with words before it. -/
theorem Declares.after (hsecond : Declares lexis second n) {words : String}
    (hwords : isSilent words = true) (hend : endsAtGap words = true) :
    Declares lexis (words ++ second) n := by
  have happend := (Declares.words hwords lexis).append_of_endsApart hsecond
    (endsApart_words (isPlain_of_isSilent hwords) hend)
  rwa [Nat.zero_add] at happend

/-- A text with words after it. -/
theorem Declares.before (hfirst : Declares lexis first m) {words : String}
    (hwords : isSilent words = true) (hstart : startsAtGap words = true) :
    Declares lexis (first ++ words) m := by
  have hapart : StartsApart lexis words := by
    rw [← String.append_empty (s := words)]
    exact startsApart_append hstart ""
  exact hfirst.append (.words hwords lexis) hapart

/-- The end of a statement. -/
theorem Declares.ended (hfirst : Declares lexis first m) : Declares lexis (first ++ ";") m := by
  have hpieces : pieces lexis ";" = [.char ';'] := by cases lexis <;> rfl
  have hend : Lacks lexis "PRIMARY" ";" := by
    constructor
    · rw [IsClosed, hpieces]
      decide
    · rw [hpieces]
      decide
  apply hfirst.append hend.declares
  rw [StartsApart, hpieces]
  rfl

/-- Two texts with words between them. -/
theorem Declares.between (hfirst : Declares lexis first m) {words : String}
    (hwords : isSilent words = true) (hstart : startsAtGap words = true)
    (hend : endsAtGap words = true) (hsecond : Declares lexis second n) :
    Declares lexis (first ++ words ++ second) (m + n) :=
  (hfirst.before hwords hstart).append_of_endsApart hsecond
    (endsApart_append hfirst.closed (isPlain_of_isSilent hwords) hend)

end

/-! ### Parts of statements -/

section
variable {lexis : Lexis}

/-- Parts with words between neighbours. -/
theorem declares_joined {words : String} (hwords : isSilent words = true)
    (hstart : startsAtGap words = true) (hend : endsAtGap words = true) {α : Type}
    {text : α → String} {count : α → Nat} {items : List α}
    (h : ∀ item ∈ items, Declares lexis (text item) (count item)) :
    Declares lexis (Text.joined words (items.map text)) (items.map count).sum := by
  induction items with
  | nil => exact .empty lexis
  | cons first others ih =>
    rw [List.forall_mem_cons] at h
    cases others with
    | nil => exact h.1
    | cons second more => exact h.1.between hwords hstart hend (ih h.2)

theorem declares_joined_zero {words : String} (hwords : isSilent words = true)
    (hstart : startsAtGap words = true) (hend : endsAtGap words = true) {α : Type}
    {text : α → String} {items : List α} (h : ∀ item ∈ items, Declares lexis (text item) 0) :
    Declares lexis (Text.joined words (items.map text)) 0 := by
  have hzero : (items.map fun _ => 0).sum = 0 := by simp
  rw [← hzero]
  exact declares_joined hwords hstart hend h

theorem declares_parenthesized {α : Type} {text : α → String} {items : List α}
    (h : ∀ item ∈ items, Declares lexis (text item) 0) :
    Declares lexis (parenthesized (items.map text)) 0 := by
  have hitems : Declares lexis (Text.joined ", " (items.map text)) 0 :=
    declares_joined_zero (by decide) (by decide) (by decide) h
  exact (hitems.after (by decide) (by decide)).before (by decide) (by decide)

end

section
variable {reading : Reading} {spelling : Spelling}

theorem declares_name (h : reading.Knows spelling) (name : String) :
    Declares reading.lexis (spelling.name name) 0 :=
  (lacks_name h (by decide) name).declares

theorem declares_literal (h : reading.Knows spelling) (text : String) :
    Declares reading.lexis (spelling.literal text) 0 :=
  (lacks_literal h "PRIMARY" text).declares

theorem declares_renderColumns (h : reading.Knows spelling) (columns : List IndexColumn) :
    Declares reading.lexis (renderColumns spelling columns) 0 := by
  apply declares_parenthesized
  intro column _
  rw [IndexColumn.render]
  split
  · exact (declares_name h column.name).before (by decide) (by decide)
  · exact declares_name h column.name

theorem declares_renderKeyEnd (h : reading.Knows spelling) (hash : Bool) (comment : String) :
    Declares reading.lexis (renderKeyEnd spelling hash comment) 0
      ∧ StartsApart reading.lexis (renderKeyEnd spelling hash comment) := by
  have hcomment : Declares reading.lexis
        (if comment.toList.isEmpty then "" else " COMMENT " ++ spelling.literal comment) 0
      ∧ StartsApart reading.lexis
        (if comment.toList.isEmpty then "" else " COMMENT " ++ spelling.literal comment) := by
    split
    · exact ⟨.empty _, startsApart_empty _⟩
    · exact ⟨(declares_literal h comment).after (by decide) (by decide),
        startsApart_append (by decide) _⟩
  rw [renderKeyEnd]
  cases hash with
  | true =>
    have hmethod : Declares reading.lexis " USING HASH" 0 := .words (by decide) _
    exact ⟨hmethod.append hcomment.1 hcomment.2, startsApart_append (by decide) _⟩
  | false =>
    rw [if_neg Bool.false_ne_true, String.empty_append]
    exact hcomment

/-! ### Columns -/

/-- Texts of a default that are written as they are. -/
def Default.IsSilent (lexis : Lexis) : Default → Prop
  | .now precision => Declares lexis (currentTimestamp precision) 0
  | .literal _ => True
  | .bits text | .expression text => Declares lexis text 0

def ColumnOption.IsSilent (lexis : Lexis) : ColumnOption → Prop
  | .default value => value.IsSilent lexis
  | .onUpdate expression => Declares lexis expression 0
  | .notNull | .identity | .autoIncrement | .comment _ | .oneOf _ => True

/-- **No text of a clause that is written as it is declares a primary key.** -/
def Clause.IsSilent (lexis : Lexis) : Clause → Prop
  | .column definition => Declares lexis definition.type 0
    ∧ ∀ option ∈ definition.options, option.IsSilent lexis
  | .primaryKey _ _ _ | .key _ _ _ _ _ | .uniqueConstraint _ _ => True

theorem Default.declares (h : reading.Knows spelling) {value : Default}
    (hvalue : value.IsSilent reading.lexis) :
    Declares reading.lexis (value.render spelling) 0 := by
  cases value with
  | now precision => exact hvalue
  | literal text => exact declares_literal h text
  | bits text => exact hvalue
  | expression text =>
    exact (Declares.after hvalue (by decide) (by decide)).before (by decide) (by decide)

theorem ColumnOption.declares (h : reading.Knows spelling) (column : String)
    {option : ColumnOption} (hoption : option.IsSilent reading.lexis) :
    Declares reading.lexis (option.render spelling column) 0 := by
  cases option with
  | notNull => exact .words (by decide : isSilent " NOT NULL" = true) _
  | identity => exact .words (by decide : isSilent " GENERATED BY DEFAULT AS IDENTITY" = true) _
  | autoIncrement => exact .words (by decide : isSilent " AUTO_INCREMENT" = true) _
  | default value => exact (Default.declares h hoption).after (by decide) (by decide)
  | onUpdate expression => exact Declares.after hoption (by decide) (by decide)
  | comment text => exact (declares_literal h text).after (by decide) (by decide)
  | oneOf values =>
    have hname := (declares_name h column).after (by decide : isSilent " CHECK (" = true) (by decide)
    have hvalues : Declares reading.lexis (parenthesized (values.map spelling.literal)) 0 :=
      declares_parenthesized fun value _ => declares_literal h value
    have hlist := hname.between (by decide : isSilent " IN " = true) (by decide) (by decide) hvalues
    exact hlist.before (by decide) (by decide)

theorem declares_options (h : reading.Knows spelling) (column : String)
    {options : List ColumnOption} (hoptions : ∀ option ∈ options, option.IsSilent reading.lexis) :
    Declares reading.lexis (String.join (options.map (ColumnOption.render spelling column))) 0
      ∧ StartsApart reading.lexis
        (String.join (options.map (ColumnOption.render spelling column))) := by
  induction options with
  | nil => exact ⟨.empty _, startsApart_empty _⟩
  | cons option options ih =>
    rw [List.forall_mem_cons] at hoptions
    obtain ⟨hrest, hapart⟩ := ih hoptions.2
    rw [List.map_cons, String.join_cons]
    exact ⟨(ColumnOption.declares h column hoptions.1).append hrest hapart,
      option.startsApart _ spelling column _⟩

theorem ColumnClause.declares (h : reading.Knows spelling) {definition : ColumnClause}
    (hdefinition : (Clause.column definition).IsSilent reading.lexis) :
    Declares reading.lexis (definition.render spelling) 0 := by
  obtain ⟨htype, hoptions⟩ := hdefinition
  obtain ⟨hdeclares, hapart⟩ := declares_options h definition.name hoptions
  have hstart := (declares_name h definition.name).between (by decide : isSilent " " = true)
    (by decide) (by decide) htype
  exact hstart.append hdeclares hapart

/-! ### Clauses -/

def Clause.isPrimaryKey : Clause → Bool
  | .primaryKey _ _ _ => true
  | .column _ | .key _ _ _ _ _ | .uniqueConstraint _ _ => false

theorem declares_primaryKey (lexis : Lexis) : Declares lexis "PRIMARY KEY " 1 := by
  have hplain : isPlain "PRIMARY KEY " = true := by decide
  have hfirst : (Token.word "PRIMARY".toList).isWord "PRIMARY" = true := by decide
  have hsecond : (Token.word "KEY".toList).isWord "KEY" = true := by decide
  have hother : (Token.word "KEY".toList).isWord "PRIMARY" = false := by decide
  have hread : significant (pieces lexis "PRIMARY KEY ")
      = [.word "PRIMARY".toList, .word "KEY".toList] := by
    rw [pieces_of_isPlain hplain]
    rfl
  refine ⟨(IsInert.of_isPlain hplain lexis).isClosed, ?_⟩
  intro rest
  rw [hread]
  simp only [List.cons_append, List.nil_append, primaryKeys, List.head?_cons, Option.any_some,
    hfirst, hsecond, hother, Bool.and_true, Bool.false_and, if_true, if_neg Bool.false_ne_true]

/-- **A clause declares a primary key exactly if it is one.** -/
theorem Clause.declares (h : reading.Knows spelling) {clause : Clause}
    (hclause : clause.IsSilent reading.lexis) :
    Declares reading.lexis (clause.render spelling) clause.isPrimaryKey.toNat := by
  cases clause with
  | column definition => exact ColumnClause.declares h hclause
  | primaryKey columns hash comment =>
    obtain ⟨hend, hapart⟩ := declares_renderKeyEnd h hash comment
    have hkey := (declares_primaryKey reading.lexis).append_of_endsApart
      (declares_renderColumns h columns) (endsApart_words (by decide) (by decide))
    exact hkey.append hend hapart
  | key word name columns hash comment =>
    obtain ⟨hend, hapart⟩ := declares_renderKeyEnd h hash comment
    have hword : Declares reading.lexis word.render 0 := by
      cases word <;> exact .words (by decide) _
    have hgap : isSilent " " = true ∧ startsAtGap " " = true ∧ endsAtGap " " = true := by decide
    have hname := hword.between hgap.1 hgap.2.1 hgap.2.2 (declares_name h name)
    have hcolumns := hname.between hgap.1 hgap.2.1 hgap.2.2 (declares_renderColumns h columns)
    exact hcolumns.append hend hapart
  | uniqueConstraint name columns =>
    have hname := (declares_name h name).after (by decide : isSilent "CONSTRAINT " = true)
      (by decide)
    exact hname.between (by decide : isSilent " UNIQUE " = true) (by decide) (by decide)
      (declares_renderColumns h columns)

/-! ### Statements -/

theorem sum_map_isPrimaryKey (clauses : List Clause) :
    (clauses.map fun clause => clause.isPrimaryKey.toNat).sum
      = clauses.countP Clause.isPrimaryKey := by
  induction clauses with
  | nil => rfl
  | cons clause clauses ih =>
    rw [List.map_cons, List.sum_cons, ih, List.countP_cons]
    cases clause.isPrimaryKey <;> simp [Nat.add_comm]

/-- **A table is created with the primary keys of its clauses.** -/
theorem declares_createTable (h : reading.Knows spelling) (table : String) {clauses : List Clause}
    (hclauses : ∀ clause ∈ clauses, clause.IsSilent reading.lexis) {charset : Option String}
    (hcharset : ∀ text ∈ charset, isSilent text = true) :
    Declares reading.lexis ((Statement.createTable table clauses charset).render spelling)
      (clauses.countP Clause.isPrimaryKey) := by
  have hname := (declares_name h table).after (by decide : isSilent "CREATE TABLE " = true)
    (by decide)
  have hlines : Declares reading.lexis
      (Text.joined ",\n" (clauses.map fun clause => "  " ++ clause.render spelling))
      (clauses.map fun clause => clause.isPrimaryKey.toNat).sum := by
    apply declares_joined (by decide) (by decide) (by decide)
    intro clause hmem
    exact (Clause.declares h (hclauses clause hmem)).after (by decide) (by decide)
  rw [sum_map_isPrimaryKey] at hlines
  have htable := (hname.between (by decide : isSilent " (\n" = true) (by decide) (by decide)
    hlines).before (by decide : isSilent "\n)" = true) (by decide)
  rw [Nat.zero_add] at htable
  cases charset with
  | none => exact (htable.append (.empty _) (startsApart_empty _)).ended
  | some text =>
    have hset := (Declares.words (hcharset text rfl) reading.lexis).after
      (by decide : isSilent " DEFAULT CHARSET=" = true) (by decide)
    exact (htable.append hset (startsApart_append (by decide) _)).ended

theorem declares_createIndex (h : reading.Knows spelling) (unique : Bool) (name table : String)
    (hash : Bool) (columns : List IndexColumn) :
    Declares reading.lexis ((Statement.createIndex unique name table hash columns).render spelling)
      0 := by
  have hopening : isSilent (indexOpening unique) = true
      ∧ endsAtGap (indexOpening unique) = true := by
    cases unique <;> decide
  have hname := (declares_name h name).after hopening.1 hopening.2
  have htable := hname.between (by decide : isSilent " ON " = true) (by decide) (by decide)
    (declares_name h table)
  have hmethod : Declares reading.lexis (if hash then " USING hash" else "") 0
      ∧ StartsApart reading.lexis (if hash then " USING hash" else "") := by
    cases hash with
    | true =>
      exact ⟨.words (by decide) _,
        startsApart_append (by decide : startsAtGap " USING hash" = true) ""⟩
    | false => exact ⟨.empty _, startsApart_empty _⟩
  have hcolumns := (htable.append hmethod.1 hmethod.2).between (by decide : isSilent " " = true)
    (by decide) (by decide) (declares_renderColumns h columns)
  exact hcolumns.ended

theorem Subject.declares (h : reading.Knows spelling) (subject : Subject) :
    Declares reading.lexis (subject.render spelling) 0 := by
  cases subject with
  | column table name =>
    have hcolumn := (declares_name h table).after (by decide : isSilent "COLUMN " = true) (by decide)
    exact hcolumn.between (by decide : isSilent "." = true) (by decide) (by decide)
      (declares_name h name)
  | index name => exact (declares_name h name).after (by decide) (by decide)
  | constraint name table =>
    have hname := (declares_name h name).after (by decide : isSilent "CONSTRAINT " = true)
      (by decide)
    exact hname.between (by decide : isSilent " ON " = true) (by decide) (by decide)
      (declares_name h table)

theorem declares_comment (h : reading.Knows spelling) (subject : Subject) (text : String) :
    Declares reading.lexis ((Statement.comment subject text).render spelling) 0 := by
  have hsubject := (Subject.declares h subject).after (by decide : isSilent "COMMENT ON " = true)
    (by decide)
  exact (hsubject.between (by decide : isSilent " IS " = true) (by decide) (by decide)
    (declares_literal h text)).ended

/-- **A block declares what its first statement does**, if the others declare nothing. -/
theorem declares_block {lexis : Lexis} {first : Statement} {others : List Statement} {count : Nat}
    (hfirst : Declares lexis (first.render spelling) count)
    (hothers : ∀ statement ∈ others, Declares lexis (statement.render spelling) 0) :
    Declares lexis (block spelling (first :: others)) count := by
  have hrest : Declares lexis (Text.joined "\n" (others.map (Statement.render spelling))) 0 :=
    declares_joined_zero (by decide) (by decide) (by decide) hothers
  have hlines : Declares lexis
      (Text.joined "\n" ((first :: others).map (Statement.render spelling))) count := by
    cases others with
    | nil => exact hfirst
    | cons second more =>
      exact hfirst.between (by decide : isSilent "\n" = true) (by decide) (by decide) hrest
  exact hlines.before (by decide) (by decide)

end

end SchemaDump.Sql
