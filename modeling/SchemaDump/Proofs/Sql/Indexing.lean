/-
  SchemaDump/Proofs/Sql/Indexing.lean
  ===================================
  **The names of created indexes read back.**

  A reader of the statements that create an index, unique or not, which passes
  over every other statement and takes the name of the index.  A statement that
  creates a table begins with the same word, so the second one tells them apart.
-/
import SchemaDump.Proofs.Sql.Gathering

namespace SchemaDump.Sql

/-! ### The reader -/

/-- The tokens after a keyword, if it comes next. -/
def afterKeyword? (keyword : String) : List Token → Option (List Token)
  | .word text :: rest => if isKeyword keyword text then some rest else none
  | _ => none

namespace Reading

/-- The name of the index that a statement creates. -/
def indexName? (reading : Reading) (statement : List Piece) : Option String := do
  let created ← afterKeyword? "CREATE" (significant statement)
  let index ← afterKeyword? "INDEX" ((afterKeyword? "UNIQUE" created).getD created)
  reading.name? (← index.head?)

/-- **The names of the indexes that a text creates**, in order. -/
def indexNames (reading : Reading) (text : String) : List String :=
  gathered reading.lexis reading.indexName? text

end Reading

/-! ### Statements -/

section
variable {reading : Reading} {spelling : Spelling}

theorem seesTokens_indexName? : SeesTokens reading.indexName? := by
  intro first second h
  rw [Reading.indexName?, h, Reading.indexName?]

/-- The index that a statement creates. -/
def Statement.indexNames : Statement → List String
  | .createIndex _ name _ _ _ => [name]
  | .createTable _ _ _ | .comment _ _ | .insert _ _ | .insertDefaults _ | .delete _ | .truncate _ _
  | .restart _ _ _ | .advance _ _ => []

theorem afterKeyword?_word {keyword : String} {text : List Char}
    (h : isKeyword keyword text = true) (rest : List Token) :
    afterKeyword? keyword (.word text :: rest) = some rest := by
  rw [afterKeyword?, if_pos h]

theorem indexName?_of_word {statement : List Piece} {word : List Char} {rest : List Token}
    (h : significant statement = .word word :: rest) (hword : isKeyword "CREATE" word = false) :
    reading.indexName? statement = none := by
  have hpassed : afterKeyword? "CREATE" (significant statement) = none := by
    rw [h, afterKeyword?, hword, if_neg Bool.false_ne_true]
  unfold Reading.indexName?
  rw [hpassed]
  rfl

theorem indexNames_createTable (hspelling : spelling.IsInert reading.lexis) {table : String}
    {clauses : List Clause} {charset : Option String}
    (h : (Statement.createTable table clauses charset).IsQuoted) :
    reading.indexNames ((Statement.createTable table clauses charset).render spelling) = [] := by
  have hsplit := Statement.splitsInto_render hspelling h
  have hplain : isPlain "CREATE TABLE " = true := by decide
  have hcreate := afterKeyword?_word (by decide : isKeyword "CREATE" "CREATE".toList = true)
  have hpassed : ∀ held,
      reading.indexName? (pieces reading.lexis "CREATE TABLE " ++ held) = none := by
    intro held
    have hsignificant : significant (pieces reading.lexis "CREATE TABLE " ++ held)
        = .word "CREATE".toList :: .word "TABLE".toList :: significant held := by
      rw [pieces_of_isPlain hplain]
      rfl
    unfold Reading.indexName?
    rw [hsignificant, hcreate]
    rfl
  have hopening : IsInert reading.lexis "CREATE TABLE " := .of_isPlain hplain _
  obtain ⟨rest, hrest⟩ : ∃ rest, (Statement.createTable table clauses charset).render spelling
      = "CREATE TABLE " ++ rest := by
    unfold Statement.render
    simp only [String.append_assoc, -String.reduceAppend]
    exact ⟨_, rfl⟩
  rw [hrest] at hsplit ⊢
  exact gathered_of_opening hopening hsplit hpassed

/-- How a statement that creates an index begins, up to the name. -/
def indexOpening (unique : Bool) : String :=
  "CREATE " ++ (if unique then "UNIQUE " else "") ++ "INDEX "

theorem isPlain_indexOpening (unique : Bool) : isPlain (indexOpening unique) = true := by
  cases unique <;> decide

theorem Statement.exists_render_createIndex_eq (spelling : Spelling) (unique : Bool)
    (name table : String) (hash : Bool) (columns : List IndexColumn) :
    ∃ rest, (Statement.createIndex unique name table hash columns).render spelling
      = indexOpening unique ++ spelling.name name ++ " " ++ rest := by
  have hon : " ON " = " " ++ "ON " := rfl
  unfold Statement.render indexOpening
  simp only [hon, String.append_assoc, -String.reduceAppend]
  exact ⟨_, rfl⟩

theorem indexName?_of_significant {statement : List Piece} (unique : Bool) {token : Token}
    {rest : List Token} {name : String}
    (h : significant statement = .word "CREATE".toList
      :: ((if unique then [.word "UNIQUE".toList] else [])
        ++ .word "INDEX".toList :: token :: rest))
    (hname : reading.name? token = some name) : reading.indexName? statement = some name := by
  have hcreate := afterKeyword?_word (by decide : isKeyword "CREATE" "CREATE".toList = true)
  have hunique := afterKeyword?_word (by decide : isKeyword "UNIQUE" "UNIQUE".toList = true)
  have hindex := afterKeyword?_word (by decide : isKeyword "INDEX" "INDEX".toList = true)
  have hplain : afterKeyword? "UNIQUE" (.word "INDEX".toList :: token :: rest) = none := rfl
  unfold Reading.indexName?
  rw [h, hcreate]
  cases unique with
  | true =>
    rw [if_pos rfl, List.singleton_append, Option.bind_eq_bind, Option.bind_some, hunique,
      Option.getD_some, hindex]
    exact hname
  | false =>
    rw [if_neg Bool.false_ne_true, List.nil_append, Option.bind_eq_bind, Option.bind_some, hplain,
      Option.getD_none, hindex]
    exact hname

/-- **The name of an index is read back from the statement that creates it.** -/
theorem indexNames_createIndex (h : reading.Knows spelling) (unique : Bool) (name table : String)
    (hash : Bool) (columns : List IndexColumn) :
    reading.indexNames ((Statement.createIndex unique name table hash columns).render spelling)
      = [name] := by
  obtain ⟨token, hspells, hname⟩ := h.name name
  have hquoted : (Statement.createIndex unique name table hash columns).IsQuoted := trivial
  have hsplit := Statement.splitsInto_render h.isInert hquoted
  obtain ⟨rest, hrest⟩ :=
    Statement.exists_render_createIndex_eq spelling unique name table hash columns
  have hstart : IsInert reading.lexis (indexOpening unique) :=
    .of_isPlain (isPlain_indexOpening unique) _
  have hnamed := hstart.append hspells.inert
  have hopening : IsInert reading.lexis (indexOpening unique ++ spelling.name name ++ " ") :=
    hnamed.append (.of_isPlain (by decide) _)
  have hread : ∀ held, reading.indexName?
      (pieces reading.lexis (indexOpening unique ++ spelling.name name ++ " ") ++ held)
        = some name := by
    intro held
    have hsignificant : significant
        (pieces reading.lexis (indexOpening unique ++ spelling.name name ++ " ") ++ held)
          = .word "CREATE".toList :: ((if unique then [.word "UNIQUE".toList] else [])
            ++ .word "INDEX".toList :: token :: significant held) := by
      rw [pieces_append hnamed.isClosed, pieces_append hstart.isClosed, List.append_assoc,
        List.append_assoc, ← significant_name hspells held,
        pieces_of_isPlain (isPlain_indexOpening unique)]
      cases unique <;> rfl
    exact indexName?_of_significant unique hsignificant hname
  rw [hrest] at hsplit ⊢
  exact gathered_of_opening hopening hsplit hread

/-- **A statement creates the index that it says, and no other statement creates one.** -/
theorem indexNames_render (h : reading.Knows spelling) {statement : Statement}
    (hquoted : statement.IsQuoted) :
    reading.indexNames (statement.render spelling) = statement.indexNames := by
  cases statement with
  | createTable table clauses charset => exact indexNames_createTable h.isInert hquoted
  | createIndex unique name table hash columns =>
    exact indexNames_createIndex h unique name table hash columns
  | _ =>
    refine gathered_of_verb indexName?_of_word (Statement.splitsInto_render h.isInert hquoted) ?_
    rw [Statement.verb]
    decide

end
end SchemaDump.Sql
