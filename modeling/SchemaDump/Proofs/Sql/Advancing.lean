/-
  SchemaDump/Proofs/Sql/Advancing.lean
  ====================================
  **Advanced sequences read back.**

  A reader of the statements that let the sequence of a column go on after the
  column's greatest value, which passes over every other statement.  Such a
  statement names its column twice: the sequence is found by texts between quotes,
  of which the first is itself the name of a table, and the greatest value by the
  names of table and column.  It is read only if both mean the same column.
-/
import SchemaDump.Proofs.Sql.Gathering
import SchemaDump.Proofs.Sql.Keywords

namespace SchemaDump.Sql

/-- A column whose sequence goes on after its greatest value. -/
structure Advance where
  table : String
  column : String
deriving DecidableEq, Repr

/-! ### The reader -/

/-- The tokens after words of the language, if these come next. -/
def afterWords? (lexis : Lexis) (words : String) (tokens : List Token) : Option (List Token) :=
  tokens.dropPrefix? (significant (pieces lexis words))

namespace Reading

/-- The name that a text consists of. -/
def nameIn? (reading : Reading) (text : String) : Option String :=
  match significant (pieces reading.lexis text) with
  | [token] => reading.name? token
  | _ => none

def advance? (reading : Reading) (statement : List Piece) : Option Advance := do
  let ownerToken :: rest ← afterWords? reading.lexis "SELECT setval(pg_get_serial_sequence("
    (significant statement) | none
  let ownedToken :: rest ← afterWords? reading.lexis ", " rest | none
  let columnToken :: rest ← afterWords? reading.lexis "), COALESCE((SELECT MAX(" rest | none
  let tableToken :: rest ← afterWords? reading.lexis ") FROM " rest | none
  let [] ← afterWords? reading.lexis "), 0) + 1, false)" rest | none
  let owner ← reading.nameIn? (← literal? ownerToken)
  let owned ← literal? ownedToken
  let advance : Advance := ⟨← reading.name? tableToken, ← reading.name? columnToken⟩
  if owner == advance.table && owned == advance.column then some advance else none

/-- **The columns whose sequences a text lets go on**, in order. -/
def advances (reading : Reading) (text : String) : List Advance :=
  gathered reading.lexis reading.advance? text

end Reading

/-! ### Statements -/

section
variable {reading : Reading} {spelling : Spelling}

theorem seesTokens_advance? : SeesTokens reading.advance? := by
  intro first second h
  rw [Reading.advance?, h, Reading.advance?]

/-- What a statement lets go on. -/
def Statement.advances : Statement → List Advance
  | .advance table column => [⟨table, column⟩]
  | .createTable _ _ _ | .createIndex _ _ _ _ _ | .comment _ _ | .insert _ _ | .insertDefaults _
  | .delete _ | .truncate _ _ | .restart _ _ _ => []

theorem afterWords?_append (lexis : Lexis) (words : String) (rest : List Token) :
    afterWords? lexis words (significant (pieces lexis words) ++ rest) = some rest :=
  List.dropPrefix?_append_of_beq rest (beq_self_eq_true _)

theorem afterWords?_self (lexis : Lexis) (words : String) :
    afterWords? lexis words (significant (pieces lexis words)) = some [] := by
  have hrest := afterWords?_append lexis words []
  rwa [List.append_nil] at hrest

theorem Statement.advance_or_other (statement : Statement) :
    (∃ table column, statement = .advance table column)
      ∨ isKeyword "SELECT" statement.verb.toList = false ∧ statement.advances = [] := by
  cases statement with
  | advance table column => exact .inl ⟨table, column, rfl⟩
  | _ =>
    refine .inr ⟨?_, rfl⟩
    rw [Statement.verb]
    decide

theorem advance?_of_word {statement : List Piece} {word : List Char} {rest : List Token}
    (h : significant statement = .word word :: rest) (hword : isKeyword "SELECT" word = false) :
    reading.advance? statement = none := by
  have hselect : ∃ more, significant (pieces reading.lexis "SELECT setval(pg_get_serial_sequence(")
      = .word "SELECT".toList :: more := by
    rw [pieces_of_isPlain (by decide)]
    exact ⟨_, rfl⟩
  obtain ⟨more, hmore⟩ := hselect
  have hne : (Token.word word == .word "SELECT".toList) = false := by
    rw [beq_eq_false_iff_ne]
    rintro ⟨⟩
    revert hword
    decide
  have hpassed : afterWords? reading.lexis "SELECT setval(pg_get_serial_sequence("
      (significant statement) = none := by
    rw [afterWords?, h, hmore, List.dropPrefix?, hne, if_neg Bool.false_ne_true]
  unfold Reading.advance?
  rw [hpassed]
  rfl

/-- The name of a table, read from a text that consists of it. -/
theorem nameIn?_name (h : reading.Knows spelling) (name : String) :
    reading.nameIn? (spelling.name name) = some name := by
  obtain ⟨token, hspells, hname⟩ := h.name name
  have hread := significant_item hspells.item (hspells.read [] rfl)
  rw [List.append_nil] at hread
  rw [Reading.nameIn?, hread]
  exact hname

theorem advance?_of_significant {statement : List Piece}
    {ownerToken ownedToken columnToken tableToken : Token} {owner table column : String}
    (h : significant statement
      = significant (pieces reading.lexis "SELECT setval(pg_get_serial_sequence(") ++ ownerToken
        :: (significant (pieces reading.lexis ", ") ++ ownedToken
        :: (significant (pieces reading.lexis "), COALESCE((SELECT MAX(") ++ columnToken
        :: (significant (pieces reading.lexis ") FROM ") ++ tableToken
        :: significant (pieces reading.lexis "), 0) + 1, false)")))))
    (howner : literal? ownerToken = some owner) (hnamed : reading.nameIn? owner = some table)
    (howned : literal? ownedToken = some column)
    (hcolumn : reading.name? columnToken = some column)
    (htable : reading.name? tableToken = some table) :
    reading.advance? statement = some ⟨table, column⟩ := by
  rw [Reading.advance?, h]
  simp only [afterWords?_append, afterWords?_self, Option.bind_eq_bind, Option.bind_some, howner,
    hnamed, howned, hcolumn, htable, beq_self_eq_true, Bool.and_self, if_true]

/-- **An advanced sequence is read back from the statement written for it.** -/
theorem advances_advance (h : reading.Knows spelling) (table column : String) :
    reading.advances ((Statement.advance table column).render spelling) = [⟨table, column⟩] := by
  obtain ⟨ownerToken, howner, hownerText⟩ := h.literal (spelling.name table)
  obtain ⟨ownedToken, howned, hownedText⟩ := h.literal column
  obtain ⟨columnToken, hcolumn, hcolumnName⟩ := h.name column
  obtain ⟨tableToken, htable, htableName⟩ := h.name table
  have hopening : Yields reading.lexis "SELECT setval(pg_get_serial_sequence("
      (significant (pieces reading.lexis "SELECT setval(pg_get_serial_sequence(")) :=
    .words (by decide) (by decide)
  have hcomma : isPlain ", " = true := by decide
  have hgreatest : isPlain "), COALESCE((SELECT MAX(" = true := by decide
  have hfrom : isPlain ") FROM " = true := by decide
  have hend : isPlain "), 0) + 1, false)" = true := by decide
  have hbody := (((hopening.item howner hcomma (by decide) (by decide)).item howned hgreatest
    (by decide) (by decide)).item hcolumn hfrom (by decide) (by decide)).item htable hend
    (by decide) (by decide)
  have htokens := hbody.tokens
  simp only [List.append_assoc, List.cons_append] at htokens
  have hownerRead : literal? ownerToken = some (spelling.name table) := by
    rw [literal?, hownerText]
    rfl
  have hownedRead : literal? ownedToken = some column := by
    rw [literal?, hownedText]
    rfl
  have hread := advance?_of_significant htokens hownerRead (nameIn?_name h table) hownedRead
    hcolumnName htableName
  have hsplit := split_end hbody.inert []
  rw [List.append_nil] at hsplit
  rw [Reading.advances, gathered, Statement.render_advance, hsplit,
    List.filterMap_cons_some hread]
  rfl

/-- **A statement lets go on what it says, and no other statement moves a sequence.** -/
theorem advances_render (h : reading.Knows spelling) {statement : Statement}
    (hquoted : statement.IsQuoted) :
    reading.advances (statement.render spelling) = statement.advances := by
  rcases statement.advance_or_other with ⟨table, column, rfl⟩ | ⟨hother, hnone⟩
  · exact advances_advance h table column
  · rw [hnone]
    exact gathered_of_verb advance?_of_word (Statement.splitsInto_render h.isInert hquoted) hother

end

end SchemaDump.Sql
