/-
  SchemaDump/Proofs/Sql/Gathering.lean
  ====================================
  **What a reader gathers from SQL text.**

  A text is split at its semicolons; of each statement a reader takes what it
  looks for, or passes the statement over.  A reader that sees nothing but tokens
  gathers from texts one after another what it gathers from each
  (`gathered_append`), and from a block what it gathers from each statement.

  Most statements are told apart by how they begin.  If an opening decides what
  the reader takes, the rest of the statement need not be looked at
  (`gathered_of_opening`), whatever quotes and names stand in it.
-/
import SchemaDump.Proofs.Sql.Insertion

namespace SchemaDump.Sql

/-! ### Blanks between statements -/

theorem isWordChar_of_isBlank {c : Char} (h : Text.isBlank c = true) : isWordChar c = false := by
  rw [Bool.eq_false_iff]
  intro hword
  delta isWordChar startsPlainName Char.isAlpha Char.isUpper Char.isLower Char.isDigit at hword
  simp only [Bool.or_eq_true, Bool.and_eq_true, decide_eq_true_eq, beq_iff_eq, ge_iff_le,
    UInt32.le_iff_toNat_le] at hword
  simp only [Text.isBlank, Bool.or_eq_true, Bool.and_eq_true, decide_eq_true_eq, beq_iff_eq] at h
  have hcode : (65 ≤ c.toNat ∧ c.toNat ≤ 90) ∨ (97 ≤ c.toNat ∧ c.toNat ≤ 122) ∨ c.toNat = 95
      ∨ (48 ≤ c.toNat ∧ c.toNat ≤ 57) := by
    rcases hword with ((hupper | hlower) | rfl) | hdigit
    · exact .inl hupper
    · exact .inr (.inl hlower)
    · exact .inr (.inr (.inl rfl))
    · exact .inr (.inr (.inr hdigit))
  omega

theorem significant_blank {piece : Piece} (h : piece.isBlank = true) (rest : List Piece) :
    significant (piece :: rest) = significant rest := by
  cases piece with
  | char c =>
    have hjoin : tokens (.char c :: rest) = .blank :: tokens rest := by
      have hfold : tokens (.char c :: rest) = joinPiece (.char c) (tokens rest) := rfl
      have hblank : Text.isBlank c = true := h
      simp only [hfold, joinPiece, isWordChar_of_isBlank h, if_neg Bool.false_ne_true,
        if_pos hblank]
    rw [significant, hjoin]
    rfl
  | quoted mark text => cases h
  | unclosed => cases h

theorem significant_blanks {blanks : List Piece} (h : ∀ piece ∈ blanks, piece.isBlank = true)
    (statement : List Piece) : significant (blanks ++ statement) = significant statement := by
  induction blanks with
  | nil => rfl
  | cons piece blanks ih =>
    rw [List.forall_mem_cons] at h
    rw [List.cons_append, significant_blank h.1, ih h.2]

/-! ### Readers of statements -/

section
variable {α : Type} {lexis : Lexis} {read : List Piece → Option α}

/-- A reader to which statements with the same tokens are the same. -/
def SeesTokens (read : List Piece → Option α) : Prop :=
  ∀ first second, significant first = significant second → read first = read second

/-- What a reader takes from the statements of a text, in their order. -/
def gathered (lexis : Lexis) (read : List Piece → Option α) (text : String) : List α :=
  (split (pieces lexis text)).1.filterMap read

theorem filterMap_continued (hread : SeesTokens read) {blanks : List Piece}
    (h : ∀ piece ∈ blanks, piece.isBlank = true) (statements : List (List Piece)) :
    (continued blanks statements).filterMap read = statements.filterMap read := by
  cases statements with
  | nil => rfl
  | cons first others =>
    have hfirst : read (blanks ++ first) = read first :=
      hread _ _ (significant_blanks h first)
    rw [continued, List.filterMap_cons, List.filterMap_cons, hfirst]

/-- **Texts one after another are read one by one.** -/
theorem gathered_append (hread : SeesTokens read) {first : String} {count : Nat}
    (hfirst : SplitsInto lexis first count) (second : String) :
    gathered lexis read (first ++ second)
      = gathered lexis read first ++ gathered lexis read second := by
  rw [gathered, pieces_append hfirst.closed, split_append, List.filterMap_append,
    filterMap_continued hread hfirst.rest]
  rfl

theorem gathered_of_splitsInto_zero {text : String} (h : SplitsInto lexis text 0) :
    gathered lexis read text = [] := by
  rw [gathered, List.length_eq_zero_iff.1 h.statements]
  rfl

theorem gathered_join (hread : SeesTokens read) {texts : List String}
    (h : ∀ text ∈ texts, ∃ count, SplitsInto lexis text count) :
    gathered lexis read (String.join texts) = texts.flatMap (gathered lexis read) := by
  induction texts with
  | nil => exact gathered_of_splitsInto_zero (.empty lexis)
  | cons first others ih =>
    rw [List.forall_mem_cons] at h
    obtain ⟨count, hfirst⟩ := h.1
    rw [String.join_cons, gathered_append hread hfirst, ih h.2, List.flatMap_cons]

/-- **A block is read statement by statement.** -/
theorem gathered_block (hread : SeesTokens read) {spelling : Spelling}
    {statements : List Statement}
    (h : ∀ statement ∈ statements, SplitsInto lexis (statement.render spelling) 1) :
    gathered lexis read (block spelling statements)
      = statements.flatMap fun statement => gathered lexis read (statement.render spelling) := by
  have hend : gathered lexis read "\n\n" = [] :=
    gathered_of_splitsInto_zero (.of_blankOnly rfl lexis)
  have hbreak : SplitsInto lexis "\n" 0 := .of_blankOnly rfl lexis
  rw [block]
  by_cases hempty : statements.isEmpty = true
  · rw [if_pos hempty, List.isEmpty_iff.1 hempty]
    exact gathered_of_splitsInto_zero (.empty lexis)
  rw [if_neg hempty]
  induction statements with
  | nil => exact absurd rfl hempty
  | cons first others ih =>
    rw [List.forall_mem_cons] at h
    cases others with
    | nil =>
      rw [List.map_singleton, Text.joined, gathered_append hread h.1, hend,
        List.flatMap_singleton, List.append_nil]
    | cons second more =>
      have hrest := ih h.2 Bool.false_ne_true
      rw [List.map_cons] at hrest
      rw [List.map_cons, List.map_cons, Text.joined, String.append_assoc,
        gathered_append hread (h.1.append hbreak), gathered_append hread h.1,
        gathered_of_splitsInto_zero hbreak, hrest, List.append_nil]
      rfl

/-- A reader that knows what the statements of a spelling say. -/
theorem AreQuoted.gathered_block (hread : SeesTokens read) {spelling : Spelling}
    (hspelling : spelling.IsInert lexis) {said : Statement → List α}
    (hsaid : ∀ statement : Statement, statement.IsQuoted →
      gathered lexis read (statement.render spelling) = said statement)
    {statements : List Statement} {count : Nat} (h : AreQuoted statements count) :
    gathered lexis read (block spelling statements) = statements.flatMap said := by
  rw [Sql.gathered_block hread fun statement hmem =>
    Statement.splitsInto_render hspelling (h.quoted statement hmem)]
  exact List.flatMap_congr fun statement hmem => hsaid statement (h.quoted statement hmem)

/-! ### How statements begin -/

/-- An opening after which a single statement goes on. -/
theorem split_of_opening {opening rest : String} (hopening : IsInert lexis opening)
    (hsplit : SplitsInto lexis (opening ++ rest) 1) :
    ∃ held, (split (pieces lexis (opening ++ rest))).1 = [pieces lexis opening ++ held] := by
  have hstatements : (split (pieces lexis (opening ++ rest))).1
      = continued (pieces lexis opening) (split (pieces lexis rest)).1 := by
    rw [pieces_append hopening.isClosed, split_append, split_of_isInert hopening]
    rfl
  have hlength := hsplit.statements
  rw [hstatements, length_continued] at hlength
  obtain ⟨held, hheld⟩ := List.length_eq_one_iff.1 hlength
  refine ⟨held, ?_⟩
  rw [hstatements, hheld]
  rfl

/-- **An opening that decides what is taken**: the rest of the statement does not count. -/
theorem gathered_of_opening {opening rest : String} (hopening : IsInert lexis opening)
    (hsplit : SplitsInto lexis (opening ++ rest) 1) {answer : Option α}
    (hread : ∀ held, read (pieces lexis opening ++ held) = answer) :
    gathered lexis read (opening ++ rest) = answer.toList := by
  obtain ⟨held, hheld⟩ := split_of_opening hopening hsplit
  rw [gathered, hheld, List.filterMap_cons, hread held]
  cases answer <;> rfl

/-- The word that a statement begins with. -/
def Statement.verb : Statement → String
  | .createTable _ _ _ | .createIndex _ _ _ _ _ => "CREATE"
  | .comment _ _ => "COMMENT"
  | .insert _ _ | .insertDefaults _ => "INSERT"
  | .delete _ => "DELETE"
  | .truncate _ _ => "TRUNCATE"
  | .restart _ _ _ => "ALTER"
  | .advance _ _ => "SELECT"

theorem Statement.exists_render_eq (spelling : Spelling) (statement : Statement) :
    ∃ rest, statement.render spelling = statement.verb ++ (" " ++ rest) := by
  have hcreate : "CREATE TABLE " = "CREATE" ++ (" " ++ "TABLE ") := rfl
  have hindex : "CREATE " = "CREATE" ++ " " := rfl
  have hcomment : "COMMENT ON " = "COMMENT" ++ (" " ++ "ON ") := rfl
  have hinsert : "INSERT INTO " = "INSERT" ++ (" " ++ "INTO ") := rfl
  have hdelete : "DELETE FROM " = "DELETE" ++ (" " ++ "FROM ") := rfl
  have htruncate : "TRUNCATE TABLE " = "TRUNCATE" ++ (" " ++ "TABLE ") := rfl
  have hrestart : "ALTER TABLE " = "ALTER" ++ (" " ++ "TABLE ") := rfl
  have hadvance : "SELECT setval(pg_get_serial_sequence("
      = "SELECT" ++ (" " ++ "setval(pg_get_serial_sequence(") := rfl
  cases statement <;>
  · unfold Statement.render Statement.verb
    -- the first words are taken apart here, which simp would join again
    simp only [hcreate, hindex, hcomment, hinsert, hdelete,
      htruncate, hrestart, hadvance, String.append_assoc, -String.reduceAppend]
    exact ⟨_, rfl⟩

theorem Statement.isPlainName_verb (statement : Statement) :
    isPlainName statement.verb.toList = true := by
  cases statement <;>
  · rw [Statement.verb]
    decide

/-- A reader that looks for statements of one verb passes all others over. -/
theorem gathered_of_verb {verb : String}
    (hread : ∀ {statement : List Piece} {word : List Char} {rest : List Token},
      significant statement = .word word :: rest → isKeyword verb word = false →
        read statement = none)
    {spelling : Spelling} {statement : Statement}
    (hsplit : SplitsInto lexis (statement.render spelling) 1)
    (hother : isKeyword verb statement.verb.toList = false) :
    gathered lexis read (statement.render spelling) = [] := by
  obtain ⟨rest, hrest⟩ := statement.exists_render_eq spelling
  have hword : Spells lexis statement.verb (.word statement.verb.toList) :=
    .word statement.isPlainName_verb
  have hopening : IsInert lexis (statement.verb ++ " ") :=
    hword.inert.append (.of_isPlain (by decide) _)
  rw [hrest, ← String.append_assoc] at hsplit ⊢
  have hpassed : ∀ held, read (pieces lexis (statement.verb ++ " ") ++ held) = none := by
    intro held
    rw [pieces_append hword.inert.isClosed, List.append_assoc]
    exact hread (significant_name hword held) hother
  exact gathered_of_opening hopening hsplit hpassed

end
end SchemaDump.Sql
