/-
  SchemaDump/Proofs/Sql/Tokens.lean
  =================================
  **The tokens of SQL text.**

  Pieces are grouped from the right: letters and digits side by side make a
  word, and quoted texts side by side with the same mark are one text in which
  the mark was doubled.  So a name or literal is one token only if what follows
  does not continue it; `Spells` says that a text is one token wherever that is
  so.
-/
import SchemaDump.Proofs.Sql.Splitting

namespace SchemaDump.Sql

inductive Token where
  | blank
  | word (text : List Char)
  | quoted (mark : Char) (text : List Char)
  | symbol (c : Char)
  | unclosed
deriving DecidableEq, Repr

def isWordChar (c : Char) : Bool := startsPlainName c || c.isDigit

/-- One more piece in front of tokens. -/
def joinPiece : Piece → List Token → List Token
  | .char c, tokens =>
    if isWordChar c then
      match tokens with
      | .word text :: rest => .word (c :: text) :: rest
      | _ => .word [c] :: tokens
    else if Text.isBlank c then .blank :: tokens
    else .symbol c :: tokens
  | .quoted mark text, tokens =>
    match tokens with
    | .quoted next more :: rest =>
      if next == mark then .quoted mark (text ++ mark :: more) :: rest
      else .quoted mark text :: tokens
    | _ => .quoted mark text :: tokens
  | .unclosed, tokens => .unclosed :: tokens

def tokens (pieces : List Piece) : List Token := pieces.foldr joinPiece []

def significant (pieces : List Piece) : List Token := (tokens pieces).filter (· != .blank)

/-- Whether a name, literal or word in front would stay apart from the tokens. -/
def standsApart : List Token → Bool
  | .word _ :: _ | .quoted _ _ :: _ => false
  | _ => true

/-- Whether a token may be a name or a value. -/
def Token.isItem : Token → Bool
  | .word _ | .quoted _ _ => true
  | .blank | .symbol _ | .unclosed => false

/-- **A text is one token**, wherever what follows stands apart from it. -/
structure Spells (lexis : Lexis) (text : String) (token : Token) : Prop where
  inert : IsInert lexis text
  item : token.isItem = true
  read : ∀ rest, standsApart (tokens rest) = true →
    tokens (pieces lexis text ++ rest) = token :: tokens rest

/-! ### Quoted texts -/

theorem tokens_quoted_cons {mark : Char} {text : List Char} {rest : List Piece}
    (h : standsApart (tokens rest) = true) :
    tokens (.quoted mark text :: rest) = .quoted mark text :: tokens rest := by
  have hjoin : tokens (.quoted mark text :: rest) = joinPiece (.quoted mark text) (tokens rest) :=
    rfl
  rw [hjoin]
  cases hrest : tokens rest with
  | nil => rfl
  | cons token more =>
    cases token with
    | quoted next following =>
      rw [hrest] at h
      cases h
    | _ => rfl

/-- What was cut at doubled marks is joined again. -/
theorem tokens_cutAtMarks {mark : Char} {rest : List Piece}
    (h : standsApart (tokens rest) = true) (read text : List Char) :
    tokens (cutAtMarks mark read text ++ rest) = .quoted mark (read ++ text) :: tokens rest := by
  induction text generalizing read with
  | nil =>
    rw [cutAtMarks, List.append_nil]
    exact tokens_quoted_cons h
  | cons c text ih =>
    rw [cutAtMarks]
    by_cases hc : (c == mark) = true
    · obtain rfl := beq_iff_eq.1 hc
      have hjoin : tokens ((.quoted c read :: cutAtMarks c [] text) ++ rest)
          = joinPiece (.quoted c read) (tokens (cutAtMarks c [] text ++ rest)) := rfl
      rw [if_pos hc, hjoin, ih, joinPiece, if_pos hc, List.nil_append]
    · rw [if_neg hc, ih, List.append_assoc, List.singleton_append]

theorem Spells.quotedBy {lexis : Lexis} {mark : Char} (hmark : lexis.isMark mark = true)
    (hescapes : lexis.escapes mark = false) (text : String) :
    Spells lexis (quotedBy mark text) (.quoted mark text.toList) := by
  refine ⟨.quotedBy hmark hescapes text, rfl, ?_⟩
  intro rest h
  rw [pieces_quotedBy hmark hescapes]
  exact tokens_cutAtMarks h [] text.toList

theorem Spells.escapedLiteral (text : String) :
    Spells .mysql (escapedLiteral text) (.quoted '\'' text.toList) := by
  refine ⟨.escapedLiteral text, rfl, ?_⟩
  intro rest h
  rw [pieces_escapedLiteral]
  exact tokens_quoted_cons h

/-! ### Words -/

theorem tokens_word {c : Char} {cs : List Char} {rest : List Piece}
    (h : standsApart (tokens rest) = true) (hc : isWordChar c = true)
    (hcs : cs.all isWordChar = true) :
    tokens ((c :: cs).map .char ++ rest) = .word (c :: cs) :: tokens rest := by
  have hjoin : ∀ (d : Char) (more : List Piece),
      tokens (.char d :: more) = joinPiece (.char d) (tokens more) := fun _ _ => rfl
  induction cs generalizing c with
  | nil =>
    rw [List.map_cons, List.map_nil, List.singleton_append, hjoin]
    cases hrest : tokens rest with
    | nil => simp [joinPiece, hc]
    | cons token more =>
      cases token with
      | word text =>
        rw [hrest] at h
        cases h
      | _ => simp [joinPiece, hc]
  | cons d cs ih =>
    rw [List.all_cons, Bool.and_eq_true] at hcs
    rw [List.map_cons, List.cons_append, hjoin, ih hcs.1 hcs.2, joinPiece, if_pos hc]

/-- A word of plain letters and digits. -/
theorem Spells.word {lexis : Lexis} {text : String} (h : isPlainName text.toList = true) :
    Spells lexis text (.word text.toList) := by
  have hplain := isPlain_of_isPlainName h
  refine ⟨.of_isPlain hplain lexis, rfl, ?_⟩
  intro rest hrest
  rw [pieces_of_isPlain hplain]
  cases htext : text.toList with
  | nil =>
    rw [htext] at h
    cases h
  | cons c cs =>
    rw [htext, isPlainName, Bool.and_eq_true] at h
    have hc : isWordChar c = true := by rw [isWordChar, h.1, Bool.true_or]
    exact tokens_word hrest hc h.2

theorem Spells.bareName (name : String) :
    ∃ token, Spells .standard (bareName name) token
      ∧ (token = .quoted '"' name.toList
        ∨ token = .word name.toList ∧ isPlainName name.toList = true
          ∧ reservedWords.contains (Text.lower name) = false) := by
  rw [Sql.bareName]
  by_cases h : (isPlainName name.toList && !reservedWords.contains (Text.lower name)) = true
  · rw [if_pos h]
    rw [Bool.and_eq_true, Bool.not_eq_true'] at h
    exact ⟨_, .word h.1, .inr ⟨rfl, h⟩⟩
  · rw [if_neg h]
    exact ⟨_, .quotedBy rfl rfl name, .inl rfl⟩

/-! ### Lists between parentheses -/

/-- Tokens with commas between neighbours. -/
def separated : List Token → List Token
  | [] => []
  | [only] => [only]
  | first :: second :: more => first :: .symbol ',' :: separated (second :: more)

theorem significant_item {token : Token} (h : token.isItem = true) {before rest : List Piece}
    (hread : tokens before = token :: tokens rest) :
    significant before = token :: significant rest := by
  have hsolid : (token != .blank) = true := by
    cases token with
    | word text => rfl
    | quoted mark text => rfl
    | _ => cases h
  rw [significant, hread, List.filter_cons, if_pos hsolid, significant]

section
variable {α : Type} {lexis : Lexis} {text : α → String} {token : α → Token} {items : List α}

theorem significant_joined (h : ∀ item ∈ items, Spells lexis (text item) (token item))
    {rest : List Piece} (hrest : standsApart (tokens rest) = true) :
    significant (pieces lexis (Text.joined ", " (items.map text)) ++ rest)
      = separated (items.map token) ++ significant rest := by
  induction items with
  | nil => rfl
  | cons first others ih =>
    rw [List.forall_mem_cons] at h
    cases others with
    | nil => exact significant_item h.1.item (h.1.read rest hrest)
    | cons second more =>
      have hcomma : pieces lexis ", " = [.char ',', .char ' '] := by cases lexis <;> rfl
      have hfirst : IsClosed lexis (text first ++ ", ") :=
        (h.1.inert.append (.of_isPlain (by decide) lexis)).isClosed
      have hjoined : Text.joined ", " ((first :: second :: more).map text)
          = text first ++ ", " ++ Text.joined ", " ((second :: more).map text) := rfl
      rw [hjoined, pieces_append hfirst, pieces_append h.1.inert.isClosed, hcomma,
        List.append_assoc, List.append_assoc,
        significant_item h.1.item (h.1.read _ rfl)]
      have hsecond := ih h.2
      simp only [List.map_cons, separated, List.cons_append, List.nil_append] at hsecond ⊢
      rw [← hsecond]
      rfl

/-- **A list between parentheses is read as its tokens.** -/
theorem significant_parenthesized (h : ∀ item ∈ items, Spells lexis (text item) (token item))
    (rest : List Piece) :
    significant (pieces lexis (parenthesized (items.map text)) ++ rest)
      = .symbol '(' :: (separated (items.map token) ++ .symbol ')' :: significant rest) := by
  have hopen : pieces lexis "(" = [.char '('] := by cases lexis <;> rfl
  have hclose : pieces lexis ")" = [.char ')'] := by cases lexis <;> rfl
  have hinside : IsInert lexis (Text.joined ", " (items.map text)) :=
    .joined (.of_isPlain (by decide) lexis) fun item hmem => (h item hmem).inert
  have hbefore : IsInert lexis ("(" ++ Text.joined ", " (items.map text)) :=
    .append (.of_isPlain (by decide) lexis) hinside
  have hstart : IsInert lexis "(" := .of_isPlain (by decide) lexis
  rw [parenthesized, pieces_append hbefore.isClosed, pieces_append hstart.isClosed, hopen, hclose,
    List.append_assoc, List.append_assoc]
  have hsecond : significant (pieces lexis (Text.joined ", " (items.map text))
      ++ (.char ')' :: rest)) = separated (items.map token) ++ .symbol ')' :: significant rest :=
    significant_joined h rfl
  rw [List.singleton_append, List.singleton_append, ← hsecond]
  rfl

end

end SchemaDump.Sql
