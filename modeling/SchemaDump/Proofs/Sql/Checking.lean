/-
  SchemaDump/Proofs/Sql/Checking.lean
  ===================================
  **The check of a column read back.**

  A reader of column definitions that end in a CHECK with a list of values.  It
  takes what stands after the last word CHECK, to the end, and gives the name that
  is checked and the values.  Names and literals are quoted where they have to be,
  so the word does not stand among them.
-/
import SchemaDump.Proofs.Sql.Insertion

namespace SchemaDump.Sql

/-! ### The reader -/

/-- Whether a token is a keyword. -/
def Token.isWord (keyword : String) : Token → Bool
  | .word text => isKeyword keyword text
  | _ => false

/-- The tokens after the last one that is a keyword. -/
def afterLast? (keyword : String) : List Token → Option (List Token)
  | [] => none
  | token :: rest =>
    (afterLast? keyword rest).or (if token.isWord keyword then some rest else none)

/-- The text of a literal. -/
def literal? (token : Token) : Option String := (value? token).join

namespace Reading

/-- The name and the values of a check, from the tokens after its word. -/
def checkedValues? (reading : Reading) : List Token → Option (String × List String)
  | .symbol '(' :: name :: .word word :: .symbol '(' :: rest => do
    let (items, after) ← items? rest
    if isKeyword "IN" word && after == [.symbol ')'] then
      pure (← reading.name? name, ← items.mapM literal?)
    else none
  | _ => none

/-- **The check that a column definition ends in**: the name and the values that it may take. -/
def check? (reading : Reading) (definition : String) : Option (String × List String) := do
  reading.checkedValues? (← afterLast? "CHECK" (significant (pieces reading.lexis definition)))

end Reading

/-! ### Tokens that stand apart -/

theorem joinPiece_append (piece : Piece) (tokens : List Token) {rest : List Token}
    (h : standsApart rest = true) :
    joinPiece piece (tokens ++ rest) = joinPiece piece tokens ++ rest := by
  have hfirst : joinPiece piece rest = joinPiece piece [] ++ rest := by
    cases rest with
    | nil => rw [List.append_nil]
    | cons token rest =>
      cases token with
      | word text => cases h
      | quoted mark text => cases h
      | _ =>
        cases piece with
        | char c =>
          simp only [joinPiece]
          split_ifs <;> rfl
        | _ => rfl
  cases tokens with
  | nil => exact hfirst
  | cons token tokens =>
    cases piece <;> cases token <;> simp only [joinPiece, List.cons_append] <;> split_ifs <;> rfl

/-- What stands apart is read for itself, whatever is before it. -/
theorem significant_append {rest : List Piece} (h : standsApart (tokens rest) = true)
    (before : List Piece) :
    significant (before ++ rest) = significant before ++ significant rest := by
  have htokens : tokens (before ++ rest) = tokens before ++ tokens rest := by
    induction before with
    | nil => rfl
    | cons piece before ih =>
      have hjoin : ∀ more, tokens (piece :: more) = joinPiece piece (tokens more) := fun _ => rfl
      rw [List.cons_append, hjoin, ih, joinPiece_append piece _ h, hjoin]
  rw [significant, htokens, List.filter_append, significant, significant]

theorem afterLast?_eq_none {keyword : String} {rest : List Token}
    (h : ∀ token ∈ rest, token.isWord keyword = false) : afterLast? keyword rest = none := by
  induction rest with
  | nil => rfl
  | cons token rest ih =>
    rw [List.forall_mem_cons] at h
    rw [afterLast?, ih h.2, h.1]
    rfl

theorem afterLast?_append {keyword : String} {rest : List Token} {word : List Char}
    (hword : isKeyword keyword word = true) (hrest : ∀ token ∈ rest, token.isWord keyword = false)
    (before : List Token) : afterLast? keyword (before ++ .word word :: rest) = some rest := by
  induction before with
  | nil =>
    rw [List.nil_append, afterLast?, afterLast?_eq_none hrest, Token.isWord, hword]
    rfl
  | cons token before ih =>
    rw [List.cons_append, afterLast?, ih]
    rfl

/-! ### Written checks -/

section
variable {reading : Reading} {spelling : Spelling}

/-- A name is not taken for a reserved word. -/
theorem isWord_of_name? {keyword : String} (hreserved : Text.lower keyword ∈ reservedWords)
    {token : Token} {name : String} (h : reading.name? token = some name) :
    token.isWord keyword = false := by
  cases token with
  | word text =>
    rw [Reading.name?] at h
    split at h
    · rename_i hbare
      rw [Bool.and_eq_true, Bool.not_eq_true', List.contains_eq_mem,
        decide_eq_false_iff_not] at hbare
      rw [Token.isWord, isKeyword, Text.sameLetters, beq_eq_false_iff_ne]
      exact fun hsame => hbare.2 (hsame ▸ hreserved)
    · cases h
  | _ => rfl

theorem isWord_of_value? {keyword : String} {token : Token} {text : String}
    (h : value? token = some (some text)) : token.isWord keyword = false := by
  cases token with
  | word held =>
    rw [value?] at h
    split at h <;> cases h
  | _ => rfl

/-- The tokens after the word of a check. -/
def checkTokens (name : Token) (values : List Token) : List Token :=
  .symbol '(' :: name :: .word "IN".toList :: .symbol '('
    :: (separated values ++ [.symbol ')', .symbol ')'])

theorem significant_check {lexis : Lexis} (rest : List Piece) :
    significant (pieces lexis " CHECK (" ++ rest)
      = .word "CHECK".toList :: .symbol '(' :: significant rest := by
  rw [pieces_of_isPlain (by decide)]
  rfl

theorem significant_in {lexis : Lexis} (rest : List Piece) :
    significant (pieces lexis "IN " ++ rest) = .word "IN".toList :: significant rest := by
  rw [pieces_of_isPlain (by decide)]
  rfl

/-- The tokens of a check. -/
theorem significant_oneOf {lexis : Lexis} {name : String} {nameToken : Token}
    {literalToken : String → Token} (hname : Spells lexis (spelling.name name) nameToken)
    {values : List String}
    (hliteral : ∀ value ∈ values, Spells lexis (spelling.literal value) (literalToken value)) :
    significant (pieces lexis ((ColumnOption.oneOf values).render spelling name))
      = .word "CHECK".toList :: checkTokens nameToken (values.map literalToken) := by
  have hin : " IN " = " " ++ "IN " := rfl
  have hstart : IsInert lexis " CHECK (" := .of_isPlain (by decide) _
  have hgap : IsInert lexis " " := .of_isPlain (by decide) _
  have hword : IsInert lexis "IN " := .of_isPlain (by decide) _
  have hnamed := (hstart.append hname.inert).append hgap
  have hlist := (hnamed.append hword).append
    (IsInert.parenthesized fun value hmem => (hliteral value hmem).inert)
  have hclose : pieces lexis ")" = [.char ')'] := by cases lexis <;> rfl
  rw [ColumnOption.render, hin, ← String.append_assoc, pieces_append hlist.isClosed,
    pieces_append (hnamed.append hword).isClosed, pieces_append hnamed.isClosed,
    pieces_append (hstart.append hname.inert).isClosed, pieces_append hstart.isClosed]
  simp only [List.append_assoc]
  rw [significant_check, significant_name hname, significant_in,
    significant_parenthesized hliteral, hclose]
  rfl

theorem standsApart_oneOf (lexis : Lexis) (spelling : Spelling) (name : String)
    (values : List String) :
    standsApart (tokens (pieces lexis ((ColumnOption.oneOf values).render spelling name)))
      = true := by
  have hstart : IsInert lexis " CHECK (" := .of_isPlain (by decide) _
  rw [ColumnOption.render, String.append_assoc, String.append_assoc, String.append_assoc,
    pieces_append hstart.isClosed, pieces_of_isPlain (by decide)]
  rfl

theorem isWord_of_mem_separated {keyword : String} {items : List Token}
    (h : ∀ item ∈ items, item.isWord keyword = false) :
    ∀ token ∈ separated items, token.isWord keyword = false := by
  induction items with
  | nil => exact fun token hmem => nomatch hmem
  | cons first others ih =>
    rw [List.forall_mem_cons] at h
    cases others with
    | nil => simpa [separated] using h.1
    | cons second more =>
      rw [separated, List.forall_mem_cons, List.forall_mem_cons]
      exact ⟨h.1, rfl, ih h.2⟩

/-- What is neither the name nor among the values nor the word IN is not among the tokens of a
    check. -/
theorem isWord_of_mem_checkTokens {keyword : String} {name : Token} {values : List Token}
    (hin : isKeyword keyword "IN".toList = false) (hname : name.isWord keyword = false)
    (hvalues : ∀ value ∈ values, value.isWord keyword = false) :
    ∀ token ∈ checkTokens name values, token.isWord keyword = false := by
  have hsymbol : ∀ c, (Token.symbol c).isWord keyword = false := fun _ => rfl
  simp only [checkTokens, List.forall_mem_cons, List.forall_mem_append]
  exact ⟨hsymbol _, hname, hin, hsymbol _, isWord_of_mem_separated hvalues, hsymbol _, hsymbol _,
    List.forall_mem_nil _⟩

theorem checkedValues?_checkTokens {name : String} {nameToken : Token}
    {literalToken : String → Token} (hname : reading.name? nameToken = some name)
    (hitem : ∀ value, (literalToken value).isItem = true)
    (hvalue : ∀ value, value? (literalToken value) = some (some value)) (values : List String) :
    reading.checkedValues? (checkTokens nameToken (values.map literalToken))
      = some (name, values) := by
  have hitems : items? (separated (values.map literalToken) ++ [Token.symbol ')', .symbol ')'])
      = some (values.map literalToken, [.symbol ')']) := by
    apply items?_separated
    intro token hmem
    obtain ⟨value, -, rfl⟩ := List.mem_map.1 hmem
    exact hitem value
  have hread : (values.map literalToken).mapM literal? = some values := by
    rw [Checked.mapM_eq_some_iff, List.forall₂_map_left_iff, List.forall₂_same]
    intro value _
    rw [literal?, hvalue]
    rfl
  have hkeyword : (isKeyword "IN" "IN".toList && [Token.symbol ')'] == [Token.symbol ')'])
      = true := by
    decide
  rw [checkTokens, Reading.checkedValues?, hitems]
  simp only [Option.bind_eq_bind, Option.bind_some, if_pos hkeyword, hname, hread]
  rfl

theorem ColumnClause.render_append (spelling : Spelling) (name type : String)
    (options : List ColumnOption) (last : ColumnOption) :
    render spelling ⟨name, type, options ++ [last]⟩
      = render spelling ⟨name, type, options⟩ ++ last.render spelling name := by
  simp only [render, List.map_append, List.map_singleton, String.join_append, String.join_cons,
    String.join_nil, String.append_empty, String.append_assoc]

/-- **The check of a column is read back**, whatever the column is defined with before it. -/
theorem check?_render (h : reading.Knows spelling) {name type : String}
    {options : List ColumnOption} {values : List String}
    (hquoted : (Clause.column ⟨name, type, options ++ [.oneOf values]⟩).IsQuoted) :
    reading.check? (ColumnClause.render spelling ⟨name, type, options ++ [.oneOf values]⟩)
      = some (name, values) := by
  choose literalToken hliteral hvalue using h.literal
  obtain ⟨nameToken, hname, hread⟩ := h.name name
  have hfront : (Clause.column ⟨name, type, options⟩).IsQuoted :=
    ⟨hquoted.1, fun option hmem => hquoted.2 option (List.mem_append_left _ hmem)⟩
  have hbefore := Clause.isInert h.isInert hfront
  rw [Clause.render] at hbefore
  have hliterals : ∀ value ∈ values,
      Spells reading.lexis (spelling.literal value) (literalToken value) :=
    fun value _ => hliteral value
  have hcheck := significant_oneOf hname hliterals
  have hapart := standsApart_oneOf reading.lexis spelling name values
  have hitems : ∀ item ∈ values.map literalToken, item.isWord "CHECK" = false := by
    intro item hmem
    obtain ⟨value, -, rfl⟩ := List.mem_map.1 hmem
    exact isWord_of_value? (hvalue value)
  have hreserved : Text.lower "CHECK" ∈ reservedWords := by decide
  have hnone := isWord_of_mem_checkTokens (by decide) (isWord_of_name? hreserved hread) hitems
  have hafter := afterLast?_append (by decide : isKeyword "CHECK" "CHECK".toList = true) hnone
    (significant (pieces reading.lexis (ColumnClause.render spelling ⟨name, type, options⟩)))
  rw [Reading.check?, ColumnClause.render_append, pieces_append hbefore.isClosed,
    significant_append hapart, hcheck, hafter]
  exact checkedValues?_checkTokens hread (fun value => (hliteral value).item) hvalue values

end
end SchemaDump.Sql
