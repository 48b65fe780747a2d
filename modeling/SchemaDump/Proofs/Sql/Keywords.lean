/-
  SchemaDump/Proofs/Sql/Keywords.lean
  ===================================
  **Texts without a keyword.**

  Words and quoted texts can run from one text into the next, but not over a
  blank or a symbol.  All parts of a statement meet at one of these, so the tokens
  of a statement are those of its parts, and a keyword that none of the parts holds
  stands nowhere in it (`Lacks`).

  Names are quoted where they could be taken for a reserved word, and numbers hold
  no letters; so of the types, times and names in a statement none holds a reserved
  word with a letter Y but those whose own words are it.
-/
import SchemaDump.Proofs.Sql.Checking
import SchemaDump.Proofs.Sql.DataType
import SchemaDump.Proofs.Sql.Timestamp

namespace SchemaDump.Sql

/-! ### Where texts meet -/

section
variable {lexis : Lexis} {first second : String}

/-- A text that begins with a blank or a symbol, or is empty. -/
def StartsApart (lexis : Lexis) (text : String) : Prop :=
  standsApart (tokens (pieces lexis text)) = true

/-- A text of which no word and no quoted text goes on in what comes after it. -/
def EndsApart (lexis : Lexis) (text : String) : Prop :=
  ∀ rest, significant (pieces lexis text ++ rest)
    = significant (pieces lexis text) ++ significant rest

theorem IsClosed.append (hfirst : IsClosed lexis first) (hsecond : IsClosed lexis second) :
    IsClosed lexis (first ++ second) := by
  intro hmem
  rw [pieces_append hfirst, List.mem_append] at hmem
  rcases hmem with hmem | hmem
  · exact hfirst hmem
  · exact hsecond hmem

/-! Words of the language stand between blanks or symbols. -/

/-- Whether a character is a blank or a symbol. -/
def isApartChar (c : Char) : Bool := isPlainChar c && !isWordChar c

def startsAtGap (words : String) : Bool := words.toList.head?.any isApartChar

def endsAtGap (words : String) : Bool := words.toList.getLast?.any isApartChar

theorem standsApart_char {c : Char} (h : isWordChar c = false) (rest : List Piece) :
    standsApart (tokens (.char c :: rest)) = true := by
  have hjoin : tokens (.char c :: rest) = joinPiece (.char c) (tokens rest) := rfl
  simp only [hjoin, joinPiece, h, if_neg Bool.false_ne_true]
  split <;> rfl

theorem startsApart_empty (lexis : Lexis) : StartsApart lexis "" := rfl

theorem startsApart_append {words : String} (h : startsAtGap words = true) (rest : String) :
    StartsApart lexis (words ++ rest) := by
  rw [startsAtGap] at h
  cases hwords : words.toList with
  | nil =>
    rw [hwords] at h
    cases h
  | cons c others =>
    rw [hwords, List.head?_cons, Option.any_some, isApartChar, Bool.and_eq_true,
      Bool.not_eq_true'] at h
    have hpieces : pieces lexis (words ++ rest)
        = .char c :: scan lexis .outside (others ++ rest.toList) := by
      rw [pieces, String.toList_append, hwords, List.cons_append, scan,
        isMark_of_isPlainChar h.1, if_neg Bool.false_ne_true]
    rw [StartsApart, hpieces]
    exact standsApart_char h.2 _

theorem startsApart_words {words : String} (h : startsAtGap words = true) :
    StartsApart lexis words := by
  have hrest : StartsApart lexis (words ++ "") := startsApart_append h ""
  rwa [String.append_empty] at hrest

/-- A blank or a symbol is one piece for itself. -/
theorem significant_append_char {c : Char} (h : isWordChar c = false) (before rest : List Piece) :
    significant (before ++ .char c :: rest)
      = significant (before ++ [.char c]) ++ significant rest := by
  have hchar : significant (.char c :: rest) = significant [.char c] ++ significant rest := by
    have hjoin : ∀ more, tokens (.char c :: more) = joinPiece (.char c) (tokens more) :=
      fun _ => rfl
    simp only [significant, hjoin, joinPiece, h, if_neg Bool.false_ne_true]
    split <;> rfl
  rw [significant_append (standsApart_char h rest), significant_append (standsApart_char h []),
    hchar, List.append_assoc]

/-- A word ends where no word goes on. -/
theorem tokens_chars_append {rest : List Piece}
    (h : ∀ word more, tokens rest ≠ .word word :: more) (cs : List Char) :
    tokens (cs.map .char ++ rest) = tokens (cs.map .char) ++ tokens rest := by
  induction cs with
  | nil => rfl
  | cons c cs ih =>
    have hjoin : ∀ more, tokens (.char c :: more) = joinPiece (.char c) (tokens more) :=
      fun _ => rfl
    rw [List.map_cons, List.cons_append, hjoin, hjoin, ih]
    cases tokens (cs.map .char) with
    | nil =>
      cases hrest : tokens rest with
      | nil => exact (List.append_nil _).symm
      | cons token others =>
        have hword : ∀ word, token ≠ .word word := by
          rintro word rfl
          exact h word others hrest
        simp only [joinPiece, List.nil_append]
        split
        · cases token <;> first | rfl | exact absurd rfl (hword _)
        · split <;> rfl
    | cons token others =>
      simp only [joinPiece, List.cons_append]
      split
      · cases token <;> rfl
      · split <;> rfl

theorem endsApart_append (hfirst : IsClosed lexis first) {words : String}
    (hplain : isPlain words = true) (hend : endsAtGap words = true) :
    EndsApart lexis (first ++ words) := by
  rw [endsAtGap] at hend
  intro rest
  rcases List.eq_nil_or_concat words.toList with hwords | ⟨init, c, hwords⟩
  · rw [hwords] at hend
    cases hend
  · rw [List.concat_eq_append] at hwords
    rw [hwords, List.getLast?_concat, Option.any_some, isApartChar, Bool.and_eq_true,
      Bool.not_eq_true'] at hend
    rw [pieces_append hfirst, pieces_of_isPlain hplain, hwords, List.map_append, List.map_singleton,
      ← List.append_assoc, List.append_assoc _ _ rest, List.singleton_append]
    exact significant_append_char hend.2 _ _

theorem endsApart_words {words : String} (hplain : isPlain words = true)
    (hend : endsAtGap words = true) : EndsApart lexis words := by
  rw [← String.empty_append (s := words)]
  exact endsApart_append (IsInert.empty lexis).isClosed hplain hend

/-- **A text of words of the language with names and literals between them**, and its tokens. -/
structure Yields (lexis : Lexis) (text : String) (held : List Token) : Prop where
  inert : IsInert lexis text
  apart : EndsApart lexis text
  tokens : significant (pieces lexis text) = held

theorem Yields.words {words : String} (hplain : isPlain words = true)
    (hend : endsAtGap words = true) :
    Yields lexis words (significant (pieces lexis words)) :=
  ⟨.of_isPlain hplain lexis, endsApart_words hplain hend, rfl⟩

/-- A name or literal and the words after it. -/
theorem Yields.item {text item words : String} {held : List Token} {token : Token}
    (h : Yields lexis text held) (hitem : Spells lexis item token)
    (hplain : isPlain words = true) (hstart : startsAtGap words = true)
    (hend : endsAtGap words = true) :
    Yields lexis (text ++ item ++ words)
      (held ++ token :: significant (pieces lexis words)) := by
  have hbefore := h.inert.append hitem.inert
  refine ⟨hbefore.append (.of_isPlain hplain lexis), ?_, ?_⟩
  · exact endsApart_append hbefore.isClosed hplain hend
  · have hstands : StartsApart lexis words := startsApart_words hstart
    rw [pieces_append hbefore.isClosed, pieces_append h.inert.isClosed, List.append_assoc,
      h.apart, h.tokens, significant_item hitem.item (hitem.read _ hstands)]

end

/-! ### Texts that lack a keyword -/

/-- **A text in which a keyword does not stand**, and which leaves no quotes open. -/
structure Lacks (lexis : Lexis) (keyword text : String) : Prop where
  closed : IsClosed lexis text
  words : ∀ token ∈ significant (pieces lexis text), token.isWord keyword = false

/-- Whether words hold no quotes, and none of them is the keyword. -/
def lacksWord (keyword words : String) : Bool :=
  isPlain words && (significant (words.toList.map .char)).all fun token => !token.isWord keyword

namespace Lacks

variable {lexis : Lexis} {keyword first second : String}

theorem of_significant_append (hfirst : Lacks lexis keyword first)
    (hsecond : Lacks lexis keyword second)
    (hmeet : significant (pieces lexis first ++ pieces lexis second)
      = significant (pieces lexis first) ++ significant (pieces lexis second)) :
    Lacks lexis keyword (first ++ second) := by
  refine ⟨hfirst.closed.append hsecond.closed, ?_⟩
  rw [pieces_append hfirst.closed, hmeet, List.forall_mem_append]
  exact ⟨hfirst.words, hsecond.words⟩

theorem append (hfirst : Lacks lexis keyword first) (hsecond : Lacks lexis keyword second)
    (hstart : StartsApart lexis second) : Lacks lexis keyword (first ++ second) :=
  hfirst.of_significant_append hsecond (significant_append hstart _)

/-- Words of the language. -/
theorem of_words {words : String} (h : lacksWord keyword words = true) (lexis : Lexis) :
    Lacks lexis keyword words := by
  rw [lacksWord, Bool.and_eq_true, List.all_eq_true] at h
  obtain ⟨hplain, hwords⟩ := h
  refine ⟨(IsInert.of_isPlain hplain lexis).isClosed, ?_⟩
  intro token hmem
  rw [pieces_of_isPlain hplain] at hmem
  simpa using hwords token hmem

/-- A text with words before it. -/
theorem after (hsecond : Lacks lexis keyword second) {words : String}
    (hwords : lacksWord keyword words = true) (hend : endsAtGap words = true) :
    Lacks lexis keyword (words ++ second) := by
  have hplain : isPlain words = true := (Bool.and_eq_true _ _ ▸ hwords).1
  exact (of_words hwords lexis).of_significant_append hsecond (endsApart_words hplain hend _)

/-- One name or literal. -/
theorem of_spells {text : String} {token : Token} (h : Spells lexis text token)
    (hword : token.isWord keyword = false) : Lacks lexis keyword text := by
  have hread := significant_item h.item (h.read [] rfl)
  rw [List.append_nil] at hread
  refine ⟨h.inert.isClosed, ?_⟩
  rw [hread]
  exact List.forall_mem_singleton.2 hword

end Lacks

/-! ### Texts without some letter -/

/-- Words are made of the characters of the text. -/
theorem mem_of_mem_word {cs word : List Char} (h : .word word ∈ tokens (cs.map .char)) {c : Char}
    (hc : c ∈ word) : c ∈ cs := by
  induction cs generalizing word with
  | nil => cases h
  | cons first cs ih =>
    have hjoin : tokens ((first :: cs).map .char) = joinPiece (.char first) (tokens (cs.map .char)) :=
      rfl
    simp only [hjoin, joinPiece] at h
    split at h
    · split at h
      · rename_i text rest hrest
        rcases List.mem_cons.1 h with hword | hmem
        · obtain rfl := Token.word.inj hword
          rcases List.mem_cons.1 hc with rfl | hc
          · exact List.mem_cons_self
          · apply List.mem_cons_of_mem
            apply ih _ hc
            rw [hrest]
            exact List.mem_cons_self
        · apply List.mem_cons_of_mem
          apply ih _ hc
          rw [hrest]
          exact List.mem_cons_of_mem _ hmem
      · rcases List.mem_cons.1 h with hword | hmem
        · obtain rfl := Token.word.inj hword
          rw [List.mem_singleton.1 hc]
          exact List.mem_cons_self
        · exact List.mem_cons_of_mem _ (ih hmem hc)
    · split at h
      · rcases List.mem_cons.1 h with hword | hmem
        · cases hword
        · exact List.mem_cons_of_mem _ (ih hmem hc)
      · rcases List.mem_cons.1 h with hword | hmem
        · cases hword
        · exact List.mem_cons_of_mem _ (ih hmem hc)

/-- A keyword needs its letters. -/
theorem Lacks.of_letter {keyword text : String} {letter : Char}
    (hletter : letter ∈ (Text.lower keyword).toList) (hplain : isPlain text = true)
    (h : ∀ c ∈ text.toList, c.toLower ≠ letter) (lexis : Lexis) : Lacks lexis keyword text := by
  refine ⟨(IsInert.of_isPlain hplain lexis).isClosed, ?_⟩
  intro token hmem
  rw [pieces_of_isPlain hplain] at hmem
  have htoken := List.mem_of_mem_filter hmem
  cases token with
  | word word =>
    rw [Bool.eq_false_iff]
    intro hkeyword
    have hletters : (Text.lower keyword).toList = word.map Char.toLower := by
      rw [beq_iff_eq.1 hkeyword, Text.lower, String.toList_ofList, String.toList_ofList]
    rw [hletters] at hletter
    obtain ⟨c, hc, hlower⟩ := List.mem_map.1 hletter
    exact h c (mem_of_mem_word htoken hc) hlower
  | _ => rfl

theorem eq_y_of_toLower {c : Char} (h : c.toLower = 'y') : c = 'y' ∨ c = 'Y' :=
  Text.of_toLower_isAlpha (P := fun c => c.toLower = 'y' → c = 'y' ∨ c = 'Y') (by decide)
    (by rw [h]; decide) h

/-- Texts of a kind of characters without marks, semicolon and the letter Y lack every keyword
    with that letter. -/
theorem lacks_of_kind (kind : Char → Bool)
    (hmarks : (kind '\'' || kind '"' || kind graveAccent || kind ';') = false)
    (hy : (kind 'y' || kind 'Y') = false) {keyword text : String}
    (hkeyword : 'y' ∈ (Text.lower keyword).toList) (h : ∀ c ∈ text.toList, kind c = true)
    (lexis : Lexis) : Lacks lexis keyword text := by
  rw [Bool.or_eq_false_iff] at hy
  apply Lacks.of_letter hkeyword
  · rw [isPlain, List.all_eq_true]
    intro c hc
    exact isPlainChar_of_kind kind hmarks (h c hc)
  · intro c hc hlower
    have hkind := h c hc
    rcases eq_y_of_toLower hlower with rfl | rfl
    · rw [hy.1] at hkind
      cases hkind
    · rw [hy.2] at hkind
      cases hkind

/-! ### Names and literals -/

section
variable {reading : Reading} {spelling : Spelling} {keyword : String}

/-- A name is quoted where it would be a reserved word. -/
theorem lacks_name (h : reading.Knows spelling) (hreserved : Text.lower keyword ∈ reservedWords)
    (name : String) : Lacks reading.lexis keyword (spelling.name name) := by
  obtain ⟨token, hspells, hname⟩ := h.name name
  exact .of_spells hspells (isWord_of_name? hreserved hname)

theorem lacks_literal (h : reading.Knows spelling) (keyword text : String) :
    Lacks reading.lexis keyword (spelling.literal text) := by
  obtain ⟨token, hspells, hvalue⟩ := h.literal text
  exact .of_spells hspells (isWord_of_value? hvalue)

end

/-! ### Types and times -/

section
variable {keyword : String}

/-- The current time, with a precision in digits of any script. -/
theorem lacks_currentTimestamp (hkeyword : 'y' ∈ (Text.lower keyword).toList)
    {text precision : String} (h : currentTime? text = some precision) (lexis : Lexis) :
    Lacks lexis keyword (currentTimestamp precision) := by
  have hdigits := (currentTime?_eq_some_iff.1 h).isDecimalDigit
  have hwritten : ∀ c ∈ (currentTimestamp precision).toList,
      (Text.isDecimalDigit c || "CURRENT_TIMESTAMP()".toList.contains c) = true := by
    rw [currentTimestamp]
    split
    · exact List.all_eq_true.1 (by decide)
    · simp only [String.toList_append, List.forall_mem_append]
      refine ⟨⟨List.all_eq_true.1 (by decide), fun c hc => ?_⟩, List.all_eq_true.1 (by decide)⟩
      rw [hdigits c hc, Bool.true_or]
  exact lacks_of_kind
    (fun c => Text.isDecimalDigit c || "CURRENT_TIMESTAMP()".toList.contains c) rfl rfl hkeyword
    hwritten lexis

/-- Numbers between parentheses. -/
theorem lacks_parameterList (hkeyword : 'y' ∈ (Text.lower keyword).toList) (numbers : List Nat)
    (lexis : Lexis) : Lacks lexis keyword (DataType.parameterList numbers) :=
  lacks_of_kind isParameterChar rfl rfl hkeyword (forall_mem_parameterList numbers) lexis

theorem startsApart_parameterList (lexis : Lexis) (numbers : List Nat) :
    StartsApart lexis (DataType.parameterList numbers) := by
  rw [DataType.parameterList]
  split
  · exact startsApart_empty lexis
  · rw [String.append_assoc]
    exact startsApart_append (by decide) _

theorem lacks_standard (hkeyword : 'y' ∈ (Text.lower keyword).toList)
    (hnames : ∀ name ∈ DataType.standardNames, lacksWord keyword name = true) (type : DataType)
    (lexis : Lexis) : Lacks lexis keyword type.standard := by
  obtain ⟨name, hname, htype⟩ := type.exists_standard_eq
  rw [htype]
  exact (Lacks.of_words (hnames name hname) lexis).append (lacks_parameterList hkeyword _ lexis)
    (startsApart_parameterList lexis _)

theorem lacks_postgresql (hkeyword : 'y' ∈ (Text.lower keyword).toList)
    (hnames : ∀ name ∈ DataType.postgresqlNames, lacksWord keyword name = true) (type : DataType)
    (lexis : Lexis) : Lacks lexis keyword type.postgresql := by
  obtain ⟨name, hname, numbers, htype⟩ := type.exists_postgresql_eq
  rw [htype]
  exact (Lacks.of_words (hnames name hname) lexis).append
    (lacks_parameterList hkeyword numbers lexis) (startsApart_parameterList lexis numbers)

end

end SchemaDump.Sql
