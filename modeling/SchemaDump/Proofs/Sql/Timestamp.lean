/-
  SchemaDump/Proofs/Sql/Timestamp.lean
  ====================================
  **Which defaults mean the current time, and which are bit literals.**

  Both are recognised by cutting a text at its blanks and marks.  The texts that
  are recognised have a grammar: a name of the current time with a parenthesised
  precision or none, and zeros and ones between quotes after a `b`, with blanks
  wherever they may stand.  The readers take a text exactly if the grammar does,
  and find the precision that stands there.
-/
import SchemaDump.Proofs.Text.Words
import SchemaDump.Sql.Timestamp

namespace SchemaDump

open Text (AreBlank isBlank isDecimalDigit)

namespace Text

/-! ### Blanks, digits and letters -/

/-- Digits of no script are blanks. -/
theorem isDecimalDigit_of_isBlank {c : Char} (h : isBlank c = true) : isDecimalDigit c = false := by
  -- every range of digits lies between two neighbours among the codes of blanks
  have hranges : ∀ range ∈ decimalDigitRanges,
      0x20 < range.1 ∧ range.2 < 0x85
        ∨ 0xA0 < range.1 ∧ range.2 < 0x1680
        ∨ 0x1680 < range.1 ∧ range.2 < 0x2000
        ∨ 0x3000 < range.1 := by
    decide
  rw [isBlank] at h
  simp only [Bool.or_eq_true, Bool.and_eq_true, decide_eq_true_eq, beq_iff_eq] at h
  rw [isDecimalDigit, List.any_eq_false]
  intro range hrange
  have hapart := hranges range hrange
  simp only [Bool.and_eq_true, decide_eq_true_eq]
  omega

theorem not_isBlank_of_isDecimalDigit {c : Char} (h : isDecimalDigit c = true) :
    isBlank c = false := by
  cases hblank : isBlank c with
  | false => rfl
  | true =>
    rw [isDecimalDigit_of_isBlank hblank] at h
    cases h

end Text

namespace Sql

/-! ### Precisions -/

/-- What may follow a name of the current time, and the digits in it. -/
inductive IsPrecision : List Char → List Char → Prop
  | none {blanks : List Char} (hblanks : AreBlank blanks) : IsPrecision blanks []
  | between {before opened digits closing after : List Char} (hbefore : AreBlank before)
      (hopened : AreBlank opened) (hdigits : ∀ c ∈ digits, isDecimalDigit c = true)
      (hclosing : AreBlank closing) (hafter : AreBlank after) :
      IsPrecision (before ++ '(' :: (opened ++ (digits ++ (closing ++ ')' :: after)))) digits

/-- The closing parenthesis is found behind the digits, wherever blanks stand. -/
theorem digits_before_closing {opened digits closing : List Char} (hopened : AreBlank opened)
    (hdigits : ∀ c ∈ digits, isDecimalDigit c = true) (hclosing : AreBlank closing)
    (after : List Char) :
    let inner := Text.trimStart (opened ++ (digits ++ (closing ++ ')' :: after)))
    inner.takeWhile isDecimalDigit = digits
      ∧ Text.trimStart (inner.dropWhile isDecimalDigit) = ')' :: after := by
  have hparenthesis : Text.trimStart (closing ++ ')' :: after) = ')' :: after := by
    rw [Text.trimStart_blanks_append hclosing, Text.trimStart_cons (by decide)]
  dsimp only
  rw [Text.trimStart_blanks_append hopened]
  cases digits with
  | nil =>
    have hstop : ¬isDecimalDigit ')' = true := by decide
    rw [List.nil_append, hparenthesis, List.takeWhile_cons_of_neg hstop,
      List.dropWhile_cons_of_neg hstop]
    exact ⟨rfl, Text.trimStart_cons (by decide) after⟩
  | cons digit digits =>
    have hstop : ∀ c ∈ (closing ++ ')' :: after).head?, isDecimalDigit c = false := by
      cases closing with
      | nil =>
        rintro _ ⟨⟩
        decide
      | cons blank closing =>
        rintro _ ⟨⟩
        exact Text.isDecimalDigit_of_isBlank (hclosing blank List.mem_cons_self)
    have hsolid := Text.not_isBlank_of_isDecimalDigit (hdigits digit List.mem_cons_self)
    obtain ⟨htake, hdrop⟩ := Text.span_append hdigits hstop
    rw [List.cons_append, Text.trimStart_cons hsolid, ← List.cons_append, htake, hdrop]
    exact ⟨rfl, hparenthesis⟩

theorem precision?_eq_some_iff {cs digits : List Char} :
    precision? cs = some digits ↔ IsPrecision cs digits := by
  constructor
  · intro h
    rw [precision?] at h
    obtain ⟨before, hbefore, hcs⟩ := Text.exists_eq_blanks_append_trimStart cs
    split at h
    · rename_i htrimmed
      obtain rfl := Option.some.inj h
      rw [htrimmed, List.append_nil] at hcs
      exact hcs ▸ .none hbefore
    · rename_i rest htrimmed
      obtain ⟨opened, hopened, hrest⟩ := Text.exists_eq_blanks_append_trimStart rest
      obtain ⟨closing, hclosing, hdropped⟩ := Text.exists_eq_blanks_append_trimStart
        ((Text.trimStart rest).dropWhile isDecimalDigit)
      dsimp only at h
      split at h
      · rename_i after hafter
        obtain ⟨hblank, h⟩ := Option.ite_none_right_eq_some.1 h
        obtain rfl := Option.some.inj h
        have hinner := @List.takeWhile_append_dropWhile _ isDecimalDigit (Text.trimStart rest)
        rw [hdropped, hafter] at hinner
        rw [htrimmed, hrest, ← hinner] at hcs
        rw [hcs]
        exact .between hbefore hopened (List.all_eq_true.1 List.all_takeWhile) hclosing
          (List.all_eq_true.1 hblank)
      · cases h
    · cases h
  · intro h
    cases h with
    | none hblanks =>
      have htrimmed := Text.trimStart_blanks_append hblanks []
      rw [List.append_nil] at htrimmed
      rw [precision?, htrimmed]
      rfl
    | @between before opened _ closing after hbefore hopened hdigits hclosing hafter =>
      obtain ⟨htake, hdrop⟩ := digits_before_closing hopened hdigits hclosing after
      rw [precision?, Text.trimStart_blanks_append hbefore, Text.trimStart_cons (by decide)]
      simp only [hdrop, htake]
      exact if_pos (List.all_eq_true.2 hafter)

/-- A precision does not go on with the name before it. -/
theorem IsPrecision.head_eq {cs digits : List Char} (h : IsPrecision cs digits) :
    ∀ c ∈ cs.head?, isBlank c = true ∨ c = '(' := by
  have hfirst : ∀ blanks more : List Char, AreBlank blanks →
      ∀ c ∈ (blanks ++ '(' :: more).head?, isBlank c = true ∨ c = '(' := by
    intro blanks more hblanks
    cases blanks with
    | nil =>
      rintro _ ⟨⟩
      exact .inr rfl
    | cons blank blanks =>
      rintro _ ⟨⟩
      exact .inl (hblanks blank List.mem_cons_self)
  cases h with
  | none hblanks => exact fun c hc => .inl (hblanks c (List.mem_of_mem_head? hc))
  | between hbefore hopened hdigits hclosing hafter => exact hfirst _ _ hbefore

/-! ### The current time -/

/-- **A default that means the current time**, with a precision of some digits or of none. -/
inductive MeansNow : String → String → Prop
  | named {text name : String} {before word rest digits : List Char}
      (hname : name ∈ currentTimeNames) (hword : Text.folds name word = true)
      (hbefore : AreBlank before) (hrest : IsPrecision rest digits)
      (htext : text.toList = before ++ (word ++ rest)) : MeansNow text (String.ofList digits)

/-- A name of the current time is not empty and holds neither blanks nor parentheses. -/
theorem isWordChar_of_folds {name : String} {word : List Char} (hname : name ∈ currentTimeNames)
    (hword : Text.folds name word = true) :
    word ≠ [] ∧ ∀ c ∈ word, (!(isBlank c || c == '(')) = true := by
  have hnames : ∀ name ∈ currentTimeNames, name.toList ≠ []
      ∧ (name.toList.all fun c => !(isBlank c || c == '(')) = true := by
    decide
  obtain ⟨hne, hchars⟩ := hnames name hname
  rw [List.all_eq_true] at hchars
  rw [Text.folds, beq_iff_eq] at hword
  rw [← hword] at hne hchars
  refine ⟨fun hempty => hne (by rw [hempty]; rfl), ?_⟩
  intro c hc
  have hfolded := hchars (Text.fold c) (List.mem_map_of_mem hc)
  simp only [Bool.not_eq_true', Bool.or_eq_false_iff, beq_eq_false_iff_ne] at hfolded ⊢
  constructor
  · cases hblank : isBlank c with
    | false => rfl
    | true =>
      rw [Text.fold_of_isBlank hblank, hblank] at hfolded
      cases hfolded.1
  · rintro rfl
    exact hfolded.2 (by decide)

/-- **The current time is recognised** in exactly the texts that mean it. -/
theorem currentTime?_eq_some_iff {text precision : String} :
    currentTime? text = some precision ↔ MeansNow text precision := by
  constructor
  · intro h
    rw [currentTime?] at h
    obtain ⟨hnames, h⟩ := Option.ite_none_right_eq_some.1 h
    obtain ⟨name, hname, hword⟩ := List.any_eq_true.1 hnames
    obtain ⟨digits, hdigits, rfl⟩ := Option.map_eq_some_iff.1 h
    obtain ⟨before, hbefore, htext⟩ := Text.exists_eq_blanks_append_trimStart text.toList
    refine .named hname hword hbefore (precision?_eq_some_iff.1 hdigits) ?_
    rw [List.takeWhile_append_dropWhile]
    exact htext
  · rintro ⟨hname, hword, hbefore, hrest, htext⟩
    rename_i name before word rest digits
    obtain ⟨hne, hchars⟩ := isWordChar_of_folds hname hword
    obtain ⟨first, more, rfl⟩ := List.exists_cons_of_ne_nil hne
    have hsolid : isBlank first = false := by
      have hfirst := hchars first List.mem_cons_self
      rw [Bool.not_eq_true', Bool.or_eq_false_iff] at hfirst
      exact hfirst.1
    have htrimmed : Text.trimStart text.toList = first :: more ++ rest := by
      rw [htext, Text.trimStart_blanks_append hbefore, List.cons_append,
        Text.trimStart_cons hsolid]
    have hstop : ∀ c ∈ rest.head?, (!(isBlank c || c == '(')) = false := by
      intro c hc
      rcases hrest.head_eq c hc with hblank | rfl
      · rw [hblank]
        rfl
      · rfl
    obtain ⟨htake, hdrop⟩ := Text.span_append hchars hstop
    have hnames : (currentTimeNames.any fun name => Text.folds name (first :: more)) = true :=
      List.any_eq_true.2 ⟨name, hname, hword⟩
    rw [currentTime?, htrimmed, htake, hdrop, if_pos hnames, precision?_eq_some_iff.2 hrest]
    rfl

/-- The precision is kept as it is written, in digits of any script. -/
theorem MeansNow.isDecimalDigit {text precision : String} (h : MeansNow text precision) :
    ∀ c ∈ precision.toList, Text.isDecimalDigit c = true := by
  obtain ⟨-, -, -, hrest, -⟩ := h
  rw [String.toList_ofList]
  cases hrest with
  | none hblanks => exact fun c hc => nomatch hc
  | between hbefore hopened hdigits hclosing hafter => exact hdigits

/-! ### Bit literals -/

/-- **A bit literal**, in either case and with blanks around it. -/
inductive IsBits : String → Prop
  | quoted {text : String} {before bits after : List Char} {letter : Char}
      (hbefore : AreBlank before) (hletter : letter = 'b' ∨ letter = 'B')
      (hbits : ∀ bit ∈ bits, bit = '0' ∨ bit = '1') (hafter : AreBlank after)
      (htext : text.toList = before ++ ((letter :: '\'' :: (bits ++ ['\''])) ++ after)) :
      IsBits text

theorem fold_eq_b_iff {c : Char} : Text.fold c = 'b' ↔ c = 'b' ∨ c = 'B' := by
  constructor
  · intro h
    have hlower : c.toLower = 'b' := by
      rw [Text.fold] at h
      split at h
      · cases h
      · split at h
        · cases h
        · exact h
    exact Text.of_toLower_isAlpha (P := fun c => c.toLower = 'b' → c = 'b' ∨ c = 'B') (by decide)
      (by rw [hlower]; decide) hlower
  · rintro (rfl | rfl) <;> decide

/-- **Bit literals are recognised** in exactly the texts that are one. -/
theorem isBitLiteral_iff {text : String} : isBitLiteral text = true ↔ IsBits text := by
  constructor
  · intro h
    rw [isBitLiteral] at h
    split at h
    · rename_i letter rest htrimmed
      simp only [Bool.and_eq_true, beq_iff_eq, List.all_eq_true, Bool.or_eq_true] at h
      obtain ⟨⟨hletter, hlast⟩, hbits⟩ := h
      obtain ⟨before, after, hbefore, hafter, htext⟩ :=
        Text.exists_eq_blanks_append_trim text.toList
      obtain ⟨bits, rfl⟩ := List.getLast?_eq_some_iff.1 hlast
      rw [List.dropLast_concat] at hbits
      rw [htrimmed] at htext
      exact .quoted hbefore (fold_eq_b_iff.1 hletter) hbits hafter htext
    · cases h
  · rintro ⟨hbefore, hletter, hbits, hafter, htext⟩
    rename_i before bits after letter
    have hsolid : isBlank letter = false := by
      rcases hletter with rfl | rfl <;> decide
    have htrimmed : Text.trim text.toList = letter :: '\'' :: (bits ++ ['\'']) := by
      rw [htext]
      have hlast : (letter :: '\'' :: (bits ++ ['\''])).getLast? = some '\'' := by
        rw [← List.cons_append, ← List.cons_append, List.getLast?_concat]
      exact Text.trim_between hbefore hafter rfl hlast hsolid (by decide)
    rw [isBitLiteral, htrimmed]
    simp only [Bool.and_eq_true, beq_iff_eq, List.all_eq_true, Bool.or_eq_true]
    refine ⟨⟨fold_eq_b_iff.2 hletter, List.getLast?_concat⟩, ?_⟩
    rw [List.dropLast_concat]
    exact hbits

end Sql
end SchemaDump
