/-
  SchemaDump/Proofs/Text/Words.lean
  =================================
  **Blanks, words and the case of letters.**

  Blanks before a text do not count when it is trimmed or cut into words, and a
  blank within it separates the words on its two sides, so that what has no blanks
  stands in a text if it stands in one of its words.  Of the characters that fold
  to ASCII letters only the letters themselves are the same without regard to
  case, so a word of ASCII letters and digits is read alike in both ways.
-/
import SchemaDump.Proofs.Text.Numeral
import SchemaDump.Text.Fold

namespace SchemaDump.Text

/-! ### Blanks -/

/-- Whether a text holds nothing but blanks. -/
def AreBlank (cs : List Char) : Prop := ∀ c ∈ cs, isBlank c = true

instance (cs : List Char) : Decidable (AreBlank cs) :=
  List.decidableBAll _ cs

/-- Whether what stands before the text is set off from its first word. -/
def IsSetOff (cs : List Char) : Prop := cs.head?.all isBlank = true

theorem AreBlank.isSetOff_append {blanks cs : List Char} (h : AreBlank blanks)
    (hne : blanks ≠ []) : IsSetOff (blanks ++ cs) := by
  cases blanks with
  | nil => exact absurd rfl hne
  | cons blank more => exact h blank List.mem_cons_self

theorem AreBlank.isSetOff {blanks : List Char} (h : AreBlank blanks) : IsSetOff blanks := by
  cases blanks with
  | nil => rfl
  | cons blank more => exact h blank List.mem_cons_self

theorem trimStart_blanks_append {blanks : List Char} (h : AreBlank blanks) (cs : List Char) :
    trimStart (blanks ++ cs) = trimStart cs :=
  List.dropWhile_append_of_pos h

/-- Nothing but blanks is missing from a text without its first blanks. -/
theorem exists_eq_blanks_append_trimStart (cs : List Char) :
    ∃ blanks, AreBlank blanks ∧ cs = blanks ++ trimStart cs := by
  refine ⟨cs.takeWhile isBlank, List.all_eq_true.1 List.all_takeWhile, ?_⟩
  exact List.takeWhile_append_dropWhile.symm

theorem trimStart_cons {c : Char} (h : isBlank c = false) (cs : List Char) :
    trimStart (c :: cs) = c :: cs := by
  rw [trimStart, List.dropWhile_cons, h, if_neg Bool.false_ne_true]

theorem trimEnd_append_blanks {blanks : List Char} (h : AreBlank blanks) (cs : List Char) :
    trimEnd (cs ++ blanks) = trimEnd cs := by
  rw [trimEnd, List.reverse_append, trimEnd, List.dropWhile_append_of_pos]
  exact fun c hc => h c (List.mem_reverse.1 hc)

/-- Nothing but blanks is missing from a trimmed text. -/
theorem exists_eq_blanks_append_trim (cs : List Char) :
    ∃ before after, AreBlank before ∧ AreBlank after ∧ cs = before ++ (trim cs ++ after) := by
  obtain ⟨before, hbefore, hcs⟩ := exists_eq_blanks_append_trimStart cs
  obtain ⟨after, hafter, hrest⟩ := exists_eq_blanks_append_trimStart (trimStart cs).reverse
  refine ⟨before, after.reverse, hbefore, fun c hc => hafter c (List.mem_reverse.1 hc), ?_⟩
  rw [List.reverse_eq_iff, List.reverse_append] at hrest
  rw [trim, trimEnd, ← trimStart, ← hrest]
  exact hcs

/-- Blanks around a text do not count when it is trimmed. -/
theorem trim_blanks_append {before after : List Char} (hbefore : AreBlank before)
    (hafter : AreBlank after) (cs : List Char) : trim (before ++ (cs ++ after)) = trim cs := by
  unfold trim
  rw [trimStart_blanks_append hbefore]
  unfold trimStart
  rw [List.dropWhile_append]
  split
  · rename_i hcs
    rw [← trimStart, ← List.append_nil after, trimStart_blanks_append hafter,
      List.isEmpty_iff.1 hcs]
    rfl
  · exact trimEnd_append_blanks hafter _

theorem trimEnd_append_singleton {c : Char} (h : isBlank c = false) (cs : List Char) :
    trimEnd (cs ++ [c]) = cs ++ [c] := by
  rw [trimEnd, List.reverse_append, List.reverse_singleton, List.singleton_append,
    List.dropWhile_cons, h, if_neg Bool.false_ne_true, List.reverse_cons, List.reverse_reverse]

/-- A text is what is left when the blanks around it are trimmed, if it has none at its ends. -/
theorem trim_between {before after cs : List Char} {first last : Char} (hbefore : AreBlank before)
    (hafter : AreBlank after) (hfirst : cs.head? = some first) (hlast : cs.getLast? = some last)
    (hstart : isBlank first = false) (hend : isBlank last = false) :
    trim (before ++ (cs ++ after)) = cs := by
  obtain ⟨rest, rfl⟩ := List.head?_eq_some_iff.1 hfirst
  obtain ⟨init, hinit⟩ := List.getLast?_eq_some_iff.1 hlast
  rw [trim, trimStart_blanks_append hbefore, List.cons_append, trimStart_cons hstart,
    ← List.cons_append, trimEnd_append_blanks hafter, hinit, trimEnd_append_singleton hend]

/-- A text cut where it stops to be of some kind. -/
theorem span_append {p : Char → Bool} {cs after : List Char} (hcs : ∀ c ∈ cs, p c = true)
    (hafter : ∀ c ∈ after.head?, p c = false) :
    (cs ++ after).takeWhile p = cs ∧ (cs ++ after).dropWhile p = after := by
  rw [List.takeWhile_append_of_pos hcs, List.dropWhile_append_of_pos hcs]
  cases after with
  | nil => exact ⟨List.append_nil cs, rfl⟩
  | cons c after =>
    have hc : ¬p c = true := by rw [hafter c rfl]; exact Bool.false_ne_true
    rw [List.takeWhile_cons_of_neg hc, List.dropWhile_cons_of_neg hc]
    exact ⟨List.append_nil cs, rfl⟩

/-! ### Words -/

theorem occursIn_iff {word cs : List Char} : occursIn word cs = true ↔ word <:+: cs := by
  induction cs with
  | nil => rw [occursIn, List.isEmpty_iff, List.infix_nil]
  | cons c cs ih => rw [occursIn, Bool.or_eq_true, List.isPrefixOf_iff_prefix, ih, List.infix_cons_iff]

section
variable {separator : Char → Bool}

theorem parts_append_cons {mark : Char} (h : separator mark = true) (before after : List Char) :
    parts separator (before ++ mark :: after)
      = parts separator before ++ parts separator after := by
  induction before with
  | nil =>
    have hcut : parts separator (mark :: after) = [] :: parts separator after := by
      rw [parts, if_pos h]
    exact hcut
  | cons c before ih =>
    rw [List.cons_append, parts, parts, ih]
    split
    · rfl
    · cases hparts : parts separator before with
      | nil => exact absurd hparts (parts_ne_nil separator before)
      | cons part more => rfl

theorem parts_of_forall {cs : List Char} (h : ∀ c ∈ cs, separator c = false) :
    parts separator cs = [cs] := by
  induction cs with
  | nil => rfl
  | cons c cs ih =>
    rw [List.forall_mem_cons] at h
    rw [parts, h.1, if_neg Bool.false_ne_true, ih h.2]

/-- Every character that does not separate stands in a part. -/
theorem exists_mem_parts {c : Char} {cs : List Char} (hc : separator c = false) (h : c ∈ cs) :
    ∃ part ∈ parts separator cs, c ∈ part := by
  induction cs with
  | nil => cases h
  | cons first cs ih =>
    rw [parts]
    split
    · rename_i hfirst
      rcases List.mem_cons.1 h with rfl | hrest
      · rw [hc] at hfirst
        cases hfirst
      · obtain ⟨part, hpart, hmem⟩ := ih hrest
        exact ⟨part, List.mem_cons_of_mem _ hpart, hmem⟩
    · cases hparts : parts separator cs with
      | nil => exact absurd hparts (parts_ne_nil separator cs)
      | cons part more =>
        rcases List.mem_cons.1 h with rfl | hrest
        · exact ⟨_, List.mem_cons_self, List.mem_cons_self⟩
        · obtain ⟨held, hheld, hmem⟩ := ih hrest
          rw [hparts] at hheld
          rcases List.mem_cons.1 hheld with rfl | hmore
          · exact ⟨_, List.mem_cons_self, List.mem_cons_of_mem _ hmem⟩
          · exact ⟨held, List.mem_cons_of_mem _ hmore, hmem⟩

theorem infix_of_mem_parts {part cs : List Char} (h : part ∈ parts separator cs) : part <:+: cs := by
  -- the first part starts the text, which only the character before it needs to know
  have hparts : (∀ first more, parts separator cs = first :: more → first <+: cs)
      ∧ ∀ part ∈ parts separator cs, part <:+: cs := by
    clear h
    induction cs with
    | nil => simp [parts]
    | cons c cs ih =>
      obtain ⟨hfirst, hall⟩ := ih
      rw [parts]
      split
      · refine ⟨?_, ?_⟩
        · rintro first more h
          obtain ⟨rfl, -⟩ := List.cons.inj h
          exact List.nil_prefix
        · intro part hmem
          rcases List.mem_cons.1 hmem with rfl | hmem
          · exact List.nil_infix
          · exact List.infix_cons (hall part hmem)
      · cases hcut : parts separator cs with
        | nil => exact absurd hcut (parts_ne_nil separator cs)
        | cons first more =>
          have hstart : c :: first <+: c :: cs :=
            List.cons_prefix_cons.2 ⟨rfl, hfirst first more hcut⟩
          refine ⟨?_, ?_⟩
          · rintro other others h
            obtain ⟨rfl, -⟩ := List.cons.inj h
            exact hstart
          · intro part hmem
            rcases List.mem_cons.1 hmem with rfl | hmem
            · exact hstart.isInfix
            · exact List.infix_cons (hall part (hcut ▸ List.mem_cons_of_mem _ hmem))
  exact hparts.2 part h

/-- Characters that do not separate go before the first part. -/
theorem parts_append_of_forall {cs : List Char} (h : ∀ c ∈ cs, separator c = false)
    (after : List Char) :
    ∃ first more, parts separator after = first :: more
      ∧ parts separator (cs ++ after) = (cs ++ first) :: more := by
  induction cs with
  | nil =>
    cases hafter : parts separator after with
    | nil => exact absurd hafter (parts_ne_nil separator after)
    | cons first more => exact ⟨first, more, rfl, hafter⟩
  | cons c cs ih =>
    rw [List.forall_mem_cons] at h
    obtain ⟨first, more, hafter, hcut⟩ := ih h.2
    refine ⟨first, more, hafter, ?_⟩
    rw [List.cons_append, parts, h.1, if_neg Bool.false_ne_true, hcut]
    rfl

/-- Within a text what has no separator is within one part. -/
theorem exists_mem_parts_of_infix {word cs : List Char} (hword : ∀ c ∈ word, separator c = false)
    (h : word <:+: cs) : ∃ part ∈ parts separator cs, word <:+: part := by
  obtain ⟨before, after, rfl⟩ := h
  rw [List.append_assoc]
  induction before with
  | nil =>
    obtain ⟨first, more, -, hcut⟩ := parts_append_of_forall hword after
    rw [List.nil_append, hcut]
    exact ⟨_, List.mem_cons_self, (List.prefix_append word first).isInfix⟩
  | cons c before ih =>
    obtain ⟨part, hpart, hinfix⟩ := ih
    rw [List.cons_append, parts]
    split
    · exact ⟨part, List.mem_cons_of_mem _ hpart, hinfix⟩
    · cases hcut : parts separator (before ++ (word ++ after)) with
      | nil => exact absurd hcut (parts_ne_nil separator _)
      | cons first more =>
        rw [hcut] at hpart
        rcases List.mem_cons.1 hpart with rfl | hmore
        · exact ⟨_, List.mem_cons_self, List.infix_cons hinfix⟩
        · exact ⟨part, List.mem_cons_of_mem _ hmore, hinfix⟩

/-- A change of characters that keeps separators changes each part by itself. -/
theorem parts_map {f : Char → Char} (h : ∀ c, separator (f c) = separator c) (cs : List Char) :
    parts separator (cs.map f) = (parts separator cs).map (List.map f) := by
  induction cs with
  | nil => rfl
  | cons c cs ih =>
    rw [List.map_cons, parts, parts, h, ih]
    split
    · rfl
    · cases parts separator cs with
      | nil => rfl
      | cons first more => rfl

end

theorem words_append_cons {blank : Char} (h : isBlank blank = true) (before after : List Char) :
    words (before ++ blank :: after) = words before ++ words after := by
  rw [words, parts_append_cons h, List.filter_append, words, words]

theorem words_blanks_append {blanks : List Char} (h : AreBlank blanks) (cs : List Char) :
    words (blanks ++ cs) = words cs := by
  induction blanks with
  | nil => rfl
  | cons blank more ih =>
    rw [AreBlank, List.forall_mem_cons] at h
    have hfirst := words_append_cons h.1 [] (more ++ cs)
    rw [List.nil_append] at hfirst
    rw [List.cons_append, hfirst, ih h.2]
    rfl

theorem words_of_areBlank {blanks : List Char} (h : AreBlank blanks) : words blanks = [] := by
  have hwords := words_blanks_append h []
  rw [List.append_nil] at hwords
  exact hwords

/-- A word comes first if what follows is set off from it. -/
theorem words_word_append {word cs : List Char} (hword : ∀ c ∈ word, isBlank c = false)
    (hne : word ≠ []) (hcs : IsSetOff cs) : words (word ++ cs) = word :: words cs := by
  have hsingle : words word = [word] := by
    rw [words, parts_of_forall hword, List.filter_cons, List.isEmpty_eq_false_iff.2 hne]
    rfl
  cases cs with
  | nil =>
    rw [List.append_nil, hsingle]
    rfl
  | cons blank cs =>
    have hblank : isBlank blank = true := hcs
    have hrest := words_append_cons hblank [] cs
    rw [List.nil_append] at hrest
    rw [words_append_cons hblank, hsingle, hrest]
    rfl

/-- **A text and its words**: blanks may stand around them and have to stand between them. -/
inductive HasWords : List Char → List (List Char) → Prop
  | blanks {cs : List Char} (hblanks : AreBlank cs) : HasWords cs []
  | word {before word rest : List Char} {more : List (List Char)} (hbefore : AreBlank before)
      (hne : word ≠ []) (hsolid : ∀ c ∈ word, isBlank c = false) (hrest : IsSetOff rest)
      (hmore : HasWords rest more) : HasWords (before ++ (word ++ rest)) (word :: more)

theorem HasWords.words_eq {cs : List Char} {held : List (List Char)} (h : HasWords cs held) :
    words cs = held := by
  induction h with
  | blanks hblanks => exact words_of_areBlank hblanks
  | word hbefore hne hsolid hrest _ ih =>
    rw [words_blanks_append hbefore, words_word_append hsolid hne hrest, ih]

/-- What goes before the first blank is set off from the rest. -/
theorem isSetOff_dropWhile (cs : List Char) : IsSetOff (cs.dropWhile fun c => !isBlank c) := by
  rw [IsSetOff, Option.all_eq_true]
  intro c hc
  have hstop := List.head?_dropWhile_not (fun c => !isBlank c) cs
  rw [hc] at hstop
  simpa using hstop

theorem hasWords_words (cs : List Char) : HasWords cs (words cs) := by
  -- a word and the blanks before it are taken off at a time, which leaves a shorter text
  induction hlength : cs.length using Nat.strongRecOn generalizing cs with
  | ind length ih =>
    obtain ⟨before, hbefore, hcs⟩ := exists_eq_blanks_append_trimStart cs
    cases htrimmed : trimStart cs with
    | nil =>
      rw [htrimmed, List.append_nil] at hcs
      rw [hcs, words_of_areBlank hbefore]
      exact .blanks hbefore
    | cons first more =>
      have hfirst : isBlank first = false := by
        have hhead := List.head?_dropWhile_not isBlank cs
        rw [← trimStart, htrimmed] at hhead
        simpa using hhead
      let word := first :: more.takeWhile fun c => !isBlank c
      let rest := more.dropWhile fun c => !isBlank c
      have hsolid : ∀ c ∈ word, isBlank c = false := by
        intro c hc
        rcases List.mem_cons.1 hc with rfl | hc
        · exact hfirst
        · simpa using List.all_eq_true.1 List.all_takeWhile c hc
      have hsplit : cs = before ++ (word ++ rest) := by
        rw [hcs, htrimmed, List.cons_append, List.takeWhile_append_dropWhile]
      have hshorter : rest.length < length := by
        rw [← hlength, hsplit, List.length_append, List.length_append, List.length_cons]
        omega
      have hoff : IsSetOff rest := isSetOff_dropWhile more
      have hne : word ≠ [] := List.cons_ne_nil _ _
      rw [hsplit, words_blanks_append hbefore, words_word_append hsolid hne hoff]
      exact .word hbefore hne hsolid hoff (ih _ hshorter rest rfl)

/-- Every character that is not blank stands in a word. -/
theorem exists_mem_words {c : Char} {cs : List Char} (hc : isBlank c = false) (h : c ∈ cs) :
    ∃ word ∈ words cs, c ∈ word := by
  obtain ⟨part, hpart, hmem⟩ := exists_mem_parts hc h
  refine ⟨part, List.mem_filter.2 ⟨hpart, ?_⟩, hmem⟩
  rw [List.isEmpty_eq_false_iff.2 (List.ne_nil_of_mem hmem)]
  rfl

/-- **What has no blanks stands in a text exactly if it stands in one of its words.** -/
theorem infix_iff_exists_word {word cs : List Char} (hne : word ≠ [])
    (hword : ∀ c ∈ word, isBlank c = false) :
    word <:+: cs ↔ ∃ held ∈ words cs, word <:+: held := by
  constructor
  · intro h
    obtain ⟨part, hpart, hinfix⟩ := exists_mem_parts_of_infix hword h
    have hpartNe : part ≠ [] := by
      rintro rfl
      exact hne (List.infix_nil.1 hinfix)
    refine ⟨part, List.mem_filter.2 ⟨hpart, ?_⟩, hinfix⟩
    rw [List.isEmpty_eq_false_iff.2 hpartNe]
    rfl
  · rintro ⟨held, hheld, hinfix⟩
    exact hinfix.trans (infix_of_mem_parts (List.mem_filter.1 hheld).1)

/-! ### Beginnings -/

/-- A text that begins otherwise does not go on from `start`. -/
theorem ne_append_of_take_ne {start text rest : String} (length : Nat)
    (hlength : length ≤ start.toList.length)
    (h : text.toList.take length ≠ start.toList.take length) : text ≠ start ++ rest := by
  rintro rfl
  apply h
  rw [String.toList_append, List.take_append_of_le_length hlength]

/-! ### Letters -/

theorem isAlpha_of_isUpper {c : Char} (h : c.isUpper = true) : c.isAlpha = true := by
  delta Char.isAlpha
  rw [h, Bool.true_or]

theorem isAlpha_of_isLower {c : Char} (h : c.isLower = true) : c.isAlpha = true := by
  delta Char.isAlpha
  rw [h, Bool.or_true]

theorem isAlphanum_of_isAlpha {c : Char} (h : c.isAlpha = true) : c.isAlphanum = true := by
  delta Char.isAlphanum
  rw [h, Bool.true_or]

theorem isAlpha_of_toLower {c : Char} (h : c.toLower.isAlpha = true) : c.isAlpha = true := by
  delta Char.toLower at h
  split at h
  · rename_i hupper
    delta Char.isAlpha Char.isUpper
    simp only [Bool.or_eq_true, decide_eq_true_eq]
    exact .inl ⟨hupper.1, hupper.2⟩
  · exact h

theorem isLower_toLower {c : Char} (h : c.isAlpha = true) : c.toLower.isLower = true := by
  delta Char.isAlpha at h
  delta Char.toLower
  rw [Bool.or_eq_true] at h
  split
  · rename_i hupper
    delta Char.isLower
    simp only [Bool.and_eq_true, decide_eq_true_eq, UInt32.le_iff_toNat_le,
      UInt32.toNat_add, UInt32.toNat_sub, ge_iff_le] at hupper ⊢
    simp at hupper ⊢
    omega
  · rename_i hupper
    rcases h with h | h
    · delta Char.isUpper at h
      rw [decide_eq_true_eq] at h
      exact absurd h hupper
    · exact h

theorem toNat_le_of_isAlphanum {c : Char} (h : c.isAlphanum = true) :
    48 ≤ c.toNat ∧ c.toNat ≤ 122 := by
  delta Char.isAlphanum Char.isAlpha Char.isUpper Char.isLower Char.isDigit at h
  simp only [Bool.or_eq_true, Bool.and_eq_true, decide_eq_true_eq, ge_iff_le,
    UInt32.le_iff_toNat_le] at h
  have htoNat : c.toNat = c.val.toNat := rfl
  simp at h
  omega

/-- What holds of each character of ASCII, by its code. -/
theorem of_ascii {P : Char → Prop} (h : ∀ n < 128, P (Char.ofNat n)) {c : Char}
    (hc : c.toNat < 128) : P c := by
  have hcode := h c.toNat hc
  rwa [Char.ofNat_toNat] at hcode

/-- What holds of all characters of ASCII holds of a character that is a letter in small. -/
theorem of_toLower_isAlpha {P : Char → Prop} (h : ∀ n < 128, P (Char.ofNat n)) {c : Char}
    (hc : c.toLower.isAlpha = true) : P c := by
  have hrange := toNat_le_of_isAlphanum (isAlphanum_of_isAlpha (isAlpha_of_toLower hc))
  exact of_ascii h (by omega)

theorem isBlank_of_isAlphanum {c : Char} (h : c.isAlphanum = true) : isBlank c = false := by
  have hrange := toNat_le_of_isAlphanum h
  simp only [isBlank, Bool.or_eq_false_iff, Bool.and_eq_false_iff, decide_eq_false_iff_not,
    beq_eq_false_iff_ne]
  omega

theorem toLower_of_not_isUpper {c : Char} (h : ¬c.isUpper = true) : c.toLower = c := by
  delta Char.isUpper at h
  rw [decide_eq_true_eq] at h
  delta Char.toLower
  rw [dif_neg h]

theorem isBlank_toLower (c : Char) : isBlank c.toLower = isBlank c := by
  by_cases hupper : c.isUpper = true
  · have halpha := isAlpha_of_isUpper hupper
    have hlower := isAlpha_of_isLower (isLower_toLower halpha)
    rw [isBlank_of_isAlphanum (isAlphanum_of_isAlpha halpha),
      isBlank_of_isAlphanum (isAlphanum_of_isAlpha hlower)]
  · rw [toLower_of_not_isUpper hupper]

theorem trimStart_map_toLower (cs : List Char) :
    trimStart (cs.map Char.toLower) = (trimStart cs).map Char.toLower := by
  have hblank : isBlank ∘ Char.toLower = isBlank := funext isBlank_toLower
  rw [trimStart, List.dropWhile_map, hblank, trimStart]

/-- Trimming and making letters small do not disturb each other. -/
theorem lower_trimmed (s : String) : lower (trimmed s) = trimmed (lower s) := by
  have htrimEnd : ∀ cs : List Char, trimEnd (cs.map Char.toLower)
      = (trimEnd cs).map Char.toLower := by
    intro cs
    rw [trimEnd, trimEnd, ← List.map_reverse, ← trimStart, trimStart_map_toLower, List.map_reverse,
      trimStart]
  rw [lower, lower, trimmed, trimmed, String.toList_ofList, String.toList_ofList, trim, trim,
    trimStart_map_toLower, htrimEnd]

theorem words_map_toLower (cs : List Char) :
    words (cs.map Char.toLower) = (words cs).map (List.map Char.toLower) := by
  rw [words, words, parts_map isBlank_toLower, List.filter_map]
  congr 1
  refine List.filter_congr fun part _ => ?_
  cases part <;> rfl

/-- Blanks fold to themselves. -/
theorem fold_of_isBlank {c : Char} (h : isBlank c = true) : fold c = c := by
  have hupper : ¬c.isUpper = true := by
    intro hupper
    rw [isBlank_of_isAlphanum (isAlphanum_of_isAlpha (isAlpha_of_isUpper hupper))] at h
    cases h
  have hspecial : c.toNat ≠ 0x17F ∧ c.toNat ≠ 0x212A := by
    simp only [isBlank, Bool.or_eq_true, Bool.and_eq_true, decide_eq_true_eq, beq_iff_eq] at h
    omega
  rw [fold, if_neg (by simp [hspecial.1]), if_neg (by simp [hspecial.2]),
    toLower_of_not_isUpper hupper]

theorem fold_of_isAlphanum {c : Char} (h : c.isAlphanum = true) : fold c = c.toLower := by
  have hrange := toNat_le_of_isAlphanum h
  have hlong : (c.toNat == 0x17F) = false := by
    rw [beq_eq_false_iff_ne]
    omega
  have hkelvin : (c.toNat == 0x212A) = false := by
    rw [beq_eq_false_iff_ne]
    omega
  rw [fold, hlong, hkelvin, if_neg Bool.false_ne_true, if_neg Bool.false_ne_true]

theorem lower_append (first second : String) :
    lower (first ++ second) = lower first ++ lower second := by
  rw [lower, String.toList_append, List.map_append, String.ofList_append, lower, lower]

/-- Words in small letters, put together with spaces. -/
theorem lower_joined (words : List String) :
    lower (joined " " words) = joined " " (words.map lower) := by
  induction words with
  | nil => rfl
  | cons first others ih =>
    cases others with
    | nil => rfl
    | cons second more =>
      have hspace : lower " " = " " := by decide
      rw [joined, lower_append, lower_append, ih, hspace]
      rfl

/-- For words of ASCII letters and digits, folding and comparing without case are the same. -/
theorem folds_eq_sameLetters {keyword : String} (hkeyword : lower keyword = keyword)
    {word : List Char} (h : ∀ c ∈ word, c.isAlphanum = true) :
    folds keyword word = sameLetters (String.ofList word) keyword := by
  have hfold : word.map fold = word.map Char.toLower :=
    List.map_congr_left fun c hc => fold_of_isAlphanum (h c hc)
  rw [folds, sameLetters, hkeyword, hfold, lower, String.toList_ofList, Bool.eq_iff_iff, beq_iff_eq,
    beq_iff_eq, ← String.toList_inj, String.toList_ofList]

end SchemaDump.Text
