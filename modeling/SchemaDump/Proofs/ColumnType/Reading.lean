/-
  SchemaDump/Proofs/ColumnType/Reading.lean
  =========================================
  **A written type is read for what it is.**

  The reader takes the shortest base after which arguments and modifiers can be
  read, and the longest arguments.  A base of several words is still not cut
  short: what is left of it would have to be modifiers, but its last word is none.
  Arguments are not cut short either: no closing parenthesis comes after theirs.
-/
import Mathlib.Data.List.Basic
import SchemaDump.ColumnType.Reading
import SchemaDump.Proofs.Text.Words

namespace SchemaDump.ColumnType

open Text (AreBlank IsSetOff words trimStart)

/-! ### Modifiers -/

theorem modifiers?_eq_some {cs : List Char} (hcs : IsSetOff cs)
    (h : ∀ word ∈ words cs, isModifier word = true) : modifiers? cs = some (words cs) := by
  have hall : (cs.head?.all Text.isBlank && (words cs).all isModifier) = true := by
    rw [Bool.and_eq_true, List.all_eq_true]
    exact ⟨hcs, h⟩
  rw [modifiers?, if_pos hall]

theorem modifiers?_eq_none {cs word : List Char} (hword : word ∈ words cs)
    (h : isModifier word = false) : modifiers? cs = none := by
  have hall : ¬(cs.head?.all Text.isBlank && (words cs).all isModifier) = true := by
    rw [Bool.and_eq_true, List.all_eq_true]
    rintro ⟨-, hall⟩
    rw [hall word hword] at h
    cases h
  rw [modifiers?, if_neg hall]

theorem modifiers?_cons_eq_none {c : Char} (hc : Text.isBlank c = false) (cs : List Char) :
    modifiers? (c :: cs) = none := by
  rw [modifiers?, List.head?_cons, Option.all_some, hc, Bool.false_and,
    if_neg Bool.false_ne_true]

theorem isModifier_eq_false_of_mem {mark : Char} {word : List Char} (hword : mark ∈ word)
    (hmark : Text.fold mark ∉ "unsigned".toList ++ "signed".toList ++ "zerofill".toList) :
    isModifier word = false := by
  have hfolds : ∀ keyword : String, Text.fold mark ∉ keyword.toList →
      Text.folds keyword word = false := by
    intro keyword hkeyword
    rw [Text.folds, beq_eq_false_iff_ne]
    intro heq
    exact hkeyword (heq ▸ List.mem_map_of_mem hword)
  rw [List.mem_append, List.mem_append, not_or, not_or] at hmark
  rw [isModifier, hfolds _ hmark.1.1, hfolds _ hmark.1.2, hfolds _ hmark.2]
  rfl

/-- No modifiers hold an opening parenthesis. -/
theorem modifiers?_eq_none_of_parenthesis {cs : List Char} (h : '(' ∈ cs) :
    modifiers? cs = none := by
  have hsolid : Text.isBlank '(' = false := by decide
  obtain ⟨word, hword, hmem⟩ := Text.exists_mem_words hsolid h
  exact modifiers?_eq_none hword (isModifier_eq_false_of_mem hmem (by decide))

/-! ### Arguments -/

theorem closing?_eq_none {cs : List Char} (h : ')' ∉ cs) : closing? cs = none := by
  induction cs with
  | nil => rfl
  | cons c cs ih =>
    rw [List.mem_cons, not_or] at h
    have hc : (c == ')') = false := beq_eq_false_iff_ne.2 (Ne.symm h.1)
    rw [closing?, ih h.2, hc]
    split <;> rfl

/-- **Arguments go up to the last closing parenthesis.** -/
theorem closing?_append {arguments after : List Char} {modifiers : List (List Char)}
    (harguments : '\n' ∉ arguments) (hafter : ')' ∉ after)
    (h : modifiers? after = some modifiers) :
    closing? (arguments ++ ')' :: after) = some (arguments, modifiers) := by
  induction arguments with
  | nil =>
    rw [List.nil_append, closing?, closing?_eq_none hafter, h]
    rfl
  | cons c arguments ih =>
    rw [List.mem_cons, not_or] at harguments
    have hc : (c == '\n') = false := beq_eq_false_iff_ne.2 (Ne.symm harguments.1)
    rw [List.cons_append, closing?, hc, ih harguments.2]
    rfl

theorem tail?_of_arguments {gap arguments after : List Char} {modifiers : List (List Char)}
    (hgap : AreBlank gap) (harguments : '\n' ∉ arguments) (hafter : ')' ∉ after)
    (h : modifiers? after = some modifiers) :
    tail? (gap ++ '(' :: (arguments ++ ')' :: after)) = some (some arguments, modifiers) := by
  have hopen : trimStart (gap ++ '(' :: (arguments ++ ')' :: after))
      = '(' :: (arguments ++ ')' :: after) := by
    rw [Text.trimStart_blanks_append hgap, Text.trimStart_cons (by decide)]
  rw [tail?, hopen]
  simp only [closing?_append harguments hafter h, Option.map_some]

theorem trimStart_ne {mark c : Char} {cs : List Char} (hmark : mark ∉ cs) (hc : c ∈ cs)
    (hsolid : Text.isBlank c = false) (after rest : List Char) :
    trimStart (cs ++ after) ≠ mark :: rest := by
  induction cs with
  | nil => cases hc
  | cons first cs ih =>
    rw [List.mem_cons, not_or] at hmark
    cases hfirst : Text.isBlank first with
    | true =>
      have hblank : AreBlank [first] := by simpa [AreBlank] using hfirst
      have hskip := Text.trimStart_blanks_append hblank (cs ++ after)
      rcases List.mem_cons.1 hc with rfl | hmore
      · rw [hsolid] at hfirst
        cases hfirst
      · have hrest := ih hmark.2 hmore
        rwa [← hskip] at hrest
    | false =>
      rw [List.cons_append, Text.trimStart_cons hfirst]
      intro heq
      exact hmark.1 (List.cons.inj heq).1.symm

/-- Without a parenthesis next, only modifiers may follow. -/
theorem tail?_of_modifiers {cs : List Char} (h : ∀ rest, trimStart cs ≠ '(' :: rest) :
    tail? cs = (modifiers? cs).map fun modifiers => (none, modifiers) := by
  rw [tail?]
  split
  · rename_i rest heq
    exact absurd heq (h rest)
  · rfl

/-! ### The base -/

theorem readAfter_nil (base : List Char) :
    readAfter base []
      = (tail? []).map fun (arguments, modifiers) => ofParts base arguments modifiers := by
  rfl

theorem readAfter_cons (base : List Char) (c : Char) (cs : List Char) :
    readAfter base (c :: cs)
      = match tail? (c :: cs) with
        | some (arguments, modifiers) => some (ofParts base arguments modifiers)
        | none => if isBaseChar c then readAfter (base ++ [c]) cs else none := by
  rfl

theorem isBaseLetter_of_isAlpha {c : Char} (h : c.isAlpha = true) : isBaseLetter c = true := by
  have halphanum := Text.isAlphanum_of_isAlpha h
  have hlower : c.toLower.isLower = true := Text.isLower_toLower h
  delta Char.isLower at hlower
  rw [Bool.and_eq_true, decide_eq_true_eq, decide_eq_true_eq] at hlower
  rw [isBaseLetter, Text.fold_of_isAlphanum halphanum, Bool.and_eq_true, decide_eq_true_eq,
    decide_eq_true_eq]
  exact hlower

theorem isBaseChar_of_isAlphanum {c : Char} (h : c.isAlphanum = true) : isBaseChar c = true := by
  rw [isBaseChar, Bool.or_eq_true, Bool.or_eq_true]
  rw [Char.isAlphanum, Bool.or_eq_true] at h
  exact .inl (h.imp isBaseLetter_of_isAlpha id)

theorem readAfter_of_tail? {base cs : List Char} {arguments : Option (List Char)}
    {modifiers : List (List Char)} (h : tail? cs = some (arguments, modifiers)) :
    readAfter base cs = some (ofParts base arguments modifiers) := by
  cases cs with
  | nil => rw [readAfter_nil, h, Option.map_some]
  | cons c cs => rw [readAfter_cons, h]

/-- The base is read to its end, if nothing can be read after a shorter one. -/
theorem readAfter_append {before base after : List Char} {arguments : Option (List Char)}
    {modifiers : List (List Char)} (hbase : ∀ c ∈ base, isBaseChar c = true)
    (hshorter : ∀ passed rest, base = passed ++ rest → rest ≠ [] → tail? (rest ++ after) = none)
    (h : tail? after = some (arguments, modifiers)) :
    readAfter before (base ++ after) = some (ofParts (before ++ base) arguments modifiers) := by
  induction base generalizing before with
  | nil =>
    rw [List.nil_append, List.append_nil]
    exact readAfter_of_tail? h
  | cons c base ih =>
    rw [List.forall_mem_cons] at hbase
    have hnone : tail? (c :: (base ++ after)) = none :=
      hshorter [] (c :: base) rfl (List.cons_ne_nil _ _)
    have hrest : readAfter (before ++ [c]) (base ++ after)
        = some (ofParts (before ++ [c] ++ base) arguments modifiers) :=
      ih hbase.2 fun passed rest hsplit => hshorter (c :: passed) rest (by rw [hsplit]; rfl)
    rw [List.cons_append, readAfter_cons, hnone]
    simp only [hbase.1, if_true, hrest, List.append_assoc, List.singleton_append]

/-- **A type is read in its parts**, if nothing can be read after a shorter base. -/
theorem read?_of_tail? {leading base after : List Char} {arguments : Option (List Char)}
    {modifiers : List (List Char)} (hleading : AreBlank leading)
    (hletter : base.head?.any Char.isAlpha = true)
    (hbase : ∀ c ∈ base, c.isAlphanum = true ∨ c = ' ')
    (hshorter : ∀ passed rest, base = passed ++ rest → passed ≠ [] → rest ≠ [] →
      tail? (rest ++ after) = none)
    (h : tail? after = some (arguments, modifiers)) :
    read? (String.ofList (leading ++ (base ++ after)))
      = some (ofParts base arguments modifiers) := by
  cases base with
  | nil => cases hletter
  | cons c base =>
    rw [List.head?_cons, Option.any_some] at hletter
    have halphanum := Text.isAlphanum_of_isAlpha hletter
    have hstart : trimStart (String.ofList (leading ++ (c :: base ++ after))).toList
        = c :: (base ++ after) := by
      rw [String.toList_ofList, Text.trimStart_blanks_append hleading, List.cons_append,
        Text.trimStart_cons (Text.isBlank_of_isAlphanum halphanum)]
    have hrest : ∀ d ∈ base, isBaseChar d = true := by
      intro d hd
      rcases hbase d (List.mem_cons_of_mem _ hd) with hplain | rfl
      · exact isBaseChar_of_isAlphanum hplain
      · decide
    rw [read?, hstart]
    simp only [isBaseLetter_of_isAlpha hletter, if_true]
    exact readAfter_append hrest
      (fun passed rest hsplit => hshorter (c :: passed) rest (by rw [hsplit]; rfl)
        (List.cons_ne_nil _ _)) h

/-! ### What is left of a base cannot be read as modifiers -/

theorem tail?_eq_none_of_parenthesis {rest after : List Char} {c : Char} (hc : c ∈ rest)
    (hsolid : Text.isBlank c = false) (hrest : '(' ∉ rest) (hafter : '(' ∈ after) :
    tail? (rest ++ after) = none := by
  rw [tail?_of_modifiers (trimStart_ne hrest hc hsolid after),
    modifiers?_eq_none_of_parenthesis (List.mem_append_right rest hafter)]
  rfl

/-- **A base of one word is read with its arguments.** -/
theorem read?_of_word {word arguments : List Char} (hletter : word.head?.any Char.isAlpha = true)
    (hword : ∀ c ∈ word, c.isAlphanum = true) (harguments : '\n' ∉ arguments) :
    read? (String.ofList (word ++ '(' :: (arguments ++ [')'])))
      = some (ofParts word (some arguments) []) := by
  have hnothing : AreBlank [] := by decide
  have hclose : ')' ∉ ([] : List Char) := List.not_mem_nil
  have hmodifiers : modifiers? [] = some [] := by decide
  have htail := tail?_of_arguments hnothing harguments hclose hmodifiers
  rw [List.nil_append] at htail
  have hshorter : ∀ passed rest, word = passed ++ rest → passed ≠ [] → rest ≠ [] →
      tail? (rest ++ '(' :: (arguments ++ [')'])) = none := by
    intro passed rest hsplit _ hne
    obtain ⟨c, hc⟩ := List.exists_mem_of_ne_nil rest hne
    have hplain : ∀ d ∈ rest, d.isAlphanum = true :=
      fun d hd => hword d (hsplit ▸ List.mem_append_right passed hd)
    refine tail?_eq_none_of_parenthesis hc (Text.isBlank_of_isAlphanum (hplain c hc)) ?_
      List.mem_cons_self
    exact fun hmem => absurd (hplain '(' hmem) (by decide)
  have hread := read?_of_tail? hnothing hletter (fun c hc => .inl (hword c hc)) hshorter htail
  rw [List.nil_append] at hread
  exact hread

/-- What is left of a base is a part of its last word, or ends with the whole word after a space;
    a word that is no modifier lets nothing be read. -/
theorem tail?_eq_none_of_word {front word passed rest after : List Char}
    (hfront : front = [] ∨ ∃ more, front = more ++ [' '])
    (hword : ∀ c ∈ word, Text.isBlank c = false) (hsome : word ≠ [])
    (hmodifier : front ≠ [] → isModifier word = false) (hsplit : front ++ word = passed ++ rest)
    (hne : rest ≠ []) (hparenthesis : '(' ∉ rest) (hafter : IsSetOff after) :
    tail? (rest ++ after) = none := by
  have hpart : (∀ c ∈ rest, Text.isBlank c = false) → tail? (rest ++ after) = none := by
    intro hrest
    obtain ⟨c, cs, rfl⟩ := List.exists_cons_of_ne_nil hne
    rw [List.forall_mem_cons] at hrest
    rw [tail?_of_modifiers (trimStart_ne hparenthesis List.mem_cons_self hrest.1 after),
      List.cons_append, modifiers?_cons_eq_none hrest.1]
    rfl
  rcases List.append_eq_append_iff.1 hsplit with ⟨start, -, rfl⟩ | ⟨left, hleft, rfl⟩
  · exact hpart fun c hc => hword c (List.mem_append_right start hc)
  · rcases List.eq_nil_or_concat left with rfl | ⟨before, last, rfl⟩
    · exact hpart hword
    · rcases hfront with rfl | ⟨more, rfl⟩
      · simp at hleft
      · have hspace : ' ' = last := by
          rw [List.concat_eq_append, ← List.append_assoc] at hleft
          exact (List.append_inj' hleft rfl).2 |> List.singleton_inj.1
        subst hspace
        have hmem : word ∈ words (before ++ ' ' :: (word ++ after)) := by
          rw [Text.words_append_cons (by decide), Text.words_word_append hword hsome hafter]
          exact List.mem_append_right _ List.mem_cons_self
        obtain ⟨c, cs, rfl⟩ := List.exists_cons_of_ne_nil hsome
        have hc : c ∈ before.concat ' ' ++ c :: cs := List.mem_append_right _ List.mem_cons_self
        rw [tail?_of_modifiers
          (trimStart_ne hparenthesis hc (hword c List.mem_cons_self) after)]
        rw [List.concat_eq_append, List.append_assoc, List.append_assoc, List.singleton_append,
          modifiers?_eq_none hmem (hmodifier (by simp))]
        rfl

/-! ### Types as they may be written -/

/-- A word of a base: ASCII letters and digits. -/
structure BaseWord where
  text : String
  nonempty : text.toList ≠ []
  plain : ∀ c ∈ text.toList, c.isAlphanum = true

inductive Modifier where
  | unsigned
  | signed
  | zerofill
deriving DecidableEq, Repr

def Modifier.name : Modifier → String
  | .unsigned => "unsigned"
  | .signed => "signed"
  | .zerofill => "zerofill"

/-- A modifier in any case, after blanks. -/
structure WrittenModifier where
  gap : List Char
  blank : AreBlank gap
  apart : gap ≠ []
  modifier : Modifier
  text : String
  same : Text.sameLetters text modifier.name = true

/-- Arguments on one line, between parentheses and after any blanks. -/
structure WrittenArguments where
  gap : List Char
  blank : AreBlank gap
  text : String
  oneLine : '\n' ∉ text.toList

def WrittenModifier.chars (written : WrittenModifier) : List Char :=
  written.gap ++ written.text.toList

def WrittenArguments.chars (written : WrittenArguments) : List Char :=
  written.gap ++ '(' :: (written.text.toList ++ [')'])

/-- A word with a space after it and any number of further ones. -/
def spaced (item : BaseWord × Nat) : List Char :=
  item.1.text.toList ++ List.replicate (item.2 + 1) ' '

/-- **A type as it may be written.**  Blanks may stand around it.  Its base is one word or more,
    with spaces between them; the first letter is none of the digits, and the last of several words
    is no modifier. -/
structure WrittenType where
  leading : List Char
  leadingBlank : AreBlank leading
  front : List (BaseWord × Nat)
  last : BaseWord
  letter : (front.flatMap spaced ++ last.text.toList).head?.any Char.isAlpha = true
  noModifier : front ≠ [] → ∀ modifier : Modifier,
    Text.sameLetters last.text modifier.name = false
  arguments : Option WrittenArguments
  modifiers : List WrittenModifier
  trailing : List Char
  trailingBlank : AreBlank trailing

namespace WrittenType

def base (written : WrittenType) : List Char :=
  written.front.flatMap spaced ++ written.last.text.toList

/-- What stands after the base and the arguments. -/
def ending (written : WrittenType) : List Char :=
  written.modifiers.flatMap WrittenModifier.chars ++ written.trailing

def text (written : WrittenType) : String :=
  String.ofList (written.leading
    ++ (written.base ++ (written.arguments.elim [] WrittenArguments.chars ++ written.ending)))

def words (written : WrittenType) : List BaseWord := written.front.map Prod.fst ++ [written.last]

end WrittenType

/-! ### Parts of written types -/

theorem BaseWord.isBlank_eq_false (word : BaseWord) :
    ∀ c ∈ word.text.toList, Text.isBlank c = false :=
  fun c hc => Text.isBlank_of_isAlphanum (word.plain c hc)

theorem BaseWord.isModifier_eq_false {word : BaseWord}
    (h : ∀ modifier : Modifier, Text.sameLetters word.text modifier.name = false) :
    isModifier word.text.toList = false := by
  have hfolds : ∀ modifier : Modifier, Text.folds modifier.name word.text.toList = false := by
    intro modifier
    have hlower : Text.lower modifier.name = modifier.name := by cases modifier <;> decide
    rw [Text.folds_eq_sameLetters hlower word.plain, String.ofList_toList]
    exact h modifier
  have hunsigned := hfolds .unsigned
  have hsigned := hfolds .signed
  have hzerofill := hfolds .zerofill
  simp only [Modifier.name] at hunsigned hsigned hzerofill
  rw [isModifier, hunsigned, hsigned, hzerofill]
  rfl

namespace WrittenModifier

theorem isAlpha_of_mem (written : WrittenModifier) :
    ∀ c ∈ written.text.toList, c.isAlpha = true := by
  intro c hc
  have hletters : ∀ d ∈ (Text.lower written.modifier.name).toList, d.isAlpha = true := by
    cases written.modifier <;> exact List.all_eq_true.1 (by decide)
  have hmem : c.toLower ∈ (Text.lower written.text).toList := by
    rw [Text.lower, String.toList_ofList]
    exact List.mem_map_of_mem hc
  rw [beq_iff_eq.1 written.same] at hmem
  exact Text.isAlpha_of_toLower (hletters _ hmem)

theorem isAlphanum_of_mem (written : WrittenModifier) :
    ∀ c ∈ written.text.toList, c.isAlphanum = true :=
  fun c hc => Text.isAlphanum_of_isAlpha (written.isAlpha_of_mem c hc)

theorem isModifier_text (written : WrittenModifier) : isModifier written.text.toList = true := by
  have hlower : Text.lower written.modifier.name = written.modifier.name := by
    cases written.modifier <;> decide
  have hfolds := Text.folds_eq_sameLetters hlower written.isAlphanum_of_mem
  rw [String.ofList_toList, written.same] at hfolds
  rw [isModifier]
  cases hmodifier : written.modifier <;> rw [hmodifier] at hfolds <;>
    simp only [Modifier.name] at hfolds <;> rw [hfolds] <;> simp

theorem ne_nil (written : WrittenModifier) : written.text.toList ≠ [] := by
  intro hnil
  have hsame := written.same
  rw [String.toList_eq_nil_iff.1 hnil] at hsame
  revert hsame
  cases written.modifier <;> decide

/-- Of the modifiers only one is the unsigned one. -/
theorem sameLetters_unsigned (written : WrittenModifier) :
    Text.sameLetters written.text "unsigned" = (written.modifier == .unsigned) := by
  rw [Text.sameLetters, beq_iff_eq.1 written.same]
  cases written.modifier <;> decide

theorem isSetOff_append {trailing : List Char} (h : AreBlank trailing)
    (modifiers : List WrittenModifier) : IsSetOff (modifiers.flatMap chars ++ trailing) := by
  cases modifiers with
  | nil => exact h.isSetOff
  | cons first others =>
    rw [List.flatMap_cons, chars, List.append_assoc, List.append_assoc]
    exact first.blank.isSetOff_append first.apart

theorem words_append {trailing : List Char} (h : AreBlank trailing)
    (modifiers : List WrittenModifier) :
    Text.words (modifiers.flatMap chars ++ trailing)
      = modifiers.map fun written => written.text.toList := by
  induction modifiers with
  | nil => exact Text.words_of_areBlank h
  | cons first others ih =>
    have hsolid : ∀ c ∈ first.text.toList, Text.isBlank c = false :=
      fun c hc => Text.isBlank_of_isAlphanum (first.isAlphanum_of_mem c hc)
    rw [List.flatMap_cons, chars, List.append_assoc, List.append_assoc,
      Text.words_blanks_append first.blank,
      Text.words_word_append hsolid first.ne_nil (isSetOff_append h others), ih]
    rfl

end WrittenModifier

/-- Before the last word of a base there is nothing or a space. -/
theorem flatMap_spaced_eq (front : List (BaseWord × Nat)) :
    front.flatMap spaced = [] ∨ ∃ more, front.flatMap spaced = more ++ [' '] := by
  rcases List.eq_nil_or_concat front with rfl | ⟨others, item, rfl⟩
  · exact .inl rfl
  · refine .inr ⟨others.flatMap spaced ++ (item.1.text.toList ++ List.replicate item.2 ' '), ?_⟩
    rw [List.concat_eq_append, List.flatMap_append, List.flatMap_singleton, spaced,
      List.replicate_succ', List.append_assoc, List.append_assoc]

theorem words_spaced (front : List (BaseWord × Nat)) (last : BaseWord) :
    words (front.flatMap spaced ++ last.text.toList)
      = (front.map Prod.fst ++ [last]).map fun word => word.text.toList := by
  induction front with
  | nil =>
    have hend : IsSetOff [] := rfl
    have hlast := Text.words_word_append last.isBlank_eq_false last.nonempty hend
    rw [List.append_nil] at hlast
    exact hlast
  | cons item front ih =>
    have hspaces : AreBlank (List.replicate (item.2 + 1) ' ') := by
      intro c hc
      rw [List.eq_of_mem_replicate hc]
      decide
    rw [List.flatMap_cons, spaced, List.append_assoc, List.append_assoc,
      Text.words_word_append item.1.isBlank_eq_false item.1.nonempty
        (hspaces.isSetOff_append (by simp)),
      Text.words_blanks_append hspaces, ih]
    rfl

namespace WrittenType

variable (written : WrittenType)

theorem isSetOff_ending : IsSetOff written.ending :=
  WrittenModifier.isSetOff_append written.trailingBlank written.modifiers

theorem modifiers?_ending :
    modifiers? written.ending
      = some (written.modifiers.map fun modifier => modifier.text.toList) := by
  have hwords : Text.words written.ending
      = written.modifiers.map fun modifier => modifier.text.toList :=
    WrittenModifier.words_append written.trailingBlank written.modifiers
  rw [modifiers?_eq_some written.isSetOff_ending, hwords]
  intro word hword
  rw [hwords] at hword
  obtain ⟨modifier, -, rfl⟩ := List.mem_map.1 hword
  exact modifier.isModifier_text

/-- Modifiers and blanks hold no parentheses. -/
theorem notMem_ending {mark : Char} (hblank : Text.isBlank mark = false)
    (hletter : mark.isAlpha = false) : mark ∉ written.ending := by
  have hgap : ∀ {blanks : List Char}, AreBlank blanks → mark ∉ blanks := by
    intro blanks h hmem
    rw [h mark hmem] at hblank
    cases hblank
  intro hmem
  rcases List.mem_append.1 hmem with hmem | hmem
  · obtain ⟨modifier, -, hmem⟩ := List.mem_flatMap.1 hmem
    rcases List.mem_append.1 hmem with hmem | hmem
    · exact hgap modifier.blank hmem
    · rw [modifier.isAlpha_of_mem mark hmem] at hletter
      cases hletter
  · exact hgap written.trailingBlank hmem

theorem mem_base {c : Char} (h : c ∈ written.base) : c.isAlphanum = true ∨ c = ' ' := by
  rcases List.mem_append.1 h with h | h
  · obtain ⟨⟨word, spaces⟩, -, h⟩ := List.mem_flatMap.1 h
    rcases List.mem_append.1 h with h | h
    · exact .inl (word.plain c h)
    · exact .inr (List.eq_of_mem_replicate h)
  · exact .inl (written.last.plain c h)

theorem words_base :
    Text.words written.base = written.words.map fun word => word.text.toList :=
  words_spaced written.front written.last

/-- No part of the base lets something be read after it, but the whole. -/
theorem tail?_eq_none_of_base {passed rest : List Char} (hsplit : written.base = passed ++ rest)
    (hne : rest ≠ []) :
    tail? (rest ++ (written.arguments.elim [] WrittenArguments.chars ++ written.ending))
      = none := by
  have hparenthesis : '(' ∉ rest := by
    intro hmem
    rcases written.mem_base (hsplit ▸ List.mem_append_right passed hmem) with h | h <;>
      exact absurd h (by decide)
  cases harguments : written.arguments with
  | none =>
    refine tail?_eq_none_of_word (flatMap_spaced_eq written.front) written.last.isBlank_eq_false
      written.last.nonempty ?_ hsplit hne hparenthesis written.isSetOff_ending
    intro hfront
    refine BaseWord.isModifier_eq_false (written.noModifier ?_)
    rintro hnil
    exact hfront (by rw [hnil]; rfl)
  | some arguments =>
    have hend : rest.getLast? = written.last.text.toList.getLast? := by
      rw [← List.getLast?_append_of_ne_nil passed hne, ← hsplit, base,
        List.getLast?_append_of_ne_nil _ written.last.nonempty]
    have hsolid : Text.isBlank (rest.getLast hne) = false := by
      refine written.last.isBlank_eq_false _ (List.mem_of_getLast? ?_)
      rw [← hend, List.getLast?_eq_getLast_of_ne_nil hne]
    refine tail?_eq_none_of_parenthesis (List.getLast_mem hne) hsolid hparenthesis ?_
    rw [Option.elim_some, WrittenArguments.chars]
    simp

/-- What is read after the base. -/
theorem tail?_text :
    tail? (written.arguments.elim [] WrittenArguments.chars ++ written.ending)
      = some (written.arguments.map fun arguments => arguments.text.toList,
        written.modifiers.map fun modifier => modifier.text.toList) := by
  cases harguments : written.arguments with
  | none =>
    have hopen : '(' ∉ written.ending := written.notMem_ending (by decide) (by decide)
    have hnext : ∀ rest, trimStart written.ending ≠ '(' :: rest := by
      intro rest heq
      exact hopen ((List.dropWhile_sublist _).subset (heq ▸ List.mem_cons_self))
    rw [Option.elim_none, List.nil_append, tail?_of_modifiers hnext, written.modifiers?_ending]
    rfl
  | some arguments =>
    have hclose : ')' ∉ written.ending := written.notMem_ending (by decide) (by decide)
    have htail := tail?_of_arguments arguments.blank arguments.oneLine hclose
      written.modifiers?_ending
    rw [Option.elim_some, WrittenArguments.chars, List.append_assoc, List.cons_append,
      List.append_assoc]
    exact htail

/-- **A written type is read in its parts**: its words in small letters with single spaces between
    them, its arguments without the blanks around them, and whether it is unsigned. -/
theorem read?_text :
    read? written.text = some
      { base := Text.joined " " (written.words.map fun word => Text.lower word.text)
        arguments := written.arguments.map fun arguments => Text.trimmed arguments.text
        unsigned := written.modifiers.any fun modifier => modifier.modifier == .unsigned } := by
  have hletter : written.base.head?.any Char.isAlpha = true := written.letter
  have hread := read?_of_tail? written.leadingBlank hletter
    (fun c => written.mem_base) (fun passed rest hsplit _ => written.tail?_eq_none_of_base hsplit)
    written.tail?_text
  have hwords : (Text.words written.base).map String.ofList
      = written.words.map BaseWord.text := by
    rw [written.words_base, List.map_map]
    exact List.map_congr_left fun word _ => String.ofList_toList
  have hunsigned : (written.modifiers.map fun modifier => modifier.text.toList).any
      (fun word => Text.sameLetters (String.ofList word) "unsigned")
        = written.modifiers.any fun modifier => modifier.modifier == .unsigned := by
    simp only [List.any_map, Function.comp_def, String.ofList_toList,
      WrittenModifier.sameLetters_unsigned]
  have harguments : (written.arguments.map fun arguments => arguments.text.toList).map
      (fun cs => String.ofList (Text.trim cs))
        = written.arguments.map fun arguments => Text.trimmed arguments.text := by
    rw [Option.map_map]
    rfl
  rw [text, hread, ofParts, hwords, hunsigned, harguments, Text.lower_joined, List.map_map]
  rfl

end WrittenType

/-- A type whose base holds a modifier, and whose arguments look like the end of a type. -/
def unsignedDouble : WrittenType where
  leading := ['\t']
  leadingBlank := by decide
  front := [(⟨"Double", by decide, List.all_eq_true.1 (by decide)⟩, 0),
    (⟨"unsigned", by decide, List.all_eq_true.1 (by decide)⟩, 1)]
  last := ⟨"precision", by decide, List.all_eq_true.1 (by decide)⟩
  letter := by decide
  noModifier := fun _ modifier => by cases modifier <;> decide
  arguments := some ⟨[' '], by decide, " a) unsigned", by decide⟩
  modifiers := [⟨[' ', '\n'], by decide, by decide, .zerofill, "ZeroFill", by decide⟩]
  trailing := []
  trailingBlank := by decide

theorem read?_unsignedDouble :
    read? "\tDouble unsigned  precision ( a) unsigned) \nZeroFill"
      = some ⟨"double unsigned precision", some "a) unsigned", false⟩ := by
  have htext : unsignedDouble.text = "\tDouble unsigned  precision ( a) unsigned) \nZeroFill" := by
    decide +kernel
  have hread := unsignedDouble.read?_text
  rw [htext] at hread
  exact hread.trans (by decide +kernel)

end SchemaDump.ColumnType
