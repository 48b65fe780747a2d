/-
  SchemaDump/Proofs/Table/ExtraGrammar.lean
  =========================================
  **The grammar of a column's extras.**

  Extras are words, and each extra takes one of them or three.  Reading goes word
  by word: the first words of a list spell an extra, or they are `on update` with
  nothing after it, or nothing can be made of them (`spells_or_stops`).  What an
  extra takes is settled by its first words alone, so a list of words has one
  reading at most, and the word after `on update` is never read as an extra
  itself.
-/
import SchemaDump.Proofs.Text.Words
import SchemaDump.Table.Extra

namespace SchemaDump.Extra

open Text (sameLetters)

/-! ### The grammar -/

/-- The words that an extra is written with, in any case; any word may be the expression. -/
inductive Spells : List String → Extra → Prop
  | autoIncrement {word : String} (hword : sameLetters word "auto_increment" = true) :
      Spells [word] .autoIncrement
  | generatedDefault {word : String} (hword : sameLetters word "default_generated" = true) :
      Spells [word] .generatedDefault
  | onUpdate {on update : String} (expression : String) (hon : sameLetters on "on" = true)
      (hupdate : sameLetters update "update" = true) :
      Spells [on, update, expression] (.onUpdate expression)

/-- The words that some extras are written with, one extra after another. -/
inductive SpellAll : List String → List Extra → Prop
  | nil : SpellAll [] []
  | cons {words rest : List String} {extra : Extra} {extras : List Extra}
      (hfirst : Spells words extra) (hrest : SpellAll rest extras) :
      SpellAll (words ++ rest) (extra :: extras)

/-- Extras followed by an update without an expression. -/
def AreCutShort (words : List String) : Prop :=
  ∃ done extras on update, SpellAll done extras ∧ sameLetters on "on" = true
    ∧ sameLetters update "update" = true ∧ words = done ++ [on, update]

/-- **A text that is written with some extras.** -/
def IsWritten (text : String) (extras : List Extra) : Prop :=
  ∃ words, Text.HasWords text.toList (words.map String.toList) ∧ SpellAll words extras

/-- A text to which nothing but the expression of a last update is missing. -/
def IsCutShort (text : String) : Prop :=
  ∃ words, Text.HasWords text.toList (words.map String.toList) ∧ AreCutShort words

/-! ### One step of reading -/

/-- A word is one keyword at most. -/
theorem sameLetters_eq_false {word keyword : String} (other : String)
    (hne : Text.lower keyword ≠ Text.lower other) (h : sameLetters word keyword = true) :
    sameLetters word other = false := by
  rw [sameLetters, beq_iff_eq] at h
  rw [sameLetters, h, beq_eq_false_iff_ne]
  exact hne

/-- What begins an update is no extra by itself. -/
theorem apart_of_on {on : String} (h : sameLetters on "on" = true) :
    sameLetters on "auto_increment" = false ∧ sameLetters on "default_generated" = false :=
  ⟨sameLetters_eq_false "auto_increment" (by decide) h,
    sameLetters_eq_false "default_generated" (by decide) h⟩

/-- What spells an extra is read as it, whatever follows. -/
theorem Spells.ofWords_append {words : List String} {extra : Extra} (h : Spells words extra)
    (rest : List String) : ofWords (words ++ rest) = (ofWords rest).map (extra :: ·) := by
  cases h with
  | autoIncrement hword =>
    rw [ofWords.eq_def]
    simp [hword]
  | generatedDefault hword =>
    have hcounter := sameLetters_eq_false "auto_increment" (by decide) hword
    rw [ofWords.eq_def]
    simp [hword, hcounter]
  | onUpdate expression hon hupdate =>
    obtain ⟨hcounter, hgenerated⟩ := apart_of_on hon
    simp [ofWords, hon, hupdate, hcounter, hgenerated]

/-- An update without an expression is read as such. -/
theorem ofWords_on_update {on update : String} (hon : sameLetters on "on" = true)
    (hupdate : sameLetters update "update" = true) :
    ofWords [on, update] = .error .incomplete := by
  obtain ⟨hcounter, hgenerated⟩ := apart_of_on hon
  simp [ofWords, hon, hupdate, hcounter, hgenerated]

/-- **What reading makes of the first words**: there are none, they spell an extra, they are an
    update without an expression, or nothing is known that they begin. -/
theorem spells_or_stops (words : List String) :
    words = []
      ∨ (∃ first rest extra, words = first ++ rest ∧ Spells first extra)
      ∨ (∃ on update, words = [on, update] ∧ sameLetters on "on" = true
          ∧ sameLetters update "update" = true)
      ∨ ofWords words = .error .unknown := by
  rcases words with _ | ⟨word, rest⟩
  · exact .inl rfl
  right
  by_cases hcounter : sameLetters word "auto_increment" = true
  · exact .inl ⟨[word], rest, _, rfl, .autoIncrement hcounter⟩
  by_cases hgenerated : sameLetters word "default_generated" = true
  · exact .inl ⟨[word], rest, _, rfl, .generatedDefault hgenerated⟩
  by_cases hon : sameLetters word "on" = true
  · rcases rest with _ | ⟨next, _ | ⟨expression, more⟩⟩
    · exact .inr (.inr (by simp [ofWords, hcounter, hgenerated]))
    · by_cases hupdate : sameLetters next "update" = true
      · exact .inr (.inl ⟨word, next, rfl, hon, hupdate⟩)
      · exact .inr (.inr (by simp [ofWords, hcounter, hgenerated, hupdate]))
    · by_cases hupdate : sameLetters next "update" = true
      · exact .inl ⟨[word, next, expression], more, _, rfl, .onUpdate expression hon hupdate⟩
      · exact .inr (.inr (by simp [ofWords, hcounter, hgenerated, hupdate]))
  · exact .inr (.inr (by rw [ofWords.eq_def]; simp [hcounter, hgenerated, hon]))

theorem Spells.length_pos {words : List String} {extra : Extra} (h : Spells words extra) :
    0 < words.length := by
  cases h <;> simp

/-! ### All of reading -/

theorem SpellAll.ofWords_append {words : List String} {extras : List Extra}
    (h : SpellAll words extras) (rest : List String) :
    ofWords (words ++ rest) = (ofWords rest).map (extras ++ ·) := by
  induction h with
  | nil =>
    rw [List.nil_append]
    cases ofWords rest <;> rfl
  | cons hfirst _ ih =>
    rw [List.append_assoc, hfirst.ofWords_append, ih]
    cases ofWords rest <;> rfl

/-- **Words are read as extras exactly if they spell them**, refused as incomplete exactly if an
    update is cut short, and refused as unknown otherwise. -/
theorem ofWords_outcome (words : List String) :
    (∃ extras, SpellAll words extras ∧ ofWords words = .ok extras)
      ∨ (AreCutShort words ∧ ofWords words = .error .incomplete)
      ∨ ofWords words = .error .unknown := by
  induction hlength : words.length using Nat.strongRecOn generalizing words with
  | ind length ih =>
    rcases spells_or_stops words with
      rfl | ⟨first, rest, extra, rfl, hfirst⟩ | ⟨on, update, rfl, hon, hupdate⟩ | hunknown
    · exact .inl ⟨[], .nil, rfl⟩
    · have hshorter : rest.length < length := by
        have hpos := hfirst.length_pos
        rw [← hlength, List.length_append]
        omega
      rw [hfirst.ofWords_append]
      rcases ih _ hshorter rest rfl with ⟨extras, hrest, hread⟩ | ⟨hshort, hread⟩ | hread
      · exact .inl ⟨extra :: extras, .cons hfirst hrest, by rw [hread]; rfl⟩
      · obtain ⟨done, extras, on, update, hdone, hon, hupdate, rfl⟩ := hshort
        refine .inr (.inl ⟨⟨first ++ done, extra :: extras, on, update, .cons hfirst hdone, hon,
          hupdate, (List.append_assoc _ _ _).symm⟩, ?_⟩)
        rw [hread]
        rfl
      · exact .inr (.inr (by rw [hread]; rfl))
    · exact .inr (.inl ⟨⟨[], [], on, update, .nil, hon, hupdate, rfl⟩,
        ofWords_on_update hon hupdate⟩)
    · exact .inr (.inr hunknown)

theorem SpellAll.ofWords_eq {words : List String} {extras : List Extra}
    (h : SpellAll words extras) : ofWords words = .ok extras := by
  have hread := h.ofWords_append []
  rw [List.append_nil] at hread
  rw [hread]
  exact congrArg Except.ok (List.append_nil extras)

theorem ofWords_eq_ok_iff {words : List String} {extras : List Extra} :
    ofWords words = .ok extras ↔ SpellAll words extras := by
  constructor
  · intro h
    rcases ofWords_outcome words with ⟨others, hspell, hread⟩ | ⟨-, hread⟩ | hread
    · obtain rfl := Except.ok.inj (hread.symm.trans h)
      exact hspell
    · rw [hread] at h
      cases h
    · rw [hread] at h
      cases h
  · exact SpellAll.ofWords_eq

theorem ofWords_eq_incomplete_iff {words : List String} :
    ofWords words = .error .incomplete ↔ AreCutShort words := by
  constructor
  · intro h
    rcases ofWords_outcome words with ⟨others, -, hread⟩ | ⟨hshort, -⟩ | hread
    · rw [hread] at h
      cases h
    · exact hshort
    · rw [hread] at h
      cases h
  · rintro ⟨done, extras, on, update, hdone, hon, hupdate, rfl⟩
    rw [hdone.ofWords_append, ofWords_on_update hon hupdate]
    rfl

/-- The words that a text is read by are the ones that it has. -/
theorem map_ofList_words {text : String} {words : List String}
    (h : Text.HasWords text.toList (words.map String.toList)) :
    (Text.words text.toList).map String.ofList = words := by
  rw [h.words_eq, List.map_map]
  simp [Function.comp_def]

theorem exists_hasWords (text : String) :
    ∃ words : List String, Text.HasWords text.toList (words.map String.toList) := by
  refine ⟨(Text.words text.toList).map String.ofList, ?_⟩
  rw [List.map_map]
  simpa [Function.comp_def] using Text.hasWords_words text.toList

/-- **A text is read as the extras that it is written with.** -/
theorem read_eq_ok_iff {text : String} {extras : List Extra} :
    read text = .ok extras ↔ IsWritten text extras := by
  constructor
  · intro h
    obtain ⟨words, hwords⟩ := exists_hasWords text
    rw [read, map_ofList_words hwords, ofWords_eq_ok_iff] at h
    exact ⟨words, hwords, h⟩
  · rintro ⟨words, hwords, h⟩
    rw [read, map_ofList_words hwords, h.ofWords_eq]

theorem read_eq_incomplete_iff {text : String} :
    read text = .error .incomplete ↔ IsCutShort text := by
  constructor
  · intro h
    obtain ⟨words, hwords⟩ := exists_hasWords text
    rw [read, map_ofList_words hwords, ofWords_eq_incomplete_iff] at h
    exact ⟨words, hwords, h⟩
  · rintro ⟨words, hwords, h⟩
    rw [read, map_ofList_words hwords, ofWords_eq_incomplete_iff]
    exact h

end SchemaDump.Extra
