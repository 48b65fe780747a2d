/-
  SchemaDump/Proofs/Sql/CurrentTime.lean
  ======================================
  **The one spelling of the current time.**

  Of the many spellings of the current time one is left when a default is
  written: `CURRENT_TIMESTAMP`, with the digits of the precision if there are
  any.  It is itself one of the spellings and keeps its digits, so normalising it
  again changes nothing.

  In a text of ASCII the grammar needs no tables: six blanks, ten digits and the
  case of 26 letters are all there is to it (`meansNow_iff_spellsNow`).
-/
import SchemaDump.Proofs.Sql.Timestamp

namespace SchemaDump

open Text (AreBlank isBlank isDecimalDigit)

namespace Text

/-! ### Characters of ASCII -/

/-- Whether a text is of ASCII. -/
def AreAscii (cs : List Char) : Prop := ∀ c ∈ cs, c.toNat < 128

instance (cs : List Char) : Decidable (AreAscii cs) :=
  List.decidableBAll _ cs

/-- The blanks of ASCII, with the vertical tab and the form feed. -/
def asciiBlanks : List Char := [' ', '\t', '\n', '\x0b', '\x0c', '\r']

/-- Whether a text holds nothing but blanks of ASCII. -/
def AreAsciiBlank (cs : List Char) : Prop := ∀ c ∈ cs, c ∈ asciiBlanks

instance (cs : List Char) : Decidable (AreAsciiBlank cs) :=
  List.decidableBAll _ cs

theorem isBlank_of_mem_asciiBlanks {c : Char} (h : c ∈ asciiBlanks) : isBlank c = true := by
  have hall : asciiBlanks.all isBlank = true := by decide
  exact List.all_eq_true.1 hall c h

theorem mem_asciiBlanks {c : Char} (hc : c.toNat < 128) (h : isBlank c = true) :
    c ∈ asciiBlanks :=
  of_ascii (P := fun c => isBlank c = true → c ∈ asciiBlanks) (by decide +kernel) hc h

theorem isDigit_of_isDecimalDigit {c : Char} (hc : c.toNat < 128) (h : isDecimalDigit c = true) :
    c.isDigit = true :=
  of_ascii (P := fun c => isDecimalDigit c = true → c.isDigit = true) (by decide +kernel) hc h

theorem fold_of_ascii {c : Char} (hc : c.toNat < 128) : fold c = c.toLower :=
  of_ascii (P := fun c => fold c = c.toLower) (by decide +kernel) hc

/-- In ASCII a keyword is spelled regardless of the case of letters. -/
theorem folds_iff_lower {keyword : String} {word : List Char} (hword : AreAscii word) :
    folds keyword word = true ↔ lower (String.ofList word) = keyword := by
  have hfold : word.map fold = word.map Char.toLower :=
    List.map_congr_left fun c hc => fold_of_ascii (hword c hc)
  rw [folds, hfold, beq_iff_eq, lower, String.toList_ofList, ← String.toList_inj,
    String.toList_ofList]

end Text

namespace Sql

open Text (AreAscii AreAsciiBlank)

/-! ### The grammar in ASCII -/

/-- A precision in ASCII, and the digits in it: none at all, or any number between parentheses. -/
inductive IsAsciiPrecision : List Char → List Char → Prop
  | none : IsAsciiPrecision [] []
  | between {before opened digits closing : List Char} (hbefore : AreAsciiBlank before)
      (hopened : AreAsciiBlank opened) (hdigits : ∀ c ∈ digits, c.isDigit = true)
      (hclosing : AreAsciiBlank closing) :
      IsAsciiPrecision (before ++ '(' :: (opened ++ (digits ++ (closing ++ [')'])))) digits

/-- **A spelling of the current time in ASCII**, and the digits in it. -/
inductive SpellsNow : List Char → List Char → Prop
  | named {name : String} {before word precision digits after : List Char}
      (hname : name ∈ ["current_timestamp", "now", "localtimestamp", "localtime"])
      (hword : Text.lower (String.ofList word) = name) (hbefore : AreAsciiBlank before)
      (hprecision : IsAsciiPrecision precision digits) (hafter : AreAsciiBlank after) :
      SpellsNow (before ++ (word ++ (precision ++ after))) digits

theorem areBlank_of_areAsciiBlank {cs : List Char} (h : AreAsciiBlank cs) : AreBlank cs :=
  fun c hc => Text.isBlank_of_mem_asciiBlanks (h c hc)

theorem areAsciiBlank_of_areBlank {cs : List Char} (hcs : AreAscii cs) (h : AreBlank cs) :
    AreAsciiBlank cs :=
  fun c hc => Text.mem_asciiBlanks (hcs c hc) (h c hc)

theorem IsAsciiPrecision.isPrecision {precision digits after : List Char}
    (h : IsAsciiPrecision precision digits) (hafter : AreAsciiBlank after) :
    IsPrecision (precision ++ after) digits := by
  have hblank := areBlank_of_areAsciiBlank hafter
  cases h with
  | none => exact .none hblank
  | between hbefore hopened hdigits hclosing =>
    have hall := IsPrecision.between (areBlank_of_areAsciiBlank hbefore)
      (areBlank_of_areAsciiBlank hopened)
      (fun c hc => Text.isDecimalDigit_of_isDigit (hdigits c hc))
      (areBlank_of_areAsciiBlank hclosing) hblank
    simpa using hall

theorem IsPrecision.exists_ascii {rest digits : List Char} (h : IsPrecision rest digits)
    (hascii : AreAscii rest) :
    ∃ precision after, rest = precision ++ after ∧ IsAsciiPrecision precision digits
      ∧ AreAsciiBlank after := by
  cases h with
  | none hblanks => exact ⟨[], rest, rfl, .none, areAsciiBlank_of_areBlank hascii hblanks⟩
  | @between before opened _ closing after hbefore hopened hdigits hclosing hafter =>
    simp only [AreAscii, List.mem_append, List.mem_cons] at hascii
    refine ⟨before ++ '(' :: (opened ++ (digits ++ (closing ++ [')']))), after, by simp, ?_, ?_⟩
    · apply IsAsciiPrecision.between
      · exact areAsciiBlank_of_areBlank (fun c hc => hascii c (by simp [hc])) hbefore
      · exact areAsciiBlank_of_areBlank (fun c hc => hascii c (by simp [hc])) hopened
      · intro c hc
        exact Text.isDigit_of_isDecimalDigit (hascii c (by simp [hc])) (hdigits c hc)
      · exact areAsciiBlank_of_areBlank (fun c hc => hascii c (by simp [hc])) hclosing
    · exact areAsciiBlank_of_areBlank (fun c hc => hascii c (by simp [hc])) hafter

/-- **In ASCII a default means the current time exactly if it is one of these spellings.** -/
theorem meansNow_iff_spellsNow {text : String} (hascii : AreAscii text.toList)
    {digits : List Char} : MeansNow text (String.ofList digits) ↔ SpellsNow text.toList digits := by
  constructor
  · intro h
    generalize hprecision : String.ofList digits = precision at h
    rcases h with ⟨hname, hword, hbefore, hrest, htext⟩
    obtain rfl := String.ofList_injective hprecision
    rename_i name before word rest
    rw [htext] at hascii ⊢
    simp only [AreAscii, List.mem_append] at hascii
    obtain ⟨precision, after, rfl, hprecision, hafter⟩ :=
      hrest.exists_ascii fun c hc => hascii c (.inr (.inr hc))
    refine .named hname ?_ ?_ hprecision hafter
    · exact (Text.folds_iff_lower fun c hc => hascii c (.inr (.inl hc))).1 hword
    · exact areAsciiBlank_of_areBlank (fun c hc => hascii c (.inl hc)) hbefore
  · intro h
    generalize htext : text.toList = cs at h
    rcases h with ⟨hname, hword, hbefore, hprecision, hafter⟩
    rename_i name before word precision after
    have hletters : AreAscii word := by
      intro c hc
      apply hascii
      rw [htext]
      simp [hc]
    exact .named hname ((Text.folds_iff_lower hletters).2 hword)
      (areBlank_of_areAsciiBlank hbefore) (hprecision.isPrecision hafter) htext

/-! ### Normalising -/

/-- A default that means the current time in its one spelling. -/
def currentTimestamp? (text : String) : Option String :=
  (currentTime? text).map currentTimestamp

theorem currentTimestamp?_eq_some_iff {text result : String} :
    currentTimestamp? text = some result
      ↔ ∃ precision, MeansNow text precision ∧ currentTimestamp precision = result := by
  simp [currentTimestamp?, currentTime?_eq_some_iff]

/-- **The one spelling means the current time**, with the digits that stand in it. -/
theorem meansNow_currentTimestamp {precision : String}
    (h : ∀ c ∈ precision.toList, isDecimalDigit c = true) :
    MeansNow (currentTimestamp precision) precision := by
  have hrest : ∃ rest, IsPrecision rest precision.toList
      ∧ (currentTimestamp precision).toList = "CURRENT_TIMESTAMP".toList ++ rest := by
    rw [currentTimestamp]
    split
    · rename_i hempty
      rw [List.isEmpty_iff.1 hempty]
      exact ⟨[], .none (List.forall_mem_nil _), (List.append_nil _).symm⟩
    · refine ⟨[] ++ '(' :: ([] ++ (precision.toList ++ ([] ++ ')' :: []))), ?_, by simp⟩
      exact .between (List.forall_mem_nil _) (List.forall_mem_nil _) h (List.forall_mem_nil _)
        (List.forall_mem_nil _)
  obtain ⟨rest, hprecision, htext⟩ := hrest
  have hword : Text.folds "current_timestamp" "CURRENT_TIMESTAMP".toList = true := by decide
  have hnow := MeansNow.named List.mem_cons_self hword (List.forall_mem_nil _) hprecision htext
  rwa [String.ofList_toList] at hnow

/-- **Normalising again changes nothing**, whatever script the digits are of. -/
theorem currentTimestamp?_self {text result : String} (h : currentTimestamp? text = some result) :
    currentTimestamp? result = some result := by
  obtain ⟨precision, hnow, rfl⟩ := currentTimestamp?_eq_some_iff.1 h
  apply currentTimestamp?_eq_some_iff.2
  exact ⟨precision, meansNow_currentTimestamp hnow.isDecimalDigit, rfl⟩

/-- **A default of ASCII is normalised exactly if it is a spelling of the current time**, to
    `CURRENT_TIMESTAMP` with exactly the digits that stand in it, and what comes out stays as it
    is. -/
theorem currentTimestamp?_of_ascii {text : String} (hascii : AreAscii text.toList) :
    ((currentTimestamp? text).isSome = true ↔ ∃ digits, SpellsNow text.toList digits)
      ∧ (∀ digits, SpellsNow text.toList digits →
          currentTimestamp? text = some
            (if digits = [] then "CURRENT_TIMESTAMP"
              else "CURRENT_TIMESTAMP(" ++ String.ofList digits ++ ")"))
      ∧ ∀ result, currentTimestamp? text = some result → currentTimestamp? result = some result := by
  have hspelled : ∀ digits, SpellsNow text.toList digits →
      currentTimestamp? text = some (currentTimestamp (String.ofList digits)) := by
    intro digits hdigits
    rw [currentTimestamp?_eq_some_iff]
    exact ⟨_, (meansNow_iff_spellsNow hascii).2 hdigits, rfl⟩
  refine ⟨⟨?_, ?_⟩, ?_, fun result hresult => currentTimestamp?_self hresult⟩
  · intro hsome
    obtain ⟨result, hresult⟩ := Option.isSome_iff_exists.1 hsome
    obtain ⟨precision, hnow, -⟩ := currentTimestamp?_eq_some_iff.1 hresult
    obtain ⟨digits, rfl⟩ : ∃ digits, String.ofList digits = precision :=
      ⟨precision.toList, String.ofList_toList⟩
    exact ⟨digits, (meansNow_iff_spellsNow hascii).1 hnow⟩
  · rintro ⟨digits, hdigits⟩
    rw [hspelled digits hdigits]
    rfl
  · intro digits hdigits
    rw [hspelled digits hdigits, currentTimestamp, String.toList_ofList]
    cases digits <;> rfl

/-- A spelling with blanks wherever they may stand and a zero before the precision. -/
def spacedNow : String := "\x0bLocalTime\t( 06\n) "

theorem currentTimestamp?_spacedNow :
    AreAscii spacedNow.toList ∧ SpellsNow spacedNow.toList ['0', '6']
      ∧ currentTimestamp? spacedNow = some "CURRENT_TIMESTAMP(06)"
      ∧ currentTimestamp? "CURRENT_TIMESTAMP(06)" = some "CURRENT_TIMESTAMP(06)" :=
  have hascii : AreAscii spacedNow.toList := by decide
  have hprecision : IsAsciiPrecision
      (['\t'] ++ '(' :: ([' '] ++ (['0', '6'] ++ (['\n'] ++ [')'])))) ['0', '6'] :=
    .between (by decide) (by decide) (List.all_eq_true.1 rfl) (by decide)
  have hword : Text.lower (String.ofList "LocalTime".toList) = "localtime" := by decide +kernel
  have hbefore : AreAsciiBlank ['\x0b'] := by decide
  have hafter : AreAsciiBlank [' '] := by decide
  have hspells : SpellsNow spacedNow.toList ['0', '6'] :=
    .named (by decide) hword hbefore hprecision hafter
  have h := currentTimestamp?_of_ascii hascii
  have hresult : currentTimestamp? spacedNow = some "CURRENT_TIMESTAMP(06)" := h.2.1 _ hspells
  ⟨hascii, hspells, hresult, h.2.2 _ hresult⟩

end Sql
end SchemaDump
