/-
  SchemaDump/Proofs/Table/Extra.lean
  ==================================
  **A marker looked for in a text and in its words.**

  A column calls itself a counter if its extras mention the marker anywhere; a
  formatter reads the extras word by word.  A marker without blanks that stands
  in a text stands in one of its words, and the words of extras that do not
  update the column are the two markers themselves.  So the two readings agree
  but for columns that are updated, where the marker may stand in the expression.
-/
import SchemaDump.Proofs.Checked
import SchemaDump.Proofs.Table.ExtraGrammar
import SchemaDump.Table.Column

namespace SchemaDump

namespace Extra

/-! ### Extras in words -/

/-- The marker of an extra that is one word. -/
def marker : Extra → String
  | .autoIncrement => "auto_increment"
  | .generatedDefault => "default_generated"
  | .onUpdate expression => "on update " ++ expression

theorem updateExpression?_eq_none_iff {extras : List Extra} :
    updateExpression? extras = none ↔ ∀ expression, onUpdate expression ∉ extras := by
  simp only [updateExpression?, List.findSome?_eq_none_iff, List.mem_reverse]
  constructor
  · intro h expression hmem
    exact Option.some_ne_none _ (h _ hmem)
  · rintro h (_ | _ | expression) hmem
    · rfl
    · rfl
    · exact absurd hmem (h expression)

/-- Of several updates the last one counts. -/
theorem updateExpression?_eq_some_iff {extras : List Extra} {expression : String} :
    updateExpression? extras = some expression
      ↔ ∃ before after, extras = before ++ .onUpdate expression :: after
        ∧ ∀ other, .onUpdate other ∉ after := by
  rw [updateExpression?, List.findSome?_eq_some_iff]
  constructor
  · rintro ⟨later, extra, earlier, hextras, hextra, hlater⟩
    cases extra with
    | autoIncrement => cases hextra
    | generatedDefault => cases hextra
    | onUpdate held =>
      obtain rfl := Option.some.inj hextra
      refine ⟨earlier.reverse, later.reverse, ?_, ?_⟩
      · rw [← List.reverse_reverse extras, hextras]
        simp
      · intro other hmem
        cases hlater _ (List.mem_reverse.1 hmem)
  · rintro ⟨before, after, rfl, hlast⟩
    refine ⟨after.reverse, .onUpdate expression, before.reverse, by simp, rfl, ?_⟩
    intro extra hmem
    cases extra with
    | autoIncrement => rfl
    | generatedDefault => rfl
    | onUpdate other => exact absurd (List.mem_reverse.1 hmem) (hlast other)

theorem lower_eq_of_sameLetters {word keyword : String} (hkeyword : Text.lower keyword = keyword)
    (h : Text.sameLetters word keyword = true) : Text.lower word = keyword := by
  rw [Text.sameLetters, beq_iff_eq, hkeyword] at h
  exact h

/-- **Extras that do not update the column are their markers**, word for word. -/
theorem map_lower_of_ofWords {words : List String} {extras : List Extra}
    (h : ofWords words = .ok extras) (hplain : updateExpression? extras = none) :
    words.map Text.lower = extras.map marker := by
  rw [updateExpression?_eq_none_iff] at hplain
  rw [ofWords_eq_ok_iff] at h
  induction h with
  | nil => rfl
  | cons hfirst hmore ih =>
    rename_i first rest extra extras
    have hrest : ∀ expression, onUpdate expression ∉ extras := fun expression hmem =>
      hplain expression (List.mem_cons_of_mem _ hmem)
    have hword : first.map Text.lower = [extra.marker] := by
      cases hfirst with
      | autoIncrement hword =>
        exact congrArg (fun lowered => [lowered]) (lower_eq_of_sameLetters (by decide) hword)
      | generatedDefault hword =>
        exact congrArg (fun lowered => [lowered]) (lower_eq_of_sameLetters (by decide) hword)
      | onUpdate expression => exact absurd List.mem_cons_self (hplain expression)
    rw [List.map_append, List.map_cons, hword, ih hrest]
    rfl

end Extra

/-- **A column that is not updated is a counter by its words if it is one by its text.** -/
theorem Column.isAutoIncrement_eq {column : Column} {extras : List Extra}
    (h : Extra.read column.extra = .ok extras) (hplain : Extra.updateExpression? extras = none) :
    column.isAutoIncrement = Extra.autoIncrements extras := by
  have hne : "auto_increment".toList ≠ [] := by decide
  have hblanks : ∀ c ∈ "auto_increment".toList, Text.isBlank c = false := by
    have hsolid : ("auto_increment".toList.all fun c => !Text.isBlank c) = true := by decide
    intro c hc
    rw [← Bool.not_eq_true']
    exact List.all_eq_true.1 hsolid c hc
  have hother : ¬"auto_increment".toList <:+: "default_generated".toList := by
    rw [← Text.occursIn_iff]
    decide
  have hwords : Text.words (Text.lower column.extra).toList
      = extras.map fun extra => extra.marker.toList := by
    have hmarkers := congrArg (List.map String.toList) (Extra.map_lower_of_ofWords h hplain)
    simp only [List.map_map] at hmarkers
    rw [Text.lower, String.toList_ofList, Text.words_map_toLower]
    refine Eq.trans (List.map_congr_left fun word _ => ?_) hmarkers
    simp only [Function.comp_apply, Text.lower, String.toList_ofList]
  rw [Bool.eq_iff_iff, Column.isAutoIncrement, Text.occursIn_iff,
    Text.infix_iff_exists_word hne hblanks, hwords, Extra.autoIncrements, List.contains_iff_mem]
  constructor
  · rintro ⟨word, hword, hinfix⟩
    obtain ⟨extra, hextra, rfl⟩ := List.mem_map.1 hword
    cases extra with
    | autoIncrement => exact hextra
    | generatedDefault => exact absurd hinfix hother
    | onUpdate expression =>
      exact absurd hextra (Extra.updateExpression?_eq_none_iff.1 hplain expression)
  · exact fun h => ⟨_, List.mem_map_of_mem h, List.infix_refl _⟩

/-- Where a column is updated the marker may be nothing but a part of the expression. -/
example :
    Column.isAutoIncrement ⟨"n", "int", true, "", none, "on update auto_increment()", ""⟩ = true
      ∧ Extra.read "on update auto_increment()" = .ok [.onUpdate "auto_increment()"] := by
  decide +kernel

end SchemaDump
