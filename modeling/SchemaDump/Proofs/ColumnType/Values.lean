/-
  SchemaDump/Proofs/ColumnType/Values.lean
  ========================================
  **Value lists by their grammar.**

  A list of quoted items, as the grammar has it: a unit of an item is a plain
  character, a doubled quote, or a backslash and the character after it.  A text
  is read exactly if the grammar has it, and as the values that it stands for.
  A value whose quotes and backslashes are doubled is such an item, whatever else
  it holds, so commas, parentheses and blanks within it do not count.
-/
import Mathlib.Data.List.Basic
import SchemaDump.ColumnType.Values
import SchemaDump.Proofs.Text.Words

namespace SchemaDump.ColumnType

open Text (AreBlank trimStart)

/-! ### The grammar -/

/-- The units of an item, and the characters that they stand for. -/
inductive IsBody : List Char → List Char → Prop
  | nil : IsBody [] []
  | plain {c : Char} {body value : List Char} (hquote : c ≠ '\'') (hescape : c ≠ '\\')
      (h : IsBody body value) : IsBody (c :: body) (c :: value)
  | doubled {body value : List Char} (h : IsBody body value) :
      IsBody ('\'' :: '\'' :: body) ('\'' :: value)
  | escaped {body value : List Char} (c : Char) (h : IsBody body value) :
      IsBody ('\\' :: c :: body) (c :: value)

/-- Items with commas between them and blanks around them, and their values. -/
inductive IsValueList : List Char → List String → Prop
  | last {before body value after : List Char} (hbefore : AreBlank before)
      (hbody : IsBody body value) (hafter : AreBlank after) :
      IsValueList (before ++ '\'' :: (body ++ '\'' :: after)) [String.ofList value]
  | more {before body value after rest : List Char} {values : List String}
      (hbefore : AreBlank before) (hbody : IsBody body value) (hafter : AreBlank after)
      (hrest : IsValueList rest values) :
      IsValueList (before ++ '\'' :: (body ++ '\'' :: (after ++ ',' :: rest)))
        (String.ofList value :: values)

/-! ### Reading by the grammar -/

theorem unquoted?_plain {c : Char} (hquote : c ≠ '\'') (hescape : c ≠ '\\') (rest : List Char) :
    unquoted? (c :: rest) = (unquoted? rest).map fun (value, after) => (c :: value, after) := by
  rw [unquoted?.eq_def]
  simp only [beq_iff_eq, hquote, hescape, if_false]

theorem unquoted?_doubled (rest : List Char) :
    unquoted? ('\'' :: '\'' :: rest)
      = (unquoted? rest).map fun (value, after) => ('\'' :: value, after) := by
  rw [unquoted?.eq_def]
  rfl

theorem unquoted?_escaped (c : Char) (rest : List Char) :
    unquoted? ('\\' :: c :: rest)
      = (unquoted? rest).map fun (value, after) => (c :: value, after) := by
  rw [unquoted?.eq_def]
  rfl

theorem unquoted?_quote {after : List Char} (h : after.head? ≠ some '\'') :
    unquoted? ('\'' :: after) = some ([], after) := by
  rw [unquoted?.eq_def]
  cases after with
  | nil => rfl
  | cons c rest =>
    have hc : c ≠ '\'' := fun hc => h (by rw [hc]; rfl)
    simp [hc]

/-- An item is read up to the quote that ends it. -/
theorem unquoted?_of_isBody {body value after : List Char} (h : IsBody body value)
    (hafter : after.head? ≠ some '\'') :
    unquoted? (body ++ '\'' :: after) = some (value, after) := by
  induction h with
  | nil => exact unquoted?_quote hafter
  | plain hquote hescape _ ih =>
    rw [List.cons_append, unquoted?_plain hquote hescape, ih]
    rfl
  | doubled _ ih =>
    rw [List.cons_append, List.cons_append, unquoted?_doubled, ih]
    rfl
  | escaped c _ ih =>
    rw [List.cons_append, List.cons_append, unquoted?_escaped, ih]
    rfl

/-- After an item the list ends, or a comma and another list follow. -/
theorem valueList?_item {cs rest value after : List Char} (hstart : trimStart cs = '\'' :: rest)
    (hitem : unquoted? rest = some (value, after)) :
    valueList? cs = match trimStart after with
      | [] => some [String.ofList value]
      | ',' :: more => (valueList? more).map (String.ofList value :: ·)
      | _ => none := by
  rw [valueList?]
  split
  · rename_i held hheld
    rw [hstart] at hheld
    obtain rfl := (List.cons.inj hheld).2
    split
    · rename_i hnone
      rw [hitem] at hnone
      cases hnone
    · rename_i hsome
      rw [hitem] at hsome
      obtain ⟨rfl, rfl⟩ := Prod.mk.inj (Option.some.inj hsome)
      split <;> rename_i hend <;> simp [hend]
  · rename_i hother
    exact absurd hstart (hother rest)

/-- **What the grammar has is read**, as the values that it stands for. -/
theorem valueList?_of_isValueList {cs : List Char} {values : List String}
    (h : IsValueList cs values) : valueList? cs = some values := by
  have hstart : ∀ {before rest : List Char}, AreBlank before →
      trimStart (before ++ '\'' :: rest) = '\'' :: rest := by
    intro before rest hbefore
    rw [Text.trimStart_blanks_append hbefore, Text.trimStart_cons (by decide)]
  -- neither a blank nor a comma nor the end doubles the quote that ends an item
  have hfollows : ∀ {after rest : List Char}, AreBlank after → rest.head? ≠ some '\'' →
      (after ++ rest).head? ≠ some '\'' := by
    intro after rest hafter hrest
    cases after with
    | nil => exact hrest
    | cons c after =>
      intro hc
      rw [List.cons_append, List.head?_cons, Option.some.injEq] at hc
      subst hc
      exact absurd (hafter '\'' List.mem_cons_self) (by decide)
  induction h with
  | @last before body value after hbefore hbody hafter =>
    have hnext : after.head? ≠ some '\'' := by
      have hend : (after ++ []).head? ≠ some '\'' := hfollows hafter (by simp)
      rwa [List.append_nil] at hend
    have hdone : trimStart after = [] := by
      have hend := Text.trimStart_blanks_append hafter []
      rwa [List.append_nil] at hend
    rw [valueList?_item (hstart hbefore) (unquoted?_of_isBody hbody hnext), hdone]
  | @more before body value after rest values hbefore hbody hafter _ ih =>
    have hnext : (after ++ ',' :: rest).head? ≠ some '\'' := hfollows hafter (by simp)
    have hcomma : trimStart (after ++ ',' :: rest) = ',' :: rest := by
      rw [Text.trimStart_blanks_append hafter, Text.trimStart_cons (by decide)]
    rw [valueList?_item (hstart hbefore) (unquoted?_of_isBody hbody hnext), hcomma]
    simp only [ih, Option.map_some]

/-! ### What is read stands in the grammar -/

/-- The units of an item that was read, up to the quote that ended it. -/
theorem exists_isBody_of_unquoted? {cs value after : List Char}
    (h : unquoted? cs = some (value, after)) :
    ∃ body, IsBody body value ∧ cs = body ++ '\'' :: after := by
  -- a case for each kind of unit, for the quote that ends the item and for a text that ends first
  fun_induction unquoted? cs generalizing value after with
  | case1 => cases h
  | case2 c hquote more ih =>
    obtain ⟨⟨held, rest⟩, hmore, heq⟩ := Option.map_eq_some_iff.1 h
    obtain ⟨rfl, rfl⟩ := Prod.mk.inj heq
    obtain ⟨body, hbody, rfl⟩ := ih hmore
    obtain rfl := beq_iff_eq.1 hquote
    exact ⟨_, .doubled hbody, rfl⟩
  | case3 c rest hquote _ =>
    obtain ⟨rfl, rfl⟩ := Prod.mk.inj (Option.some.inj h)
    obtain rfl := beq_iff_eq.1 hquote
    exact ⟨[], .nil, rfl⟩
  | case4 c _ hescape escaped more ih =>
    obtain ⟨⟨held, rest⟩, hmore, heq⟩ := Option.map_eq_some_iff.1 h
    obtain ⟨rfl, rfl⟩ := Prod.mk.inj heq
    obtain ⟨body, hbody, rfl⟩ := ih hmore
    obtain rfl := beq_iff_eq.1 hescape
    exact ⟨_, .escaped escaped hbody, rfl⟩
  | case5 => cases h
  | case6 c rest hquote hescape ih =>
    obtain ⟨⟨held, tail⟩, hrest, heq⟩ := Option.map_eq_some_iff.1 h
    obtain ⟨rfl, rfl⟩ := Prod.mk.inj heq
    obtain ⟨body, hbody, rfl⟩ := ih hrest
    have hplain : c ≠ '\'' ∧ c ≠ '\\' := ⟨fun hc => hquote (beq_iff_eq.2 hc),
      fun hc => hescape (beq_iff_eq.2 hc)⟩
    exact ⟨_, .plain hplain.1 hplain.2 hbody, rfl⟩

theorem isValueList_of_valueList? {cs : List Char} {values : List String}
    (h : valueList? cs = some values) : IsValueList cs values := by
  -- a case for each way in which an item and what follows it can turn out
  fun_induction valueList? cs generalizing values with
  | case1 => cases h
  | case2 cs rest hstart value after hitem hend =>
    obtain rfl := Option.some.inj h
    obtain ⟨before, hbefore, hcs⟩ := Text.exists_eq_blanks_append_trimStart cs
    obtain ⟨body, hbody, rfl⟩ := exists_isBody_of_unquoted? hitem
    obtain ⟨blanks, hblanks, hafter⟩ := Text.exists_eq_blanks_append_trimStart after
    rw [hend, List.append_nil] at hafter
    rw [hcs, hstart, hafter]
    exact .last hbefore hbody hblanks
  | case3 cs rest hstart value after hitem more hcomma ih =>
    obtain ⟨others, hmore, rfl⟩ := Option.map_eq_some_iff.1 h
    obtain ⟨before, hbefore, hcs⟩ := Text.exists_eq_blanks_append_trimStart cs
    obtain ⟨body, hbody, rfl⟩ := exists_isBody_of_unquoted? hitem
    obtain ⟨blanks, hblanks, hafter⟩ := Text.exists_eq_blanks_append_trimStart after
    rw [hcs, hstart, hafter, hcomma]
    exact .more hbefore hbody hblanks (ih hmore)
  | case4 => cases h
  | case5 => cases h

/-- **A text is read as a value list exactly if it is one.** -/
theorem valueList?_eq_some_iff {cs : List Char} {values : List String} :
    valueList? cs = some values ↔ IsValueList cs values :=
  ⟨isValueList_of_valueList?, valueList?_of_isValueList⟩

/-! ### Written values -/

/-- A character of a value, doubled if it is a quote or a backslash. -/
def valueUnit (c : Char) : List Char := if c == '\'' || c == '\\' then [c, c] else [c]

/-- A value between quotes. -/
def quotedValue (value : String) : List Char :=
  '\'' :: (value.toList.flatMap valueUnit ++ ['\''])

theorem isBody_flatMap_valueUnit (cs : List Char) : IsBody (cs.flatMap valueUnit) cs := by
  induction cs with
  | nil => exact .nil
  | cons c cs ih =>
    rw [List.flatMap_cons, valueUnit]
    by_cases hquote : c = '\''
    · subst hquote
      exact .doubled ih
    · by_cases hescape : c = '\\'
      · subst hescape
        exact .escaped '\\' ih
      · rw [beq_eq_false_iff_ne.2 hquote, beq_eq_false_iff_ne.2 hescape]
        exact .plain hquote hescape ih

theorem mem_valueUnit {c d : Char} (h : c ∈ valueUnit d) : c = d := by
  rw [valueUnit] at h
  split at h
  · exact (List.mem_pair.1 h).elim id id
  · exact List.mem_singleton.1 h

theorem mem_quotedValue {c : Char} {value : String} (h : c ∈ quotedValue value) :
    c = '\'' ∨ c ∈ value.toList := by
  rcases List.mem_cons.1 h with h | h
  · exact .inl h
  · rcases List.mem_append.1 h with h | h
    · obtain ⟨d, hd, hc⟩ := List.mem_flatMap.1 h
      exact .inr (mem_valueUnit hc ▸ hd)
    · exact .inl (List.mem_singleton.1 h)

/-- Blanks on one line. -/
structure Gap where
  chars : List Char
  blank : AreBlank chars
  oneLine : '\n' ∉ chars

def Gap.spaces (count : Nat) : Gap where
  chars := List.replicate count ' '
  blank := fun c hc => by rw [List.eq_of_mem_replicate hc]; decide
  oneLine := fun hmem => absurd (List.eq_of_mem_replicate hmem) (by decide)

/-- A value after a comma, with blanks around the comma. -/
structure FurtherValue where
  before : Gap
  after : Gap
  value : String

def FurtherValue.chars (further : FurtherValue) : List Char :=
  further.before.chars ++ ',' :: (further.after.chars ++ quotedValue further.value)

/-- **The values of an enumeration as they may be written**, at least one of them. -/
structure WrittenValues where
  leading : Gap
  first : String
  others : List FurtherValue
  trailing : Gap

namespace WrittenValues

variable (written : WrittenValues)

def values : List String := written.first :: written.others.map FurtherValue.value

/-- The list without the blanks around it. -/
def core : List Char :=
  quotedValue written.first ++ written.others.flatMap FurtherValue.chars

def chars : List Char := written.leading.chars ++ (written.core ++ written.trailing.chars)

end WrittenValues

theorem isValueList_append {before : List Char} (h : AreBlank before) (first : String)
    (others : List FurtherValue) :
    IsValueList (before ++ (quotedValue first ++ others.flatMap FurtherValue.chars))
      (first :: others.map FurtherValue.value) := by
  have hbody := isBody_flatMap_valueUnit first.toList
  induction others generalizing before first with
  | nil =>
    have hnothing : AreBlank [] := by decide
    have hlast := IsValueList.last h hbody hnothing
    rw [String.ofList_toList] at hlast
    rw [List.flatMap_nil, List.append_nil]
    exact hlast
  | cons further others ih =>
    have hrest := ih further.after.blank further.value
      (isBody_flatMap_valueUnit further.value.toList)
    have hmore := IsValueList.more h hbody further.before.blank hrest
    rw [String.ofList_toList] at hmore
    simp only [quotedValue, FurtherValue.chars, List.flatMap_cons, List.map_cons, List.cons_append,
      List.append_assoc, List.nil_append] at hmore ⊢
    exact hmore

namespace WrittenValues

variable (written : WrittenValues)

theorem head?_core : written.core.head? = some '\'' := rfl

theorem getLast?_core : written.core.getLast? = some '\'' := by
  have hquoted : ∀ (before : List Char) (value : String),
      (before ++ quotedValue value).getLast? = some '\'' := by
    intro before value
    rw [quotedValue, ← List.cons_append, ← List.append_assoc, List.getLast?_concat]
  rw [core]
  rcases List.eq_nil_or_concat written.others with h | ⟨others, further, h⟩
  · rw [h, List.flatMap_nil, List.append_nil]
    exact hquoted [] written.first
  · rw [h, List.concat_eq_append, List.flatMap_append, List.flatMap_singleton, FurtherValue.chars,
      ← List.cons_append, ← List.append_assoc, ← List.append_assoc, ← List.append_assoc]
    exact hquoted _ further.value

/-- Values on one line are written on one line. -/
theorem lineFeed_notMem_chars (h : ∀ value ∈ written.values, '\n' ∉ value.toList) :
    '\n' ∉ written.chars := by
  have hquoted : ∀ value ∈ written.values, '\n' ∉ quotedValue value := by
    intro value hvalue hmem
    rcases mem_quotedValue hmem with hquote | hmem
    · exact absurd hquote (by decide)
    · exact h value hvalue hmem
  have hfurther : ∀ further ∈ written.others, '\n' ∉ further.chars := by
    intro further hfurther
    have hvalue : further.value ∈ written.values :=
      List.mem_cons_of_mem _ (List.mem_map_of_mem hfurther)
    rw [FurtherValue.chars, List.mem_append, List.mem_cons, List.mem_append, not_or, not_or, not_or]
    exact ⟨further.before.oneLine, by decide, further.after.oneLine, hquoted _ hvalue⟩
  have hothers : '\n' ∉ written.others.flatMap FurtherValue.chars := by
    rw [List.mem_flatMap]
    exact fun ⟨further, hmem, hline⟩ => hfurther further hmem hline
  rw [chars, core, List.mem_append, List.mem_append, List.mem_append, not_or, not_or, not_or]
  exact ⟨written.leading.oneLine, ⟨hquoted _ List.mem_cons_self, hothers⟩, written.trailing.oneLine⟩

/-- **Written values are read**, once the blanks around the list are trimmed. -/
theorem valueList?_trim_chars : valueList? (Text.trim written.chars) = some written.values := by
  have hsolid : Text.isBlank '\'' = false := by decide
  have hnothing : AreBlank [] := by decide
  have hlist := isValueList_append hnothing written.first written.others
  rw [chars, Text.trim_between written.leading.blank written.trailing.blank written.head?_core
    written.getLast?_core hsolid hsolid]
  exact valueList?_of_isValueList hlist

end WrittenValues

end SchemaDump.ColumnType
