/-
  SchemaDump/Proofs/Markup/Tag.lean
  =================================
  **A written tag reads back.**

  Text and attribute values are written with references, so neither quotes nor
  angle brackets of a dump's texts ever stand in a tag as they are.  This file
  proves that references resolve to what was escaped (`unescape?_escape`), that
  a written tag ends exactly at its own `>` (`cutTag?_write`), and that its
  inside reads back as the same tag (`read_write`).  The names of elements and
  attributes are assumed to be *plain*: they hold no character that markup
  gives a meaning to.
-/
import Mathlib.Tactic.SplitIfs
import SchemaDump.Markup.Lexeme

namespace SchemaDump.Markup

/-! ### References -/

/-- None of the characters that end a text, a tag or a quoted value. -/
def isSafe (c : Char) : Bool := c != '<' && c != '>' && c != '"' && c != '\''

theorem all_isSafe_escapedChar (c : Char) : (escapedChar c).all isSafe = true := by
  unfold escapedChar
  split_ifs with hlt hgt hamp hapos hquot
  iterate 5 rfl
  -- the character stands for itself, so it is none of the five
  simp_all [isSafe]

theorem isSafe_of_mem_escape {cs : List Char} {d : Char} (h : d ∈ escape cs) :
    isSafe d = true := by
  obtain ⟨c, -, hd⟩ := List.mem_flatMap.1 h
  exact List.all_eq_true.1 (all_isSafe_escapedChar c) d hd

theorem unescapeFrom?_escapedChar (c : Char) (rest : List Char) :
    unescapeFrom? none (escapedChar c ++ rest) = (unescapeFrom? none rest).map (c :: ·) := by
  unfold escapedChar
  split_ifs <;> simp_all [unescapeFrom?, resolve?]

/-- **What is escaped resolves back.** -/
theorem unescape?_escape (cs : List Char) : unescape? (escape cs) = some cs := by
  unfold unescape?
  induction cs with
  | nil => rfl
  | cons c rest ih =>
    rw [escape, List.flatMap_cons, unescapeFrom?_escapedChar]
    rw [escape] at ih
    simp [ih]

theorem escape_ne_nil {cs : List Char} (h : cs ≠ []) : escape cs ≠ [] := by
  intro he
  have hu := unescape?_escape cs
  rw [he] at hu
  exact h (Option.some.inj hu).symm

/-! ### Plain names -/

/-- A character that markup gives no meaning to, so that a name may hold it. -/
def isPlainChar (c : Char) : Bool :=
  isSafe c && !endsKey c && c != '/' && c != '?' && c != '!'

/-- A name of an element or an attribute that can be written as it is. -/
def isPlain (name : String) : Bool := !name.toList.isEmpty && name.toList.all isPlainChar

theorem isPlainChar_of_mem {name : String} (h : isPlain name = true) {c : Char}
    (hc : c ∈ name.toList) : isPlainChar c = true := by
  simp only [isPlain, Bool.and_eq_true, List.all_eq_true] at h
  exact h.2 c hc

theorem exists_of_isPlain {name : String} (h : isPlain name = true) :
    ∃ c rest, name.toList = c :: rest ∧ isPlainChar c = true := by
  cases hn : name.toList with
  | nil => simp [isPlain, hn] at h
  | cons c rest => exact ⟨c, rest, rfl, isPlainChar_of_mem h (by simp [hn])⟩

theorem endsKey_of_isPlainChar {c : Char} (h : isPlainChar c = true) : endsKey c = false := by
  simp_all [isPlainChar]

theorem isSpace_of_isPlainChar {c : Char} (h : isPlainChar c = true) : isSpace c = false := by
  have := endsKey_of_isPlainChar h
  simp_all [endsKey]

theorem isSafe_of_isPlainChar {c : Char} (h : isPlainChar c = true) : isSafe c = true := by
  simp_all [isPlainChar]

/-- A tag that can be written: its names are plain and no key occurs twice. -/
structure Tag.IsWritable (tag : Tag) : Prop where
  name_plain : isPlain tag.name = true
  keys_plain : ∀ pair ∈ tag.attributes, isPlain pair.key = true
  keys_nodup : (tag.attributes.map Attribute.key).Nodup

/-- Whether a tag can be written depends on its names only, not on its values. -/
theorem Tag.isWritable_of_names {tag : Tag} (name : String) (keys : List String)
    (hname : tag.name = name) (hkeys : tag.attributes.map Attribute.key = keys)
    (h : isPlain name = true ∧ (∀ key ∈ keys, isPlain key = true) ∧ keys.Nodup) :
    tag.IsWritable := by
  subst hname hkeys
  exact ⟨h.1, fun pair hpair => h.2.1 _ (List.mem_map_of_mem hpair), h.2.2⟩

/-! ### Reading the inside of a written tag -/

/-- An attribute as characters: the text that `Tag.writeAttribute` gives. -/
def attributeText (pair : Attribute) : List Char :=
  ' ' :: pair.key.toList ++ '=' :: '"' :: escape pair.value.toList ++ ['"']

theorem toList_write (tag : Tag) :
    tag.write.toList = tag.name.toList ++ tag.attributes.flatMap attributeText := by
  simp only [Tag.write, String.toList_append, String.toList_join, List.flatMap_map]
  congr 2
  funext pair
  simp [Tag.writeAttribute, attributeText]

theorem cutAt?_append {stop : Char} {cs : List Char} (h : ∀ c ∈ cs, c ≠ stop)
    (rest : List Char) : cutAt? stop (cs ++ stop :: rest) = some (cs, rest) := by
  induction cs with
  | nil => simp [cutAt?]
  | cons c cs ih =>
    have hc : (c == stop) = false := by simpa using h c (by simp)
    rw [List.cons_append, cutAt?, hc, ih fun d hd => h d (by simp [hd])]
    simp

theorem rawValue?_written (value rest : List Char) :
    rawValue? ('=' :: '"' :: escape value ++ '"' :: rest) = some (escape value, rest) := by
  have hq : ∀ c ∈ escape value, c ≠ '"' := by
    intro c hc
    have := isSafe_of_mem_escape hc
    simp_all [isSafe]
  simp only [rawValue?, List.cons_append]
  exact cutAt?_append hq rest

theorem attributesAfter_of_nil {cs : List Char} (earlier : List Attribute)
    (hs : cs.dropWhile isSpace = []) : attributesAfter earlier cs = .ok earlier := by
  rw [attributesAfter]
  split
  · rfl
  · simp_all

/-- One attribute is read in full before the next. -/
theorem attributesAfter_of_cons {earlier : List Attribute} {cs rest raw value after : List Char}
    {c : Char} (hs : cs.dropWhile isSpace = c :: rest)
    (hv : rawValue? (rest.dropWhile (!endsKey ·)) = some (raw, after))
    (fresh : earlier.any (·.key == String.ofList (c :: rest.takeWhile (!endsKey ·))) = false)
    (hu : unescape? raw = some value) :
    attributesAfter earlier cs
      = attributesAfter (earlier ++
          [⟨String.ofList (c :: rest.takeWhile (!endsKey ·)), String.ofList value⟩]) after := by
  rw [attributesAfter]
  split
  · simp_all
  · rename_i hs'
    obtain ⟨rfl, rfl⟩ := List.cons.inj (hs.symm.trans hs')
    split
    · simp_all
    · rename_i hv'
      obtain ⟨rfl, rfl⟩ := Prod.mk.inj (Option.some.inj (hv.symm.trans hv'))
      simp only [fresh, hu]
      rfl

theorem attributesAfter_written (attributes earlier : List Attribute)
    (plain : ∀ pair ∈ attributes, isPlain pair.key = true)
    (nodup : ((earlier ++ attributes).map Attribute.key).Nodup) :
    attributesAfter earlier (attributes.flatMap attributeText) = .ok (earlier ++ attributes) := by
  induction attributes generalizing earlier with
  | nil => rw [attributesAfter_of_nil] <;> simp
  | cons pair attributes ih =>
    obtain ⟨c, key, hkey, hc⟩ := exists_of_isPlain (plain pair (by simp))
    have hplain : ∀ d ∈ key, (!endsKey d) = true := by
      intro d hd
      have := endsKey_of_isPlainChar (isPlainChar_of_mem (plain pair (by simp))
        (by rw [hkey]; exact List.mem_cons_of_mem c hd))
      simp [this]
    -- what stands after the key's first character
    let after := '=' :: '"' :: escape pair.value.toList
      ++ '"' :: attributes.flatMap attributeText
    have htext : (pair :: attributes).flatMap attributeText = ' ' :: c :: (key ++ after) := by
      simp [attributeText, hkey, after]
    have hdrop : (' ' :: c :: (key ++ after)).dropWhile isSpace = c :: (key ++ after) := by
      simp [List.dropWhile, isSpace_of_isPlainChar hc, show isSpace ' ' = true from rfl]
    have hafter : (key ++ after).dropWhile (!endsKey ·) = after := by
      rw [List.dropWhile_append_of_pos hplain]
      simp [after, endsKey]
    have htake : (key ++ after).takeWhile (!endsKey ·) = key := by
      rw [List.takeWhile_append_of_pos hplain]
      simp [after, endsKey]
    have hname : String.ofList (c :: key) = pair.key := by
      rw [← hkey, String.ofList_toList]
    have fresh : earlier.any (·.key == pair.key) = false := by
      rw [List.map_append, List.nodup_append] at nodup
      simp only [List.any_eq_false, beq_iff_eq]
      intro other hother heq
      exact nodup.2.2 _ (List.mem_map_of_mem hother) _ (by simp) heq
    rw [htext, attributesAfter_of_cons hdrop (by rw [hafter]; exact rawValue?_written _ _)
      (by rw [htake, hname]; exact fresh) (unescape?_escape _), htake, hname,
      String.ofList_toList]
    rw [ih (earlier ++ [pair]) (fun other h => plain other (by simp [h])) (by simpa using nodup)]
    simp

/-- **A written tag reads back.** -/
theorem Tag.read_write {tag : Tag} (h : tag.IsWritable) : Tag.read tag.write.toList = .ok tag := by
  have hname : ∀ c ∈ tag.name.toList, (!isSpace c) = true := by
    intro c hc
    simp [isSpace_of_isPlainChar (isPlainChar_of_mem h.name_plain hc)]
  -- either no attribute follows the name, or a space does
  have hsplit : ∀ attributes : List Attribute,
      (attributes.flatMap attributeText).takeWhile (!isSpace ·) = []
        ∧ (attributes.flatMap attributeText).dropWhile (!isSpace ·)
          = attributes.flatMap attributeText := by
    intro attributes
    cases attributes with
    | nil => simp
    | cons pair attributes => simp [attributeText, show isSpace ' ' = true from rfl]
  rw [toList_write, Tag.read, List.takeWhile_append_of_pos hname,
    List.dropWhile_append_of_pos hname, (hsplit _).1, (hsplit _).2,
    attributesAfter_written _ [] h.keys_plain (by simpa using h.keys_nodup)]
  simp [Except.map]

/-! ### Finding the end of a written tag -/

/-- Characters that neither open a quote nor end the tag are passed over. -/
theorem cutTag?_append {cs : List Char} (h : ∀ c ∈ cs, isSafe c = true) (rest : List Char) :
    cutTag? none (cs ++ rest)
      = (cutTag? none rest).map fun (before, after) => (cs ++ before, after) := by
  induction cs with
  | nil => simp
  | cons c cs ih =>
    have hc := h c (by simp)
    simp only [isSafe, Bool.and_eq_true, bne_iff_ne, ne_eq] at hc
    simp [cutTag?, hc, ih fun d hd => h d (by simp [hd]), Function.comp_def]

/-- Within double quotes all is passed over up to the next one. -/
theorem cutTag?_quoted {cs : List Char} (h : ∀ c ∈ cs, c ≠ '"') (rest : List Char) :
    cutTag? (some '"') (cs ++ '"' :: rest)
      = (cutTag? none rest).map fun (before, after) => (cs ++ '"' :: before, after) := by
  induction cs with
  | nil => simp [cutTag?]
  | cons c cs ih =>
    have hc := h c (by simp)
    simp [cutTag?, hc, ih fun d hd => h d (by simp [hd]), Function.comp_def]

theorem cutTag?_attributeText {pair : Attribute} (h : isPlain pair.key = true)
    (rest : List Char) :
    cutTag? none (attributeText pair ++ rest)
      = (cutTag? none rest).map fun (before, after) => (attributeText pair ++ before, after) := by
  have hkey : ∀ c ∈ ' ' :: pair.key.toList ++ ['='], isSafe c = true := by
    intro c hc
    simp only [List.cons_append, List.mem_cons, List.mem_append, List.not_mem_nil, or_false] at hc
    rcases hc with rfl | hc | rfl
    · rfl
    · exact isSafe_of_isPlainChar (isPlainChar_of_mem h hc)
    · rfl
  have hvalue : ∀ c ∈ escape pair.value.toList, c ≠ '"' := by
    intro c hc
    have := isSafe_of_mem_escape hc
    simp_all [isSafe]
  have htext : attributeText pair ++ rest
      = (' ' :: pair.key.toList ++ ['='])
        ++ '"' :: (escape pair.value.toList ++ '"' :: rest) := by
    simp [attributeText]
  rw [htext, cutTag?_append hkey, cutTag?]
  simp [cutTag?_quoted hvalue, attributeText, Function.comp_def]

/-- **No part of a written tag ends it**, whatever its attribute values hold. -/
theorem cutTag?_write {tag : Tag} (h : tag.IsWritable) (rest : List Char) :
    cutTag? none (tag.write.toList ++ rest)
      = (cutTag? none rest).map fun (before, after) => (tag.write.toList ++ before, after) := by
  have hname : ∀ c ∈ tag.name.toList, isSafe c = true := fun c hc =>
    isSafe_of_isPlainChar (isPlainChar_of_mem h.name_plain hc)
  have hattributes : ∀ attributes : List Attribute,
      (∀ pair ∈ attributes, isPlain pair.key = true) →
      cutTag? none (attributes.flatMap attributeText ++ rest)
        = (cutTag? none rest).map fun (before, after) =>
          (attributes.flatMap attributeText ++ before, after) := by
    intro attributes plain
    induction attributes with
    | nil => simp
    | cons pair attributes ih =>
      rw [List.flatMap_cons, List.append_assoc, cutTag?_attributeText (plain pair (by simp)),
        ih fun other hother => plain other (by simp [hother])]
      simp [Function.comp_def]
  rw [toList_write, List.append_assoc, cutTag?_append hname, hattributes _ h.keys_plain]
  simp [Function.comp_def]

/-- The first character of a written tag decides that it is a tag. -/
theorem exists_write_eq_cons {tag : Tag} (h : tag.IsWritable) :
    ∃ c inside, tag.write.toList = c :: inside ∧ isPlainChar c = true := by
  obtain ⟨c, rest, hname, hc⟩ := exists_of_isPlain h.name_plain
  exact ⟨c, rest ++ tag.attributes.flatMap attributeText, by simp [toList_write, hname], hc⟩

/-- The last character of a written tag is no slash, so the tag is not taken for a single one. -/
theorem getLast?_write_ne {tag : Tag} (h : tag.IsWritable) :
    tag.write.toList.getLast? ≠ some '/' := by
  rcases List.eq_nil_or_concat tag.attributes with hnil | ⟨before, pair, hlast⟩
  · intro hslash
    rw [toList_write, hnil] at hslash
    have hmem : '/' ∈ tag.name.toList := List.mem_of_getLast? (by simpa using hslash)
    have := isPlainChar_of_mem h.name_plain hmem
    revert this
    decide
  · have hquote : tag.write.toList
        = tag.name.toList ++ before.flatMap attributeText
          ++ (' ' :: pair.key.toList ++ '=' :: '"' :: escape pair.value.toList) ++ ['"'] := by
      simp [toList_write, hlast, attributeText]
    rw [hquote, List.getLast?_concat]
    decide

end SchemaDump.Markup
