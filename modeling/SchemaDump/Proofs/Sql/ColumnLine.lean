/-
  SchemaDump/Proofs/Sql/ColumnLine.lean
  =====================================
  **The line of a column read back.**

  A column is defined by its name, its type and its properties, and the tokens of
  the line are those of these parts in order (`ColumnClause.significant_render`).
  So a reader of the text finds the name in front and the type after it; and a
  column is an identity column if the five words that say so stand side by side
  outside of quotes, which they do in one property only.
-/
import Mathlib.Data.List.Infix
import SchemaDump.Proofs.Sql.Keywords

namespace SchemaDump.Sql

/-! ### The readers -/

/-- Whether tokens begin with these words. -/
def beginWith : List String → List Token → Bool
  | [], _ => true
  | word :: words, token :: rest => token.isWord word && beginWith words rest
  | _ :: _, [] => false

/-- Whether these words stand side by side somewhere. -/
def sayTogether (words : List String) (tokens : List Token) : Bool :=
  tokens.tails.any (beginWith words)

/-- What makes a column an identity column. -/
def identityWords : List String := ["GENERATED", "BY", "DEFAULT", "AS", "IDENTITY"]

namespace Reading

/-- The name of a column and the tokens after it. -/
def column? (reading : Reading) (definition : String) : Option (String × List Token) :=
  match significant (pieces reading.lexis definition) with
  | name :: rest => (reading.name? name).map fun name => (name, rest)
  | [] => none

/-- **The name of a column, and whether its definition makes it an identity column.** -/
def identity? (reading : Reading) (definition : String) : Option (String × Bool) :=
  (reading.column? definition).map fun (name, rest) => (name, sayTogether identityWords rest)

/-- **The name of a column and the first word of its type.** -/
def columnType? (reading : Reading) (definition : String) : Option (String × String) :=
  match reading.column? definition with
  | some (name, .word word :: _) => some (name, String.ofList word)
  | _ => none

end Reading

/-! ### Words side by side -/

theorem exists_of_beginWith {words : List String} {tokens : List Token}
    (h : beginWith words tokens = true) :
    ∀ word ∈ words, ∃ token ∈ tokens, token.isWord word = true := by
  induction words generalizing tokens with
  | nil => exact List.forall_mem_nil _
  | cons first words ih =>
    cases tokens with
    | nil => cases h
    | cons token rest =>
      rw [beginWith, Bool.and_eq_true] at h
      rw [List.forall_mem_cons]
      refine ⟨⟨token, List.mem_cons_self, h.1⟩, ?_⟩
      intro word hword
      obtain ⟨other, hother, hsame⟩ := ih h.2 word hword
      exact ⟨other, List.mem_cons_of_mem _ hother, hsame⟩

theorem sayTogether_append {words : List String} {tokens : List Token}
    (h : beginWith words tokens = true) (before : List Token) :
    sayTogether words (before ++ tokens) = true :=
  List.any_eq_true.2 ⟨tokens, (List.mem_tails _ _).2 (List.suffix_append _ _), h⟩

/-- Where one of the words is missing, they do not stand side by side. -/
theorem sayTogether_eq_false {words : List String} {tokens : List Token} {word : String}
    (hword : word ∈ words) (h : ∀ token ∈ tokens, token.isWord word = false) :
    sayTogether words tokens = false := by
  rw [sayTogether, List.any_eq_false]
  intro rest hrest hbegin
  obtain ⟨token, htoken, hsame⟩ := exists_of_beginWith hbegin word hword
  have hother := h token (((List.mem_tails _ _).1 hrest).subset htoken)
  rw [hother] at hsame
  cases hsame

/-! ### The tokens of a column -/

theorem ColumnOption.startsApart (lexis : Lexis) (spelling : Spelling) (column : String)
    (option : ColumnOption) (rest : String) :
    StartsApart lexis (option.render spelling column ++ rest) := by
  cases option <;>
  · simp only [render, String.append_assoc]
    exact startsApart_append (by decide) _

section
variable {reading : Reading} {spelling : Spelling}

/-- Properties begin with a gap, so each is read for itself. -/
theorem significant_options {lexis : Lexis} (hspelling : spelling.IsInert lexis) (column : String)
    {options : List ColumnOption} (h : ∀ option ∈ options, option.IsQuoted) :
    significant (pieces lexis (String.join (options.map (ColumnOption.render spelling column))))
        = options.flatMap (fun option =>
          significant (pieces lexis (option.render spelling column)))
      ∧ StartsApart lexis
        (String.join (options.map (ColumnOption.render spelling column))) := by
  induction options with
  | nil => exact ⟨rfl, startsApart_empty lexis⟩
  | cons option options ih =>
    rw [List.forall_mem_cons] at h
    obtain ⟨hrest, hapart⟩ := ih h.2
    have hclosed := (ColumnOption.isInert hspelling column h.1).isClosed
    rw [List.map_cons, String.join_cons]
    refine ⟨?_, option.startsApart lexis spelling column _⟩
    rw [pieces_append hclosed, significant_append hapart, hrest, List.flatMap_cons]

/-- **The tokens of a column are its name and those of its type and its properties.** -/
theorem ColumnClause.significant_render (h : reading.Knows spelling) {clause : ColumnClause}
    (hquoted : (Clause.column clause).IsQuoted) :
    ∃ token, reading.name? token = some clause.name
      ∧ significant (pieces reading.lexis (clause.render spelling))
        = token :: (significant (pieces reading.lexis clause.type)
          ++ clause.options.flatMap fun option =>
            significant (pieces reading.lexis (option.render spelling clause.name))) := by
  obtain ⟨token, hspells, hname⟩ := h.name clause.name
  obtain ⟨hoptions, hapart⟩ := significant_options h.isInert clause.name hquoted.2
  have hgap : IsInert reading.lexis " " := .of_isPlain (by decide) _
  have htype : IsInert reading.lexis clause.type := .of_isPlain hquoted.1 _
  have hnamed := hspells.inert.append hgap
  refine ⟨token, hname, ?_⟩
  rw [ColumnClause.render, pieces_append (hnamed.append htype).isClosed,
    pieces_append hnamed.isClosed, pieces_append hspells.inert.isClosed, List.append_assoc,
    List.append_assoc, significant_name hspells, significant_append hapart, hoptions]

/-! ### Identity columns -/

theorem significant_identity (lexis : Lexis) (spelling : Spelling) (column : String) :
    significant (pieces lexis (ColumnOption.identity.render spelling column))
      = identityWords.map fun word => .word word.toList := by
  rw [ColumnOption.render, pieces_of_isPlain (by decide)]
  rfl

theorem beginWith_map_word {words : List String} (rest : List Token)
    (h : ∀ word ∈ words, isKeyword word word.toList = true) :
    beginWith words ((words.map fun word => .word word.toList) ++ rest) = true := by
  induction words with
  | nil => rfl
  | cons word words ih =>
    rw [List.forall_mem_cons] at h
    rw [List.map_cons, List.cons_append, beginWith, Token.isWord, h.1, ih h.2]
    rfl

/-- A check on the values of a column holds no reserved word but its own. -/
theorem lacks_oneOf (h : reading.Knows spelling) {keyword : String}
    (hreserved : Text.lower keyword ∈ reservedWords)
    (hcheck : isKeyword keyword "CHECK".toList = false)
    (hin : isKeyword keyword "IN".toList = false) (column : String) (values : List String) :
    Lacks reading.lexis keyword ((ColumnOption.oneOf values).render spelling column) := by
  choose literalToken hliteral hvalue using h.literal
  obtain ⟨nameToken, hname, hread⟩ := h.name column
  have hitems : ∀ item ∈ values.map literalToken, item.isWord keyword = false := by
    intro item hmem
    obtain ⟨value, -, rfl⟩ := List.mem_map.1 hmem
    exact isWord_of_value? (hvalue value)
  have hquoted : (ColumnOption.oneOf values).IsQuoted := trivial
  refine ⟨(ColumnOption.isInert h.isInert column hquoted).isClosed, ?_⟩
  rw [significant_oneOf hname fun value _ => hliteral value, List.forall_mem_cons]
  exact ⟨hcheck, isWord_of_mem_checkTokens hin (isWord_of_name? hreserved hread) hitems⟩

/-- **Whether a column is an identity column is read back from its line**, if nothing else in the
    line holds the word BY. -/
theorem identity?_render (h : reading.Knows spelling) {clause : ColumnClause}
    (hquoted : (Clause.column clause).IsQuoted) (htype : Lacks reading.lexis "BY" clause.type)
    (hoptions : ∀ option ∈ clause.options, option ≠ .identity →
      Lacks reading.lexis "BY" (option.render spelling clause.name)) :
    reading.identity? (clause.render spelling)
      = some (clause.name, decide (.identity ∈ clause.options)) := by
  obtain ⟨token, hname, htokens⟩ := ColumnClause.significant_render h hquoted
  have hsaid : sayTogether identityWords (significant (pieces reading.lexis clause.type)
      ++ clause.options.flatMap fun option =>
        significant (pieces reading.lexis (option.render spelling clause.name)))
      = decide (.identity ∈ clause.options) := by
    by_cases hidentity : .identity ∈ clause.options
    · obtain ⟨before, after, hsplit⟩ := List.append_of_mem hidentity
      rw [decide_eq_true hidentity, hsplit, List.flatMap_append, List.flatMap_cons,
        significant_identity, ← List.append_assoc]
      exact sayTogether_append (beginWith_map_word _ (by decide)) _
    · rw [decide_eq_false hidentity]
      apply sayTogether_eq_false (by decide : "BY" ∈ identityWords)
      rw [List.forall_mem_append]
      refine ⟨htype.words, ?_⟩
      intro other hmem
      obtain ⟨option, hoption, hother⟩ := List.mem_flatMap.1 hmem
      have hne : option ≠ .identity := fun hsame => hidentity (hsame ▸ hoption)
      exact (hoptions option hoption hne).words other hother
  rw [Reading.identity?, Reading.column?, htokens]
  simp only [hname, Option.map_some, hsaid]

/-! ### Types -/

/-- **The first word of a type is read back from the line of the column.** -/
theorem columnType?_render (h : reading.Knows spelling) {clause : ColumnClause}
    (hquoted : (Clause.column clause).IsQuoted) {word rest : String}
    (htype : clause.type = word ++ rest) (hword : isPlainName word.toList = true)
    (hrest : StartsApart reading.lexis rest) :
    reading.columnType? (clause.render spelling) = some (clause.name, word) := by
  obtain ⟨token, hname, htokens⟩ := ColumnClause.significant_render h hquoted
  have hspells : Spells reading.lexis word (.word word.toList) := .word hword
  have hread : significant (pieces reading.lexis clause.type)
      = .word word.toList :: significant (pieces reading.lexis rest) := by
    rw [htype, pieces_append hspells.inert.isClosed,
      significant_item hspells.item (hspells.read _ hrest)]
  rw [Reading.columnType?, Reading.column?, htokens, hread]
  simp only [hname, Option.map_some, List.cons_append, String.ofList_toList]

end

end SchemaDump.Sql
