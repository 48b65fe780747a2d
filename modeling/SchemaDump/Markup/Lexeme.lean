/-
  SchemaDump/Markup/Lexeme.lean
  =============================
  **Lexemes of markup.**

  A document is a row of lexemes: texts, tags of three kinds, character data
  sections, and asides (comments, processing instructions, declarations and
  document types), which say nothing about the content.  Each lexeme but a text
  starts with `<`; where it ends depends on the character after that:

      <![CDATA[ ... ]]>    at the first `]]>`
      <!-- ... -->         at the first `-->`
      <!DOCTYPE ... >      at the `>` that balances its angle brackets
      <? ... ?>            at the first `?>`
      < ... >, </ ... >    at the first `>` outside quotes
-/
import SchemaDump.Markup.Tag
import SchemaDump.Run

namespace SchemaDump.Markup

/-- A piece of a document. -/
inductive Lexeme where
  /-- Text as it stands, references unresolved. -/
  | text (raw : List Char)
  /-- A character data section, which has no references. -/
  | verbatim (content : List Char)
  | aside
  | opening (inside : List Char)
  /-- A tag that opens and closes an element. -/
  | single (inside : List Char)
  | closing (inside : List Char)
deriving DecidableEq, Repr

/-! ### Cutting a text -/

/-- A text up to a sequence of characters and what follows the sequence. -/
def cutAtAll? (stop : List Char) : List Char → Option (List Char × List Char)
  | [] => none
  | c :: rest =>
    if stop.isPrefixOf (c :: rest) then some ([], (c :: rest).drop stop.length)
    else (cutAtAll? stop rest).map fun (before, after) => (c :: before, after)

/-- A document type up to the `>` that balances its angle brackets. -/
def cutBalanced? (depth : Nat) : List Char → Option (List Char × List Char)
  | [] => none
  | c :: rest =>
    if c == '>' then
      match depth with
      | 0 => some ([], rest)
      | depth + 1 => (cutBalanced? depth rest).map fun (before, after) => (c :: before, after)
    else
      (cutBalanced? (if c == '<' then depth + 1 else depth) rest).map fun (before, after) =>
        (c :: before, after)

/-- A tag up to the `>` outside quotes; `quote` is the quote that is open. -/
def cutTag? (quote : Option Char) : List Char → Option (List Char × List Char)
  | [] => none
  | c :: rest =>
    match quote with
    | none =>
      if c == '>' then some ([], rest)
      else
        (cutTag? (if c == '"' || c == '\'' then some c else none) rest).map
          fun (before, after) => (c :: before, after)
    | some mark =>
      (cutTag? (if c == mark then none else some mark) rest).map
        fun (before, after) => (c :: before, after)

theorem length_of_cutAtAll? {stop cs before after : List Char}
    (h : cutAtAll? stop cs = some (before, after)) : after.length ≤ cs.length := by
  induction cs generalizing before with
  | nil => simp [cutAtAll?] at h
  | cons c rest ih =>
    rw [cutAtAll?] at h
    split at h
    · simp only [Option.some.injEq, Prod.mk.injEq] at h
      obtain ⟨-, rfl⟩ := h
      simp
    · simp only [Option.map_eq_some_iff, Prod.exists, Prod.mk.injEq] at h
      obtain ⟨b, a, hc, -, rfl⟩ := h
      have := ih hc
      simp only [List.length_cons]
      omega

theorem length_of_cutBalanced? {depth : Nat} {cs before after : List Char}
    (h : cutBalanced? depth cs = some (before, after)) : after.length ≤ cs.length := by
  induction cs generalizing depth before with
  | nil => simp [cutBalanced?] at h
  | cons c rest ih =>
    have step : ∀ d, (cutBalanced? d rest).map (fun (before, after) => (c :: before, after))
        = some (before, after) → after.length ≤ (c :: rest).length := by
      intro d hd
      simp only [Option.map_eq_some_iff, Prod.exists, Prod.mk.injEq] at hd
      obtain ⟨b, a, hc, -, rfl⟩ := hd
      have := ih hc
      simp only [List.length_cons]
      omega
    unfold cutBalanced? at h
    split at h
    · split at h
      · simp only [Option.some.injEq, Prod.mk.injEq] at h
        obtain ⟨-, rfl⟩ := h
        simp
      · exact step _ h
    · exact step _ h

theorem length_of_cutTag? {quote : Option Char} {cs before after : List Char}
    (h : cutTag? quote cs = some (before, after)) : after.length ≤ cs.length := by
  induction cs generalizing quote before with
  | nil => simp [cutTag?] at h
  | cons c rest ih =>
    cases quote with
    | none =>
      rw [cutTag?] at h
      split at h
      · simp only [Option.some.injEq, Prod.mk.injEq] at h
        obtain ⟨-, rfl⟩ := h
        simp
      · simp only [Option.map_eq_some_iff, Prod.exists, Prod.mk.injEq] at h
        obtain ⟨b, a, hc, -, rfl⟩ := h
        have := ih hc
        simp only [List.length_cons]
        omega
    | some mark =>
      rw [cutTag?] at h
      simp only [Option.map_eq_some_iff, Prod.exists, Prod.mk.injEq] at h
      obtain ⟨b, a, hc, -, rfl⟩ := h
      have := ih hc
      simp only [List.length_cons]
      omega

namespace Lexeme

/-! ### Reading a lexeme -/

/-- The name in a closing tag: without the spaces at its end, unless it is all spaces. -/
def closingName (inside : List Char) : List Char :=
  if inside.all isSpace then inside else (inside.reverse.dropWhile isSpace).reverse

/-- A tag by its inside: a slash at the end makes it single. -/
def ofTag (inside : List Char) : Lexeme :=
  if inside.getLast? == some '/' then .single inside.dropLast else .opening inside

/-- Whether the inside of a document type names something. -/
def namesDocument (inside : List Char) : Bool :=
  (inside.take 7).map Char.toUpper == "DOCTYPE".toList && (inside.drop 7).any (!isSpace ·)

/-- The lexeme after `<`, and what follows it. -/
def afterAngle? (cs : List Char) : Option (Lexeme × List Char) :=
  match cs with
  | [] => none
  | '/' :: rest => (cutTag? none rest).map fun (inside, after) => (.closing inside, after)
  | '?' :: rest =>
    if rest.head? == some '>' then none
    else (cutAtAll? "?>".toList rest).map fun (_, after) => (.aside, after)
  | '!' :: rest =>
    if "[CDATA[".toList.isPrefixOf rest then
      (cutAtAll? "]]>".toList (rest.drop 7)).map fun (content, after) => (.verbatim content, after)
    else if "--".toList.isPrefixOf rest then
      (cutAtAll? "-->".toList (rest.drop 2)).map fun (_, after) => (.aside, after)
    else if (rest.take 1).map Char.toUpper == ['D'] then
      match cutBalanced? 0 rest with
      | some (inside, after) => if namesDocument inside then some (.aside, after) else none
      | none => none
    else none
  | _ => (cutTag? none cs).map fun (inside, after) => (ofTag inside, after)

/-- The first lexeme of a nonempty text, and what follows it. -/
def next? (c : Char) (rest : List Char) : Option (Lexeme × List Char) :=
  if c == '<' then afterAngle? rest
  else some (.text (c :: rest.takeWhile (· != '<')), rest.dropWhile (· != '<'))

/-! ### What follows is shorter -/

theorem length_of_afterAngle? {cs after : List Char} {lexeme : Lexeme}
    (h : afterAngle? cs = some (lexeme, after)) : after.length ≤ cs.length := by
  unfold afterAngle? at h
  split at h
  · simp at h
  · simp only [Option.map_eq_some_iff, Prod.exists, Prod.mk.injEq] at h
    obtain ⟨b, a, hc, -, rfl⟩ := h
    have := length_of_cutTag? hc
    simp only [List.length_cons]
    omega
  · split at h
    · simp at h
    · simp only [Option.map_eq_some_iff, Prod.exists, Prod.mk.injEq] at h
      obtain ⟨b, a, hc, -, rfl⟩ := h
      have := length_of_cutAtAll? hc
      simp only [List.length_cons]
      omega
  · split at h
    · simp only [Option.map_eq_some_iff, Prod.exists, Prod.mk.injEq] at h
      obtain ⟨b, a, hc, -, rfl⟩ := h
      have := length_of_cutAtAll? hc
      simp only [List.length_cons, List.length_drop] at this ⊢
      omega
    · split at h
      · simp only [Option.map_eq_some_iff, Prod.exists, Prod.mk.injEq] at h
        obtain ⟨b, a, hc, -, rfl⟩ := h
        have := length_of_cutAtAll? hc
        simp only [List.length_cons, List.length_drop] at this ⊢
        omega
      · split at h
        · split at h
          · rename_i hc
            split at h
            · simp only [Option.some.injEq, Prod.mk.injEq] at h
              obtain ⟨-, rfl⟩ := h
              have := length_of_cutBalanced? hc
              simp only [List.length_cons]
              omega
            · simp at h
          · simp at h
        · simp at h
  · simp only [Option.map_eq_some_iff, Prod.exists, Prod.mk.injEq] at h
    obtain ⟨b, a, hc, -, rfl⟩ := h
    exact length_of_cutTag? hc

theorem length_of_next? {c : Char} {rest after : List Char} {lexeme : Lexeme}
    (h : next? c rest = some (lexeme, after)) : after.length < (c :: rest).length := by
  unfold next? at h
  split at h
  · have := length_of_afterAngle? h
    simp only [List.length_cons]
    omega
  · simp only [Option.some.injEq, Prod.mk.injEq] at h
    obtain ⟨-, rfl⟩ := h
    have : (rest.dropWhile (· != '<')).length ≤ rest.length :=
      (List.dropWhile_sublist _).length_le
    simp only [List.length_cons]
    omega

/-! ### Reading a text -/

/-- The lexemes of a text, up to the first place where none can be read. -/
def readAll (cs : List Char) : Run Fault Lexeme :=
  match cs with
  | [] => Run.ofList []
  | c :: rest =>
    match _h : next? c rest with
    | none => Run.broken .malformed
    | some (lexeme, after) => (readAll after).cons lexeme
termination_by cs.length
decreasing_by exact length_of_next? _h

end Lexeme
end SchemaDump.Markup
