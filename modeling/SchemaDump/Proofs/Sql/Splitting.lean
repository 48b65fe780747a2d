/-
  SchemaDump/Proofs/Sql/Splitting.lean
  ====================================
  **SQL text split into statements.**

  A script is split at the semicolons outside of quotes.  `SplitsInto` says that
  nothing is left open or over and how many statements there are; scripts are
  put together from texts that split so, and their statements add up.
-/
import Mathlib.Algebra.GroupWithZero.Nat
import Mathlib.Data.List.Forall2
import SchemaDump.Proofs.Sql.Scanning
import SchemaDump.Sql.Statement

namespace SchemaDump.Sql

/-- The statements of some pieces without their semicolons, and what follows the last. -/
def split : List Piece → List (List Piece) × List Piece
  | [] => ([], [])
  | piece :: rest =>
    if piece = .char ';' then ([] :: (split rest).1, (split rest).2)
    else match split rest with
      | ([], after) => ([], piece :: after)
      | (first :: others, after) => ((piece :: first) :: others, after)

def Piece.isBlank : Piece → Bool
  | .char c => Text.isBlank c
  | .quoted _ _ | .unclosed => false

/-- **A text is made up of so many statements.**  None of them is blank, all quotes are closed
    and only blanks follow the last semicolon. -/
structure SplitsInto (lexis : Lexis) (text : String) (count : Nat) : Prop where
  closed : IsClosed lexis text
  statements : (split (pieces lexis text)).1.length = count
  said : ∀ statement ∈ (split (pieces lexis text)).1, ∃ piece ∈ statement, piece.isBlank = false
  rest : ∀ piece ∈ (split (pieces lexis text)).2, piece.isBlank = true

/-! ### Splitting one after another -/

theorem split_of_isInert {body : List Piece} (h : ∀ piece ∈ body, piece.isInert = true) :
    split body = ([], body) := by
  induction body with
  | nil => rfl
  | cons piece rest ih =>
    rw [List.forall_mem_cons] at h
    have hpiece : piece ≠ .char ';' := by
      rintro rfl
      exact absurd h.1 (by decide)
    rw [split, if_neg hpiece, ih h.2]

/-- What follows the last statement goes before the first one that comes after. -/
def continued (before : List Piece) : List (List Piece) → List (List Piece)
  | [] => []
  | first :: others => (before ++ first) :: others

theorem split_append (first second : List Piece) :
    split (first ++ second)
      = ((split first).1 ++ continued (split first).2 (split second).1,
          if (split second).1.isEmpty then (split first).2 ++ (split second).2
          else (split second).2) := by
  induction first with
  | nil =>
    rw [List.nil_append, split]
    cases h : split second with
    | mk statements rest =>
      cases statements with
      | nil => rfl
      | cons statement others => rfl
  | cons piece first ih =>
    rw [List.cons_append, split, split]
    by_cases hpiece : piece = .char ';'
    · rw [if_pos hpiece, if_pos hpiece, ih]
      rfl
    · rw [if_neg hpiece, if_neg hpiece, ih]
      cases split first with
      | mk statements rest =>
        cases statements with
        | nil =>
          cases split second with
          | mk more after =>
            cases more with
            | nil => rfl
            | cons statement others => rfl
        | cons statement others => rfl

theorem length_continued (before : List Piece) (statements : List (List Piece)) :
    (continued before statements).length = statements.length := by
  cases statements with
  | nil => rfl
  | cons first others => rfl

theorem exists_of_mem_continued {before statement : List Piece} {statements : List (List Piece)}
    (h : statement ∈ continued before statements) :
    ∃ held ∈ statements, ∀ piece ∈ held, piece ∈ statement := by
  cases statements with
  | nil => cases h
  | cons first others =>
    rcases List.mem_cons.1 h with rfl | hmem
    · exact ⟨first, List.mem_cons_self, fun piece hpiece => List.mem_append_right before hpiece⟩
    · exact ⟨statement, List.mem_cons_of_mem first hmem, fun piece hpiece => hpiece⟩

theorem pieces_end {lexis : Lexis} {body : String} (h : IsInert lexis body) :
    pieces lexis (body ++ ";") = pieces lexis body ++ [.char ';'] := by
  have hend : pieces lexis ";" = [.char ';'] := by cases lexis <;> rfl
  rw [pieces_append h.isClosed, hend]

theorem IsInert.isClosed_end {lexis : Lexis} {body : String} (h : IsInert lexis body) :
    IsClosed lexis (body ++ ";") := by
  intro hmem
  rw [pieces_end h, List.mem_append] at hmem
  rcases hmem with hmem | hmem
  · exact h.isClosed hmem
  · simp at hmem

/-- A text within which no statement ends is one statement with a semicolon after it. -/
theorem split_end {lexis : Lexis} {body : String} (h : IsInert lexis body) (rest : List Piece) :
    split (pieces lexis (body ++ ";") ++ rest)
      = (pieces lexis body :: (split rest).1, (split rest).2) := by
  rw [pieces_end h, List.append_assoc, split_append, split_of_isInert h]
  simp [split, continued]

/-! ### Phrases -/

theorem IsInert.parenthesized {α : Type} {lexis : Lexis} {text : α → String} {items : List α}
    (h : ∀ item ∈ items, IsInert lexis (text item)) :
    IsInert lexis (parenthesized (items.map text)) := by
  have hopen : IsInert lexis "(" := .of_isPlain (by decide) lexis
  have hcomma : IsInert lexis ", " := .of_isPlain (by decide) lexis
  have hclose : IsInert lexis ")" := .of_isPlain (by decide) lexis
  exact (hopen.append (hcomma.joined h)).append hclose

/-- A text that is a statement once a semicolon follows. -/
structure IsPhrase (lexis : Lexis) (text : String) : Prop where
  inert : IsInert lexis text
  said : ∃ piece ∈ pieces lexis text, piece.isBlank = false

theorem IsPhrase.of_isPlain {text : String} (h : isPlain text = true)
    (hsaid : Text.blankOnly text = false) (lexis : Lexis) : IsPhrase lexis text := by
  refine ⟨.of_isPlain h lexis, ?_⟩
  rw [Text.blankOnly, List.all_eq_false] at hsaid
  obtain ⟨c, hc, hblank⟩ := hsaid
  rw [pieces_of_isPlain h]
  exact ⟨.char c, List.mem_map_of_mem hc, by simpa [Piece.isBlank] using hblank⟩

theorem IsPhrase.append {lexis : Lexis} {first second : String} (hfirst : IsPhrase lexis first)
    (hsecond : IsInert lexis second) : IsPhrase lexis (first ++ second) := by
  refine ⟨hfirst.inert.append hsecond, ?_⟩
  obtain ⟨piece, hpiece, hsaid⟩ := hfirst.said
  rw [pieces_append hfirst.inert.isClosed]
  exact ⟨piece, List.mem_append_left _ hpiece, hsaid⟩

/-! ### Scripts put together -/

namespace SplitsInto

/-- **The statements of texts one after another add up.** -/
theorem append {lexis : Lexis} {first second : String} {m n : Nat}
    (hfirst : SplitsInto lexis first m) (hsecond : SplitsInto lexis second n) :
    SplitsInto lexis (first ++ second) (m + n) := by
  have hpieces := pieces_append hfirst.closed second
  constructor
  · intro hmem
    rw [hpieces, List.mem_append] at hmem
    rcases hmem with hmem | hmem
    · exact hfirst.closed hmem
    · exact hsecond.closed hmem
  · rw [hpieces, split_append, List.length_append, length_continued, hfirst.statements,
      hsecond.statements]
  · intro statement hmem
    rw [hpieces, split_append, List.mem_append] at hmem
    rcases hmem with hmem | hmem
    · exact hfirst.said statement hmem
    · obtain ⟨held, hheld, hsub⟩ := exists_of_mem_continued hmem
      obtain ⟨piece, hpiece, hsaid⟩ := hsecond.said held hheld
      exact ⟨piece, hsub piece hpiece, hsaid⟩
  · intro piece hmem
    rw [hpieces, split_append] at hmem
    by_cases hempty : (split (pieces lexis second)).1.isEmpty = true
    · rw [if_pos hempty, List.mem_append] at hmem
      rcases hmem with hmem | hmem
      · exact hfirst.rest piece hmem
      · exact hsecond.rest piece hmem
    · rw [if_neg hempty] at hmem
      exact hsecond.rest piece hmem

theorem of_blankOnly {text : String} (h : Text.blankOnly text = true) (lexis : Lexis) :
    SplitsInto lexis text 0 := by
  have hchars : ∀ c ∈ text.toList, Text.isBlank c = true := List.all_eq_true.1 h
  have hplain : isPlain text = true := by
    rw [isPlain, List.all_eq_true]
    exact fun c hc => isPlainChar_of_kind _ rfl (hchars c hc)
  have hinert := IsInert.of_isPlain hplain lexis
  have hsplit := split_of_isInert hinert
  constructor
  · exact hinert.isClosed
  · rw [hsplit]
    rfl
  · intro statement hmem
    rw [hsplit] at hmem
    cases hmem
  · intro piece hmem
    rw [hsplit, pieces_of_isPlain hplain, List.mem_map] at hmem
    obtain ⟨c, hc, rfl⟩ := hmem
    exact hchars c hc

theorem empty (lexis : Lexis) : SplitsInto lexis "" 0 := of_blankOnly rfl lexis

theorem of_isPhrase {lexis : Lexis} {body : String} (h : IsPhrase lexis body) :
    SplitsInto lexis (body ++ ";") 1 := by
  have hsplit : split (pieces lexis (body ++ ";")) = ([pieces lexis body], []) := by
    have hend := split_end h.inert []
    rw [List.append_nil] at hend
    exact hend
  constructor
  · exact h.inert.isClosed_end
  · rw [hsplit]
    rfl
  · intro statement hmem
    rw [hsplit, List.mem_singleton] at hmem
    rw [hmem]
    exact h.said
  · intro piece hmem
    rw [hsplit] at hmem
    cases hmem

theorem join {lexis : Lexis} {texts : List String} {counts : List Nat}
    (h : List.Forall₂ (SplitsInto lexis) texts counts) :
    SplitsInto lexis (String.join texts) counts.sum := by
  induction h with
  | nil => exact empty lexis
  | cons hfirst _ ih =>
    rw [String.join_cons, List.sum_cons]
    exact hfirst.append ih

/-- **A block has the statements that it is made of.** -/
theorem block {lexis : Lexis} {spelling : Spelling} {statements : List Statement}
    (h : ∀ statement ∈ statements, SplitsInto lexis (statement.render spelling) 1) :
    SplitsInto lexis (block spelling statements) statements.length := by
  have hjoined : SplitsInto lexis
      (Text.joined "\n" (statements.map (Statement.render spelling))) statements.length := by
    induction statements with
    | nil => exact empty lexis
    | cons first rest ih =>
      rw [List.forall_mem_cons] at h
      cases rest with
      | nil => exact h.1
      | cons second more =>
        have hbreak : SplitsInto lexis "\n" 0 := of_blankOnly rfl lexis
        rw [List.length_cons, Nat.add_comm]
        exact (h.1.append hbreak).append (ih h.2)
  rw [Sql.block]
  split
  · rename_i hempty
    rw [List.isEmpty_iff.1 hempty]
    exact empty lexis
  · exact hjoined.append (of_blankOnly rfl lexis)

end SplitsInto
end SchemaDump.Sql
