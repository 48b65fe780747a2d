/-
  SchemaDump/Proofs/Sql/Scanning.lean
  ===================================
  **SQL text as characters and quoted texts.**

  A reader of SQL first tells what stands between quotes from what does not.
  `scan` goes over a text character by character and gives its pieces: single
  characters outside of quotes, and what each pair of marks encloses.  A mark
  that is doubled inside quotes closes one piece and opens the next at once; who
  reads names and literals joins such neighbours again.

  A text that leaves no quotes open is scanned apart from what follows it
  (`pieces_append`).  All that is shown of statements below rests on that.
-/
import Mathlib.Tactic.SplitIfs
import SchemaDump.Sql.Quoting
import SchemaDump.Text.Blank

namespace SchemaDump.Sql

/-- How quotes are read. -/
inductive Lexis where
  /-- Names stand between double quotes; a backslash means nothing. -/
  | standard
  /-- Names stand between grave accents, and a backslash in a literal changes what the next
      character stands for. -/
  | mysql
deriving DecidableEq, Repr

namespace Lexis

/-- The mark around names. -/
def nameMark : Lexis → Char
  | standard => '"'
  | mysql => graveAccent

def isMark (lexis : Lexis) (c : Char) : Bool :=
  c == '\'' || c == '"' || c == lexis.nameMark

/-- Whether a backslash is special between two marks. -/
def escapes (lexis : Lexis) (mark : Char) : Bool :=
  lexis == mysql && mark != lexis.nameMark

end Lexis

def unescaped (c : Char) : Char :=
  if c == '0' then Char.ofNat 0
  else if c == 'n' then '\n'
  else if c == 'r' then '\r'
  else if c == 't' then '\t'
  else if c == 'b' then Char.ofNat 8
  else if c == 'Z' then Char.ofNat 0x1A
  else c

inductive Piece where
  /-- A character outside of quotes. -/
  | char (c : Char)
  /-- What stands between two marks. -/
  | quoted (mark : Char) (text : List Char)
  /-- Quotes that nothing closes. -/
  | unclosed
deriving DecidableEq, Repr

/-- Where in a text the scanner is, with what it has read since the last mark. -/
inductive Place where
  | outside
  | within (mark : Char) (read : List Char)
  /-- After a backslash. -/
  | escaped (mark : Char) (read : List Char)
deriving DecidableEq, Repr

/-- The pieces of the rest of a text. -/
def scan (lexis : Lexis) : Place → List Char → List Piece
  | .outside, [] => []
  | .within _ _, [] | .escaped _ _, [] => [.unclosed]
  | .outside, c :: rest =>
    if lexis.isMark c then scan lexis (.within c []) rest
    else .char c :: scan lexis .outside rest
  | .within mark read, c :: rest =>
    if c == mark then .quoted mark read :: scan lexis .outside rest
    else if lexis.escapes mark && c == '\\' then scan lexis (.escaped mark read) rest
    else scan lexis (.within mark (read ++ [c])) rest
  | .escaped mark read, c :: rest => scan lexis (.within mark (read ++ [unescaped c])) rest

def pieces (lexis : Lexis) (text : String) : List Piece := scan lexis .outside text.toList

/-! ### Texts one after another -/

/-- Whether no quotes are left open. -/
def IsClosed (lexis : Lexis) (text : String) : Prop := .unclosed ∉ pieces lexis text

theorem scan_append {lexis : Lexis} {place : Place} {cs : List Char}
    (h : .unclosed ∉ scan lexis place cs) (rest : List Char) :
    scan lexis place (cs ++ rest) = scan lexis place cs ++ scan lexis .outside rest := by
  induction cs generalizing place with
  | nil =>
    cases place with
    | outside => rfl
    | within mark read => simp [scan] at h
    | escaped mark read => simp [scan] at h
  | cons c cs ih =>
    cases place with
    | outside =>
      rw [List.cons_append, scan, scan]
      rw [scan] at h
      by_cases hmark : lexis.isMark c = true
      · rw [if_pos hmark] at h
        rw [if_pos hmark, if_pos hmark, ih h]
      · rw [if_neg hmark] at h
        rw [if_neg hmark, if_neg hmark, ih (List.not_mem_of_not_mem_cons h), List.cons_append]
    | within mark read =>
      rw [List.cons_append, scan, scan]
      rw [scan] at h
      by_cases hmark : (c == mark) = true
      · rw [if_pos hmark] at h
        rw [if_pos hmark, if_pos hmark, ih (List.not_mem_of_not_mem_cons h), List.cons_append]
      · rw [if_neg hmark] at h
        rw [if_neg hmark, if_neg hmark]
        by_cases hescape : (lexis.escapes mark && c == '\\') = true
        · rw [if_pos hescape] at h
          rw [if_pos hescape, if_pos hescape, ih h]
        · rw [if_neg hescape] at h
          rw [if_neg hescape, if_neg hescape, ih h]
    | escaped mark read =>
      rw [List.cons_append, scan, scan]
      rw [scan] at h
      exact ih h

/-- **A closed text is scanned apart from what follows.** -/
theorem pieces_append {lexis : Lexis} {text : String} (h : IsClosed lexis text) (rest : String) :
    pieces lexis (text ++ rest) = pieces lexis text ++ pieces lexis rest := by
  rw [pieces, String.toList_append]
  exact scan_append h rest.toList

/-! ### Texts that are no statement -/

/-- Whether a piece can stand within a statement. -/
def Piece.isInert (piece : Piece) : Bool := piece != .unclosed && piece != .char ';'

/-- **A text that neither ends a statement nor leaves quotes open.** -/
def IsInert (lexis : Lexis) (text : String) : Prop :=
  ∀ piece ∈ pieces lexis text, piece.isInert = true

theorem IsInert.isClosed {lexis : Lexis} {text : String} (h : IsInert lexis text) :
    IsClosed lexis text := by
  intro hmem
  exact absurd (h _ hmem) (by decide)

theorem IsInert.append {lexis : Lexis} {first second : String} (hfirst : IsInert lexis first)
    (hsecond : IsInert lexis second) : IsInert lexis (first ++ second) := by
  intro piece hmem
  rw [pieces_append hfirst.isClosed, List.mem_append] at hmem
  rcases hmem with hmem | hmem
  · exact hfirst piece hmem
  · exact hsecond piece hmem

theorem IsInert.empty (lexis : Lexis) : IsInert lexis "" := by
  intro piece hmem
  cases hmem

theorem IsInert.join {α : Type} {lexis : Lexis} {text : α → String} {items : List α}
    (h : ∀ item ∈ items, IsInert lexis (text item)) :
    IsInert lexis (String.join (items.map text)) := by
  induction items with
  | nil => exact .empty lexis
  | cons item rest ih =>
    rw [List.forall_mem_cons] at h
    rw [List.map_cons, String.join_cons]
    exact h.1.append (ih h.2)

theorem IsInert.joined {α : Type} {lexis : Lexis} {separator : String} {text : α → String}
    {items : List α} (hseparator : IsInert lexis separator)
    (h : ∀ item ∈ items, IsInert lexis (text item)) :
    IsInert lexis (Text.joined separator (items.map text)) := by
  induction items with
  | nil => exact .empty lexis
  | cons first rest ih =>
    rw [List.forall_mem_cons] at h
    cases rest with
    | nil => exact h.1
    | cons second more => exact (h.1.append hseparator).append (ih h.2)

/-! ### Plain texts -/

/-- Whether a character means nothing to the scanner in either lexis. -/
def isPlainChar (c : Char) : Bool :=
  c != '\'' && c != '"' && c != graveAccent && c != ';'

def isPlain (text : String) : Bool := text.toList.all isPlainChar

/-- A kind of characters without marks and semicolon has plain characters only. -/
theorem isPlainChar_of_kind (kind : Char → Bool)
    (h : (kind '\'' || kind '"' || kind graveAccent || kind ';') = false) {c : Char}
    (hc : kind c = true) : isPlainChar c = true := by
  simp only [Bool.or_eq_false_iff] at h
  obtain ⟨⟨⟨hquote, hdouble⟩, hgrave⟩, hend⟩ := h
  simp only [isPlainChar, Bool.and_eq_true, bne_iff_ne]
  refine ⟨⟨⟨?_, ?_⟩, ?_⟩, ?_⟩ <;>
  · rintro rfl
    simp_all

theorem isMark_of_isPlainChar {c : Char} (h : isPlainChar c = true) (lexis : Lexis) :
    lexis.isMark c = false := by
  simp only [isPlainChar, Bool.and_eq_true, bne_iff_ne] at h
  obtain ⟨⟨⟨hquote, hdouble⟩, hgrave⟩, -⟩ := h
  cases lexis with
  | standard => simp [Lexis.isMark, Lexis.nameMark, hquote, hdouble]
  | mysql => simp [Lexis.isMark, Lexis.nameMark, hquote, hdouble, hgrave]

theorem scan_of_isPlainChar {cs : List Char} (h : cs.all isPlainChar = true) (lexis : Lexis) :
    scan lexis .outside cs = cs.map .char := by
  induction cs with
  | nil => rfl
  | cons c cs ih =>
    rw [List.all_cons, Bool.and_eq_true] at h
    rw [scan, isMark_of_isPlainChar h.1, if_neg (by decide), ih h.2, List.map_cons]

theorem pieces_of_isPlain {text : String} (h : isPlain text = true) (lexis : Lexis) :
    pieces lexis text = text.toList.map .char :=
  scan_of_isPlainChar h lexis

theorem IsInert.of_isPlain {text : String} (h : isPlain text = true) (lexis : Lexis) :
    IsInert lexis text := by
  intro piece hmem
  rw [pieces_of_isPlain h, List.mem_map] at hmem
  obtain ⟨c, hc, rfl⟩ := hmem
  have hplain : isPlainChar c = true := List.all_eq_true.1 h c hc
  rw [isPlainChar, Bool.and_eq_true, bne_iff_ne] at hplain
  simpa [Piece.isInert] using hplain.2

/-! ### Quoted texts -/

/-- The pieces of a text with doubled marks: it is cut at each mark. -/
def cutAtMarks (mark : Char) (read : List Char) : List Char → List Piece
  | [] => [.quoted mark read]
  | c :: rest =>
    if c == mark then .quoted mark read :: cutAtMarks mark [] rest
    else cutAtMarks mark (read ++ [c]) rest

theorem isInert_of_mem_cutAtMarks {mark : Char} {read text : List Char} {piece : Piece}
    (h : piece ∈ cutAtMarks mark read text) : piece.isInert = true := by
  induction text generalizing read with
  | nil =>
    rw [cutAtMarks, List.mem_singleton] at h
    rw [h]
    rfl
  | cons c text ih =>
    rw [cutAtMarks] at h
    split at h
    · rcases List.mem_cons.1 h with rfl | hmem
      · rfl
      · exact ih hmem
    · exact ih h

theorem scan_doubled {lexis : Lexis} {mark : Char} (hmark : lexis.isMark mark = true)
    (hescapes : lexis.escapes mark = false) (read text : List Char) :
    scan lexis (.within mark read) (doubled mark text ++ [mark]) = cutAtMarks mark read text := by
  induction text generalizing read with
  | nil => simp [doubled, scan, cutAtMarks]
  | cons c text ih =>
    rw [doubled, List.flatMap_cons, ← doubled, cutAtMarks]
    by_cases hc : (c == mark) = true
    · obtain rfl := beq_iff_eq.1 hc
      rw [if_pos hc, if_pos hc]
      simp only [List.cons_append, List.nil_append, scan, if_pos hc, if_pos hmark]
      rw [ih]
    · rw [if_neg hc, if_neg hc]
      simp only [List.cons_append, List.nil_append, scan, if_neg hc, hescapes, Bool.false_and]
      exact ih (read ++ [c])

theorem pieces_quotedBy {lexis : Lexis} {mark : Char} (hmark : lexis.isMark mark = true)
    (hescapes : lexis.escapes mark = false) (text : String) :
    pieces lexis (quotedBy mark text) = cutAtMarks mark [] text.toList := by
  rw [pieces, quotedBy, String.toList_ofList, List.append_assoc, List.singleton_append, scan,
    if_pos hmark, scan_doubled hmark hescapes]

theorem IsInert.quotedBy {lexis : Lexis} {mark : Char} (hmark : lexis.isMark mark = true)
    (hescapes : lexis.escapes mark = false) (text : String) :
    IsInert lexis (quotedBy mark text) := by
  intro piece hmem
  rw [pieces_quotedBy hmark hescapes] at hmem
  exact isInert_of_mem_cutAtMarks hmem

/-- A character is read back from its escape. -/
theorem scan_escapedChar (read : List Char) (c : Char) (rest : List Char) :
    scan .mysql (.within '\'' read) (escapedChar c ++ rest)
      = scan .mysql (.within '\'' (read ++ [c])) rest := by
  rw [escapedChar]
  split_ifs with hnul hfeed hreturn hbackslash hquote hdouble hcontrol
  · obtain rfl : c = Char.ofNat 0 := Char.toNat_inj.1 (beq_iff_eq.1 hnul)
    rfl
  · obtain rfl := beq_iff_eq.1 hfeed
    rfl
  · obtain rfl := beq_iff_eq.1 hreturn
    rfl
  · obtain rfl := beq_iff_eq.1 hbackslash
    rfl
  · obtain rfl := beq_iff_eq.1 hquote
    rfl
  · obtain rfl := beq_iff_eq.1 hdouble
    rfl
  · obtain rfl : c = Char.ofNat 0x1A := Char.toNat_inj.1 (beq_iff_eq.1 hcontrol)
    rfl
  · rw [List.singleton_append, scan, if_neg hquote, if_neg (by simpa using fun _ => hbackslash)]

theorem pieces_escapedLiteral (text : String) :
    pieces .mysql (escapedLiteral text) = [.quoted '\'' text.toList] := by
  have hchars : ∀ (read cs : List Char),
      scan .mysql (.within '\'' read) (cs.flatMap escapedChar ++ ['\''])
        = [.quoted '\'' (read ++ cs)] := by
    intro read cs
    induction cs generalizing read with
    | nil => simp [scan]
    | cons c cs ih =>
      rw [List.flatMap_cons, List.append_assoc, scan_escapedChar, ih, List.append_assoc,
        List.singleton_append]
  rw [pieces, escapedLiteral, String.toList_ofList, List.append_assoc, List.singleton_append]
  exact hchars [] text.toList

theorem IsInert.escapedLiteral (text : String) : IsInert .mysql (escapedLiteral text) := by
  intro piece hmem
  rw [pieces_escapedLiteral, List.mem_singleton] at hmem
  rw [hmem]
  rfl

/-! ### Names -/

theorem isPlain_of_isPlainName {name : String} (h : isPlainName name.toList = true) :
    isPlain name = true := by
  have hchar : ∀ c : Char, (startsPlainName c || c.isDigit) = true → isPlainChar c = true :=
    fun c hc => isPlainChar_of_kind (fun c => startsPlainName c || c.isDigit) rfl hc
  rw [isPlain]
  cases hname : name.toList with
  | nil => rfl
  | cons c rest =>
    rw [hname, isPlainName, Bool.and_eq_true] at h
    rw [List.all_cons, Bool.and_eq_true, List.all_eq_true]
    have hrest := List.all_eq_true.1 h.2
    exact ⟨hchar c (by rw [h.1, Bool.true_or]), fun d hd => hchar d (hrest d hd)⟩

theorem IsInert.quotedName (name : String) : IsInert .standard (quotedName name) :=
  .quotedBy rfl rfl name

theorem IsInert.graveName (name : String) : IsInert .mysql (graveName name) :=
  .quotedBy rfl rfl name

theorem IsInert.bareName (name : String) : IsInert .standard (bareName name) := by
  rw [Sql.bareName]
  split
  · rename_i h
    rw [Bool.and_eq_true] at h
    exact .of_isPlain (isPlain_of_isPlainName h.1) .standard
  · exact .quotedName name

theorem IsInert.standardLiteral (text : String) : IsInert .standard (standardLiteral text) :=
  .quotedBy rfl rfl text

end SchemaDump.Sql
