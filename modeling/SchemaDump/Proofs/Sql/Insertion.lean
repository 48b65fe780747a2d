/-
  SchemaDump/Proofs/Sql/Insertion.lean
  ====================================
  **INSERT statements read back.**

  A reader of INSERT statements that knows of a dialect only how quotes are
  read, whether names may stand bare and how a row without fields is written.
  It splits a text at its semicolons, takes each statement for its tokens and
  gives the table and the fields that the statement names.
-/
import SchemaDump.Proofs.Checked
import SchemaDump.Proofs.Sql.Rendering
import SchemaDump.Proofs.Sql.Tokens

namespace SchemaDump.Sql

/-- How a dialect is read. -/
structure Reading where
  lexis : Lexis
  /-- Whether plain names that are no reserved words need no quotes. -/
  bareNames : Bool
  /-- Whether a row without fields is `DEFAULT VALUES`; elsewhere it is two empty lists. -/
  defaultValues : Bool

structure Insertion where
  table : String
  fields : List Field
deriving DecidableEq, Repr

/-! ### The reader -/

def isKeyword (keyword : String) (text : List Char) : Bool :=
  Text.sameLetters keyword (String.ofList text)

def value? : Token → Option (Option String)
  | .quoted mark text => if mark == '\'' then some (some (String.ofList text)) else none
  | .word text => if isKeyword "NULL" text then some none else none
  | _ => none

/-- The items of a list after the first one, up to the closing parenthesis. -/
def moreItems? : List Token → Option (List Token × List Token)
  | .symbol ')' :: rest => some ([], rest)
  | .symbol ',' :: item :: rest =>
    (moreItems? rest).map fun (items, after) => (item :: items, after)
  | _ => none

/-- The items of a list, from the text after the opening parenthesis. -/
def items? : List Token → Option (List Token × List Token)
  | .symbol ')' :: rest => some ([], rest)
  | item :: rest => (moreItems? rest).map fun (items, after) => (item :: items, after)
  | [] => none

namespace Reading

def name? (reading : Reading) : Token → Option String
  | .quoted mark text =>
    if mark == reading.lexis.nameMark then some (String.ofList text) else none
  | .word text =>
    if reading.bareNames && isPlainName text
        && !reservedWords.contains (Text.lower (String.ofList text)) then
      some (String.ofList text)
    else none
  | _ => none

def field? (reading : Reading) (item : Token × Token) : Option Field := do
  pure ⟨← reading.name? item.1, ← value? item.2⟩

/-- The fields of a row, from the text after the name of the table. -/
def fields? (reading : Reading) : List Token → Option (List Field)
  | [.word first, .word second] =>
    if reading.defaultValues && isKeyword "DEFAULT" first && isKeyword "VALUES" second then some []
    else none
  | .symbol '(' :: rest => do
    match ← items? rest with
    | (names, .word word :: .symbol '(' :: more) =>
      let (values, after) ← items? more
      if isKeyword "VALUES" word && after.isEmpty && names.length == values.length
          && !(reading.defaultValues && names.isEmpty) then
        (names.zip values).mapM reading.field?
      else none
    | _ => none
  | _ => none

def insertion? (reading : Reading) (statement : List Piece) : Option Insertion :=
  match significant statement with
  | .word first :: .word second :: table :: rest =>
    if isKeyword "INSERT" first && isKeyword "INTO" second then do
      pure ⟨← reading.name? table, ← reading.fields? rest⟩
    else none
  | _ => none

/-- **The rows that a text puts in, and the blanks after the last statement.** -/
def insertions? (reading : Reading) (text : String) : Option (List Insertion × String) := do
  let (statements, rest) := split (pieces reading.lexis text)
  let insertions ← statements.mapM reading.insertion?
  let blanks ← rest.mapM fun
    | .char c => if Text.isBlank c then some c else none
    | _ => none
  pure (insertions, String.ofList blanks)

end Reading

/-! ### Lists -/

theorem moreItems?_separated (item : Token) (items rest : List Token) :
    moreItems? ((separated (item :: items)).tail ++ .symbol ')' :: rest) = some (items, rest) := by
  induction items generalizing item with
  | nil => rfl
  | cons next more ih =>
    have hnext := ih next
    have htail : separated (next :: more) = next :: (separated (next :: more)).tail := by
      cases more <;> rfl
    rw [separated, List.tail_cons, List.cons_append, htail, List.cons_append, moreItems?, hnext]
    rfl

theorem items?_separated {items : List Token} (h : ∀ item ∈ items, item.isItem = true)
    (rest : List Token) :
    items? (separated items ++ .symbol ')' :: rest) = some (items, rest) := by
  cases items with
  | nil => rfl
  | cons item more =>
    have htail : separated (item :: more) = item :: (separated (item :: more)).tail := by
      cases more <;> rfl
    have hmore := moreItems?_separated item more rest
    rw [List.forall_mem_cons] at h
    rw [htail, List.cons_append]
    cases item with
    | word text => simp [items?, hmore]
    | quoted mark text => simp [items?, hmore]
    | _ => cases h.1

/-! ### Written statements -/

/-- **A reading that a spelling is meant for**: every name and every literal is one token that the
    reading takes for it. -/
structure Reading.Knows (reading : Reading) (spelling : Spelling) : Prop where
  name : ∀ name, ∃ token, Spells reading.lexis (spelling.name name) token
    ∧ reading.name? token = some name
  literal : ∀ text, ∃ token, Spells reading.lexis (spelling.literal text) token
    ∧ value? token = some (some text)

/-- A text that is one statement for a row. -/
def Reading.ReadsAs (reading : Reading) (text : String) (insertion : Insertion) : Prop :=
  ∃ body, text = body ++ ";" ∧ IsInert reading.lexis body
    ∧ reading.insertion? (pieces reading.lexis body) = some insertion

section
variable {reading : Reading} {spelling : Spelling}

theorem Reading.Knows.isInert (h : reading.Knows spelling) : spelling.IsInert reading.lexis := by
  constructor
  · intro name
    obtain ⟨token, hspells, -⟩ := h.name name
    exact hspells.inert
  · intro text
    obtain ⟨token, hspells, -⟩ := h.literal text
    exact hspells.inert

theorem exists_value (h : reading.Knows spelling) (value : Option String) :
    ∃ token, Spells reading.lexis (renderValue spelling value) token
      ∧ value? token = some value := by
  cases value with
  | some text => exact h.literal text
  | none =>
    have hnull : Spells reading.lexis "NULL" (.word "NULL".toList) := .word (by decide)
    exact ⟨.word "NULL".toList, hnull, by decide⟩

theorem fields?_listed {fields : List Field} {nameToken : String → Token}
    {valueToken : Option String → Token}
    (hfields : reading.defaultValues = false ∨ fields ≠ [])
    (hnames : ∀ name, (nameToken name).isItem = true)
    (hname : ∀ name, reading.name? (nameToken name) = some name)
    (hvalues : ∀ value, (valueToken value).isItem = true)
    (hvalue : ∀ value, value? (valueToken value) = some value) :
    reading.fields? (Token.symbol '('
        :: (separated (fields.map fun field => nameToken field.name) ++ .symbol ')'
        :: .word "VALUES".toList :: .symbol '('
        :: (separated (fields.map fun field => valueToken field.value) ++ [Token.symbol ')'])))
      = some fields := by
  have hfirst : ∀ rest,
      items? (separated (fields.map fun field => nameToken field.name) ++ .symbol ')' :: rest)
        = some (fields.map fun field => nameToken field.name, rest) := by
    apply items?_separated
    intro item hmem
    obtain ⟨field, -, rfl⟩ := List.mem_map.1 hmem
    exact hnames field.name
  have hsecond :
      items? (separated (fields.map fun field => valueToken field.value) ++ [Token.symbol ')'])
        = some (fields.map fun field => valueToken field.value, []) := by
    apply items?_separated
    intro item hmem
    obtain ⟨field, -, rfl⟩ := List.mem_map.1 hmem
    exact hvalues field.value
  have hcheck : (isKeyword "VALUES" "VALUES".toList && ([] : List Token).isEmpty
      && (fields.map fun field => nameToken field.name).length
        == (fields.map fun field => valueToken field.value).length
      && !(reading.defaultValues && (fields.map fun field => nameToken field.name).isEmpty))
      = true := by
    have hempty : (reading.defaultValues && fields.isEmpty) = false := by
      rcases hfields with h | h
      · rw [h, Bool.false_and]
      · rw [List.isEmpty_eq_false_iff.2 h, Bool.and_false]
    have hkeyword : isKeyword "VALUES" "VALUES".toList = true := by decide
    rw [hkeyword, List.length_map, List.length_map, List.isEmpty_map, hempty]
    simp
  have hread : ((fields.map fun field => nameToken field.name).zip
      (fields.map fun field => valueToken field.value)).mapM reading.field? = some fields := by
    apply Checked.mapM_eq_some_iff.2
    rw [List.zip_map', List.forall₂_map_left_iff, List.forall₂_same]
    intro field _
    rw [Reading.field?, hname, hvalue]
    rfl
  rw [Reading.fields?, hfirst]
  simp only [Option.bind_eq_bind, Option.bind_some, hsecond, if_pos hcheck, hread]

/-! What the parts of a statement contribute, with everything after them left open. -/

theorem significant_insertInto (lexis : Lexis) (rest : List Piece) :
    significant (pieces lexis "INSERT INTO " ++ rest)
      = .word "INSERT".toList :: .word "INTO".toList :: significant rest := by
  rw [pieces_of_isPlain (by decide)]
  rfl

theorem tokens_gap (lexis : Lexis) (rest : List Piece) :
    tokens (pieces lexis " " ++ rest) = .blank :: tokens rest := by
  rw [pieces_of_isPlain (by decide)]
  rfl

theorem significant_name {lexis : Lexis} {text : String} {token : Token}
    (h : Spells lexis text token) (rest : List Piece) :
    significant (pieces lexis text ++ (pieces lexis " " ++ rest)) = token :: significant rest := by
  have hapart : standsApart (tokens (pieces lexis " " ++ rest)) = true := by
    rw [tokens_gap]
    rfl
  rw [significant_item h.item (h.read _ hapart), significant, tokens_gap]
  rfl

theorem significant_values (lexis : Lexis) (rest : List Piece) :
    significant (pieces lexis " VALUES " ++ rest)
      = .word "VALUES".toList :: significant rest := by
  rw [pieces_of_isPlain (by decide)]
  rfl

theorem insertion?_of_significant {statement : List Piece} {token : Token} {table : String}
    {rest : List Token} {fields : List Field}
    (h : significant statement
      = .word "INSERT".toList :: .word "INTO".toList :: token :: rest)
    (htable : reading.name? token = some table) (hfields : reading.fields? rest = some fields) :
    reading.insertion? statement = some ⟨table, fields⟩ := by
  have hkeywords : (isKeyword "INSERT" "INSERT".toList && isKeyword "INTO" "INTO".toList)
      = true := by
    decide
  rw [Reading.insertion?, h]
  simp only [if_pos hkeywords, htable, hfields, Option.bind_eq_bind, Option.bind_some]
  rfl

/-- **A row is read back from the statement written for it.** -/
theorem readsAs_insert (h : reading.Knows spelling) (table : String) {fields : List Field}
    (hfields : reading.defaultValues = false ∨ fields ≠ []) :
    reading.ReadsAs ((Statement.insert table fields).render spelling) ⟨table, fields⟩ := by
  choose nameToken hspelled hname using h.name
  choose valueToken hwritten hvalue using exists_value h
  have hnames : ∀ field ∈ fields,
      Spells reading.lexis (spelling.name field.name) (nameToken field.name) :=
    fun field _ => hspelled field.name
  have hvalues : ∀ field ∈ fields,
      Spells reading.lexis (renderValue spelling field.value) (valueToken field.value) :=
    fun field _ => hwritten field.value
  have hstart : IsInert reading.lexis "INSERT INTO " := .of_isPlain (by decide) _
  have hgap : IsInert reading.lexis " " := .of_isPlain (by decide) _
  have hword : IsInert reading.lexis " VALUES " := .of_isPlain (by decide) _
  have htable := hstart.append (hspelled table).inert
  have hbefore := htable.append hgap
  have hlisted := hbefore.append (IsInert.parenthesized fun field hmem => (hnames field hmem).inert)
  have hsaid := hlisted.append hword
  have hbody := hsaid.append (IsInert.parenthesized fun field hmem => (hvalues field hmem).inert)
  refine ⟨_, rfl, hbody, ?_⟩
  have hread := significant_parenthesized hvalues []
  rw [List.append_nil] at hread
  refine insertion?_of_significant ?_ (hname table)
    (fields?_listed hfields (fun name => (hspelled name).item) hname
      (fun value => (hwritten value).item) hvalue)
  rw [pieces_append hsaid.isClosed, pieces_append hlisted.isClosed,
    pieces_append hbefore.isClosed, pieces_append htable.isClosed, pieces_append hstart.isClosed]
  simp only [List.append_assoc]
  rw [significant_insertInto, significant_name (hspelled table), significant_parenthesized hnames,
    significant_values, hread]
  rfl

theorem readsAs_insertDefaults (h : reading.Knows spelling)
    (hdefault : reading.defaultValues = true) (table : String) :
    reading.ReadsAs ((Statement.insertDefaults table).render spelling) ⟨table, []⟩ := by
  obtain ⟨token, hspells, hname⟩ := h.name table
  have hstart : IsInert reading.lexis "INSERT INTO " := .of_isPlain (by decide) _
  have hend : IsInert reading.lexis " DEFAULT VALUES" := .of_isPlain (by decide) _
  have htable := hstart.append hspells.inert
  have hfields : reading.fields? [.word "DEFAULT".toList, .word "VALUES".toList] = some [] := by
    have hkeywords : (isKeyword "DEFAULT" "DEFAULT".toList && isKeyword "VALUES" "VALUES".toList)
        = true := by
      decide
    rw [Reading.fields?, hdefault, Bool.true_and, if_pos hkeywords]
  refine ⟨_, Statement.render_insertDefaults spelling table, htable.append hend, ?_⟩
  refine insertion?_of_significant ?_ hname hfields
  rw [pieces_append htable.isClosed, pieces_append hstart.isClosed, List.append_assoc,
    significant_insertInto, pieces_of_isPlain (by decide : isPlain " DEFAULT VALUES" = true),
    significant_item hspells.item (hspells.read _ rfl)]
  rfl

/-! ### Blocks of statements -/

/-- **The lines of a block are its statements**, each after a line break but the first. -/
theorem split_joined {texts : List String} {insertions : List Insertion}
    (h : List.Forall₂ reading.ReadsAs texts insertions) (hne : texts ≠ []) :
    ∃ statements,
      split (pieces reading.lexis (Text.joined "\n" texts ++ "\n\n"))
        = (statements, [.char '\n', .char '\n'])
        ∧ List.Forall₂ (fun statement insertion => reading.insertion? statement = some insertion)
          statements insertions := by
  have hblanks : pieces reading.lexis "\n\n" = [.char '\n', .char '\n'] :=
    pieces_of_isPlain (by decide) _
  have hbreak : ∀ text, pieces reading.lexis ("\n" ++ text)
      = .char '\n' :: pieces reading.lexis text := by
    intro text
    rw [pieces_append (IsInert.of_isPlain (by decide) _).isClosed, pieces_of_isPlain (by decide)]
    rfl
  induction h with
  | nil => exact absurd rfl hne
  | cons hfirst hothers ih =>
    obtain ⟨body, rfl, hbody, hread⟩ := hfirst
    cases hothers with
    | nil =>
      refine ⟨[pieces reading.lexis body], ?_, .cons hread .nil⟩
      rw [Text.joined, pieces_append hbody.isClosed_end, split_end hbody, hblanks]
      rfl
    | cons hsecond hrest =>
      obtain ⟨statements, hsplit, hstatements⟩ := ih (List.cons_ne_nil _ _)
      cases hstatements with
      | cons hstatement hmore =>
        rename_i statement others
        refine ⟨pieces reading.lexis body :: (.char '\n' :: statement) :: others, ?_,
          .cons hread (.cons hstatement hmore)⟩
        rw [Text.joined, String.append_assoc, String.append_assoc,
          pieces_append hbody.isClosed_end, split_end hbody, hbreak, split, if_neg (by decide),
          hsplit]

/-- **A block is read back row by row**, and only its line breaks are left over. -/
theorem insertions?_block {statements : List Statement} {insertions : List Insertion}
    (h : List.Forall₂ reading.ReadsAs (statements.map (Statement.render spelling)) insertions) :
    reading.insertions? (block spelling statements)
      = some (insertions, if insertions.isEmpty then "" else "\n\n") := by
  cases statements with
  | nil =>
    cases h
    rfl
  | cons first others =>
    obtain ⟨read, hsplit, hread⟩ := split_joined h (List.cons_ne_nil _ _)
    have hsome : insertions.isEmpty = false := by
      cases h
      rfl
    have hblock : block spelling (first :: others)
        = Text.joined "\n" ((first :: others).map (Statement.render spelling)) ++ "\n\n" := rfl
    rw [Reading.insertions?, hblock, hsplit, hsome]
    simp only [Checked.mapM_eq_some_iff.2 hread, Option.bind_eq_bind, Option.bind_some]
    rfl

end

end SchemaDump.Sql
