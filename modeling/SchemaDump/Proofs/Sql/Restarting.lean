/-
  SchemaDump/Proofs/Sql/Restarting.lean
  =====================================
  **Restarted counters read back.**

  A reader of the statements that tell an identity column where to go on, which
  passes over every other statement.  So the restarts that it gathers from a
  script are those that its statements were written for.
-/
import SchemaDump.Proofs.Sql.Gathering

namespace SchemaDump.Sql

/-- An identity column and the value that it goes on with. -/
structure Restart where
  table : String
  column : String
  next : Int
deriving DecidableEq, Repr

/-! ### The reader -/

/-- A whole number, with a minus sign or without a sign. -/
def number? : List Token → Option Int
  | [.word digits] => (Text.natural? digits).map fun n => (n : Int)
  | [.symbol '-', .word digits] => (Text.natural? digits).map fun n => -(n : Int)
  | _ => none

namespace Reading

def restart? (reading : Reading) (statement : List Piece) : Option Restart :=
  match significant statement with
  | .word first :: .word second :: table :: .word third :: .word fourth :: column
      :: .word fifth :: .word sixth :: number =>
    if isKeyword "ALTER" first && isKeyword "TABLE" second && isKeyword "ALTER" third
        && isKeyword "COLUMN" fourth && isKeyword "RESTART" fifth && isKeyword "WITH" sixth then do
      pure ⟨← reading.name? table, ← reading.name? column, ← number? number⟩
    else none
  | _ => none

/-- **The restarts that a text asks for**, in order. -/
def restarts (reading : Reading) (text : String) : List Restart :=
  (split (pieces reading.lexis text)).1.filterMap reading.restart?

/-- Where a column of a table goes on after a text: what its last restart says. -/
def lastRestart? (reading : Reading) (text table column : String) : Option Int :=
  ((reading.restarts text).filter fun restart =>
    restart.table == table && restart.column == column).getLast?.map Restart.next

end Reading

/-! ### Statements -/

section
variable {reading : Reading} {spelling : Spelling}

theorem seesTokens_restart? : SeesTokens reading.restart? := by
  intro first second h
  rw [Reading.restart?, h, Reading.restart?]

/-- What a statement tells an identity column. -/
def Statement.restarts : Statement → List Restart
  | .restart table column next => [⟨table, column, next⟩]
  | .createTable _ _ _ | .createIndex _ _ _ _ _ | .comment _ _ | .insert _ _ | .insertDefaults _
  | .delete _ | .truncate _ _ | .advance _ _ => []

theorem restart?_of_word {statement : List Piece} {word : List Char} {rest : List Token}
    (h : significant statement = .word word :: rest) (hword : isKeyword "ALTER" word = false) :
    reading.restart? statement = none := by
  rw [Reading.restart?, h]
  split
  · rename_i heq
    cases heq
    simp only [hword, Bool.false_and, if_neg Bool.false_ne_true]
  · rfl

theorem Statement.restart_or_other (statement : Statement) :
    (∃ table column next, statement = .restart table column next)
      ∨ isKeyword "ALTER" statement.verb.toList = false ∧ statement.restarts = [] := by
  cases statement with
  | restart table column next => exact .inl ⟨table, column, next, rfl⟩
  | _ =>
    refine .inr ⟨?_, rfl⟩
    rw [Statement.verb]
    decide

theorem tokens_decimal (n : Nat) :
    tokens ((Text.decimal n).map .char) = [.word (Text.decimal n)] := by
  have hword : ∀ c ∈ Text.decimal n, isWordChar c = true := by
    intro c hc
    rw [isWordChar, List.all_eq_true.1 (Text.all_isDigit_decimal n) c hc, Bool.or_true]
  cases hdecimal : Text.decimal n with
  | nil => exact absurd hdecimal (Text.decimal_ne_nil n)
  | cons c cs =>
    rw [hdecimal, List.forall_mem_cons] at hword
    rw [← List.append_nil (List.map Piece.char (c :: cs))]
    exact tokens_word rfl hword.1 (List.all_eq_true.2 hword.2)

/-- A number is read back from its numeral. -/
theorem number?_signedDecimal (lexis : Lexis) (n : Int) :
    number? (significant (pieces lexis (String.ofList (Text.signedDecimal n)))) = some n := by
  rw [pieces_of_isPlain (isPlain_signedDecimal n), String.toList_ofList]
  cases n with
  | ofNat n =>
    have hsignificant : significant ((Text.signedDecimal (.ofNat n)).map .char)
        = [.word (Text.decimal n)] := by
      rw [Text.signedDecimal, significant, tokens_decimal]
      rfl
    rw [hsignificant, number?, Text.natural?_decimal]
    rfl
  | negSucc n =>
    have hsignificant : significant ((Text.signedDecimal (.negSucc n)).map .char)
        = [.symbol '-', .word (Text.decimal (n + 1))] := by
      have hminus : tokens ((Text.signedDecimal (.negSucc n)).map .char)
          = joinPiece (.char '-') (tokens ((Text.decimal (n + 1)).map .char)) := rfl
      rw [significant, hminus, tokens_decimal]
      rfl
    rw [hsignificant, number?, Text.natural?_decimal]
    rfl

theorem restart?_of_significant {statement : List Piece} {tableToken columnToken : Token}
    {number : List Token} {table column : String} {next : Int}
    (h : significant statement
      = .word "ALTER".toList :: .word "TABLE".toList :: tableToken :: .word "ALTER".toList
        :: .word "COLUMN".toList :: columnToken :: .word "RESTART".toList :: .word "WITH".toList
        :: number)
    (htable : reading.name? tableToken = some table)
    (hcolumn : reading.name? columnToken = some column) (hnumber : number? number = some next) :
    reading.restart? statement = some ⟨table, column, next⟩ := by
  have hkeywords : (isKeyword "ALTER" "ALTER".toList && isKeyword "TABLE" "TABLE".toList
      && isKeyword "ALTER" "ALTER".toList && isKeyword "COLUMN" "COLUMN".toList
      && isKeyword "RESTART" "RESTART".toList && isKeyword "WITH" "WITH".toList) = true := by
    decide
  rw [Reading.restart?, h]
  simp only [if_pos hkeywords, htable, hcolumn, hnumber, Option.bind_eq_bind, Option.bind_some]
  rfl

/-- **A restart is read back from the statement written for it.** -/
theorem restarts_restart (h : reading.Knows spelling) (table column : String) (next : Int) :
    reading.restarts ((Statement.restart table column next).render spelling)
      = [⟨table, column, next⟩] := by
  obtain ⟨tableToken, htable, htableName⟩ := h.name table
  obtain ⟨columnToken, hcolumn, hcolumnName⟩ := h.name column
  have hplainAlter : isPlain " ALTER COLUMN " = true := by decide
  have hplainWith : isPlain " RESTART WITH " = true := by decide
  have hstart : IsInert reading.lexis "ALTER TABLE " := .of_isPlain (by decide) _
  have hnamed := hstart.append htable.inert
  have hbefore := hnamed.append (.of_isPlain hplainAlter _)
  have hlisted := hbefore.append hcolumn.inert
  have hsaid := hlisted.append (.of_isPlain hplainWith _)
  have hbody := hsaid.append (isInert_signedDecimal next)
  -- a name is one token, since a blank follows
  have htableRead : ∀ rest,
      significant (pieces reading.lexis (spelling.name table)
          ++ (pieces reading.lexis " ALTER COLUMN " ++ rest))
        = tableToken :: .word "ALTER".toList :: .word "COLUMN".toList :: significant rest := by
    intro rest
    rw [pieces_of_isPlain hplainAlter, significant_item htable.item (htable.read _ rfl)]
    rfl
  have hcolumnRead : ∀ rest,
      significant (pieces reading.lexis (spelling.name column)
          ++ (pieces reading.lexis " RESTART WITH " ++ rest))
        = columnToken :: .word "RESTART".toList :: .word "WITH".toList :: significant rest := by
    intro rest
    rw [pieces_of_isPlain hplainWith, significant_item hcolumn.item (hcolumn.read _ rfl)]
    rfl
  have hread : significant (pieces reading.lexis ("ALTER TABLE " ++ spelling.name table
        ++ " ALTER COLUMN " ++ spelling.name column ++ " RESTART WITH "
        ++ String.ofList (Text.signedDecimal next)))
      = .word "ALTER".toList :: .word "TABLE".toList :: tableToken :: .word "ALTER".toList
        :: .word "COLUMN".toList :: columnToken :: .word "RESTART".toList :: .word "WITH".toList
        :: significant (pieces reading.lexis (String.ofList (Text.signedDecimal next))) := by
    rw [pieces_append hsaid.isClosed, pieces_append hlisted.isClosed,
      pieces_append hbefore.isClosed, pieces_append hnamed.isClosed, pieces_append hstart.isClosed]
    simp only [List.append_assoc]
    rw [← hcolumnRead, ← htableRead, pieces_of_isPlain (by decide : isPlain "ALTER TABLE " = true)]
    rfl
  have hstatement := restart?_of_significant hread htableName hcolumnName
    (number?_signedDecimal reading.lexis next)
  have hsplit := split_end hbody []
  rw [List.append_nil] at hsplit
  have hrender : (Statement.restart table column next).render spelling
      = "ALTER TABLE " ++ spelling.name table ++ " ALTER COLUMN " ++ spelling.name column
        ++ " RESTART WITH " ++ String.ofList (Text.signedDecimal next) ++ ";" := rfl
  rw [Reading.restarts, hrender, hsplit, List.filterMap_cons_some hstatement]
  rfl

/-- **A statement restarts what it says, and no other statement restarts a counter.** -/
theorem restarts_render (h : reading.Knows spelling) {statement : Statement}
    (hquoted : statement.IsQuoted) :
    reading.restarts (statement.render spelling) = statement.restarts := by
  rcases statement.restart_or_other with ⟨table, column, next, rfl⟩ | ⟨hother, hnone⟩
  · exact restarts_restart h table column next
  · rw [hnone]
    exact gathered_of_verb restart?_of_word (Statement.splitsInto_render h.isInert hquoted) hother

end

end SchemaDump.Sql
