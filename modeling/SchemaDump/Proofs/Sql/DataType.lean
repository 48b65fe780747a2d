/-
  SchemaDump/Proofs/Sql/DataType.lean
  ===================================
  **Spelled types read back.**

  A type is spelled as a name, with its parameters between parentheses if it has
  any.  A reader of spelled types cuts at the first parenthesis and reads the
  numerals between the commas, so it finds the name and the parameters that the
  type was spelled with.  For whole numbers it is said which of them a spelled
  type holds.
-/
import Mathlib.Algebra.Order.Ring.Int
import SchemaDump.Proofs.Checked
import SchemaDump.Proofs.Text.Numeral
import SchemaDump.Proofs.Text.Words
import SchemaDump.Sql.DataType

namespace SchemaDump

/-! ### Items between commas -/

namespace Text

/-- Items that hold no separator are the parts of the text that joins them. -/
theorem parts_joined {mark : Char} {items : List (List Char)} (hne : items ≠ [])
    (h : ∀ item ∈ items, mark ∉ item) :
    parts (· == mark) (joined (String.singleton mark) (items.map String.ofList)).toList
      = items := by
  have hplain : ∀ item ∈ items, ∀ c ∈ item, (c == mark) = false := by
    intro item hitem c hc
    exact beq_eq_false_iff_ne.2 fun hsame => h item hitem (hsame ▸ hc)
  induction items with
  | nil => exact absurd rfl hne
  | cons first others ih =>
    rw [List.forall_mem_cons] at h hplain
    cases others with
    | nil =>
      rw [List.map_singleton, joined, String.toList_ofList, parts_of_forall hplain.1]
    | cons second more =>
      have hrest := ih (List.cons_ne_nil _ _) h.2 hplain.2
      have hcut := @parts_append_cons (· == mark) mark BEq.rfl first
      rw [List.map_cons] at hrest
      rw [List.map_cons, List.map_cons, joined, String.toList_append, String.toList_append,
        String.toList_ofList, String.toList_singleton, List.append_assoc, List.singleton_append,
        hcut, parts_of_forall hplain.1, hrest, List.singleton_append]

theorem notMem_decimal {c : Char} (h : c.isDigit = false) (n : Nat) : c ∉ decimal n := by
  intro hmem
  rw [List.all_eq_true.1 (all_isDigit_decimal n) c hmem] at h
  cases h

/-- What holds of the characters of all items and of the separator holds of the joined text. -/
theorem forall_mem_joined {P : Char → Prop} {separator : String} {items : List String}
    (hseparator : ∀ c ∈ separator.toList, P c) (h : ∀ item ∈ items, ∀ c ∈ item.toList, P c) :
    ∀ c ∈ (joined separator items).toList, P c := by
  induction items with
  | nil => exact fun c hc => nomatch hc
  | cons first others ih =>
    rw [List.forall_mem_cons] at h
    cases others with
    | nil => exact h.1
    | cons second more =>
      rw [joined, String.toList_append, String.toList_append, List.forall_mem_append,
        List.forall_mem_append]
      exact ⟨⟨h.1, hseparator⟩, ih h.2⟩

end Text

namespace Sql

/-! ### The reader -/

/-- **The name and the parameters of a spelled type.** -/
def spelledType? (text : String) : Option (String × List Nat) :=
  let name := String.ofList (text.toList.takeWhile (· != '('))
  match text.toList.dropWhile (· != '(') with
  | [] => some (name, [])
  | _ :: rest =>
    if rest.getLast? == some ')' then
      ((Text.parts (· == ',') rest.dropLast).mapM Text.natural?).map fun numbers => (name, numbers)
    else none

/-- Numerals with commas between them are read as their numbers. -/
theorem mapM_natural?_parts {numbers : List Nat} (hne : numbers ≠ []) :
    (Text.parts (· == ',')
        (Text.joined "," (numbers.map fun n => String.ofList (Text.decimal n))).toList).mapM
      Text.natural? = some numbers := by
  have hcomma : ∀ item ∈ numbers.map Text.decimal, ',' ∉ item := by
    intro item hitem
    obtain ⟨n, -, rfl⟩ := List.mem_map.1 hitem
    exact Text.notMem_decimal (by decide) n
  have hparts := Text.parts_joined (mt List.map_eq_nil_iff.1 hne) hcomma
  rw [List.map_map] at hparts
  have hread : (numbers.map Text.decimal).mapM Text.natural? = some numbers := by
    rw [Checked.mapM_eq_some_iff, List.forall₂_map_left_iff, List.forall₂_same]
    exact fun n _ => Text.natural?_decimal n
  exact hparts ▸ hread

theorem spelledType?_of_plain {name : String} (h : '(' ∉ name.toList) :
    spelledType? name = some (name, []) := by
  have hplain : ∀ c ∈ name.toList, (c != '(') = true := by
    intro c hc
    exact bne_iff_ne.2 fun hsame => h (hsame ▸ hc)
  obtain ⟨htake, hdrop⟩ := @Text.span_append (· != '(') name.toList [] hplain fun _ hc => nomatch hc
  rw [List.append_nil] at htake hdrop
  rw [spelledType?, hdrop, htake, String.ofList_toList]

/-- **A name and the parameters after it are read back.** -/
theorem spelledType?_append {name : String} (h : '(' ∉ name.toList) (numbers : List Nat) :
    spelledType? (name ++ DataType.parameterList numbers) = some (name, numbers) := by
  rw [DataType.parameterList]
  split
  · rename_i hempty
    rw [String.append_empty, spelledType?_of_plain h, List.isEmpty_iff.1 hempty]
  · rename_i hsome
    have hplain : ∀ c ∈ name.toList, (c != '(') = true := by
      intro c hc
      exact bne_iff_ne.2 fun hsame => h (hsame ▸ hc)
    have hstop : ∀ rest : List Char, ∀ c ∈ ('(' :: rest).head?, (c != '(') = false := by
      rintro rest _ ⟨⟩
      decide
    have hread := mapM_natural?_parts (mt List.isEmpty_iff.2 hsome)
    generalize Text.joined "," (numbers.map fun n => String.ofList (Text.decimal n)) = list
      at hread ⊢
    have htext : (name ++ ("(" ++ list ++ ")")).toList
        = name.toList ++ '(' :: (list.toList ++ [')']) := by
      simp
    obtain ⟨htake, hdrop⟩ := Text.span_append hplain (hstop (list.toList ++ [')']))
    rw [spelledType?, htext, htake, hdrop, String.ofList_toList]
    simp only [List.getLast?_concat, List.dropLast_concat, hread, BEq.rfl, if_true, Option.map_some]

/-! ### Parameters -/

/-- The parameters that a type is spelled with. -/
def DataType.parameters : DataType → List Nat
  | .decimal parameters => parameters
  | .char length | .varchar length | .binary length | .varbinary length => [length]
  | .timestamp precision => precision.toList
  | .boolean | .smallInteger | .integer | .bigInteger | .serial | .bigSerial | .real
  | .doublePrecision | .text | .bytes | .date | .time | .json => []

/-- The characters that parameters are written with. -/
def isParameterChar (c : Char) : Bool := c.isDigit || c == ',' || c == '(' || c == ')'

theorem forall_mem_parameterList (numbers : List Nat) :
    ∀ c ∈ (DataType.parameterList numbers).toList, isParameterChar c = true := by
  have hnumerals : ∀ written ∈ numbers.map (fun n => String.ofList (Text.decimal n)),
      ∀ c ∈ written.toList, isParameterChar c = true := by
    intro written hwritten c hc
    obtain ⟨n, -, rfl⟩ := List.mem_map.1 hwritten
    rw [String.toList_ofList] at hc
    rw [isParameterChar, List.all_eq_true.1 (Text.all_isDigit_decimal n) c hc]
    rfl
  have hcomma : ∀ c ∈ ",".toList, isParameterChar c = true := List.all_eq_true.1 (by decide)
  rw [DataType.parameterList]
  split
  · exact fun c hc => nomatch hc
  · rw [String.toList_append, String.toList_append, List.forall_mem_append,
      List.forall_mem_append]
    exact ⟨⟨List.all_eq_true.1 (by decide), Text.forall_mem_joined hcomma hnumerals⟩,
      List.all_eq_true.1 (by decide)⟩

/-- The names of types in standard SQL. -/
def DataType.standardNames : List String :=
  ["BOOLEAN", "SMALLINT", "INTEGER", "BIGINT", "DECIMAL", "REAL", "DOUBLE PRECISION", "CHAR",
    "VARCHAR", "CLOB", "BINARY", "VARBINARY", "BLOB", "DATE", "TIME", "TIMESTAMP"]

/-- The names of types in PostgreSQL. -/
def DataType.postgresqlNames : List String :=
  ["boolean", "smallint", "integer", "bigint", "serial", "bigserial", "numeric", "real",
    "double precision", "char", "varchar", "text", "bytea", "date", "time", "timestamp", "jsonb"]

/-- **Standard SQL spells a type as one of its names with all parameters of the type.** -/
theorem DataType.exists_standard_eq (type : DataType) :
    ∃ name ∈ standardNames, type.standard = name ++ parameterList type.parameters := by
  cases type with
  | decimal parameters => exact ⟨"DECIMAL", by decide, rfl⟩
  | char length => exact ⟨"CHAR", by decide, rfl⟩
  | varchar length => exact ⟨"VARCHAR", by decide, rfl⟩
  | binary length => exact ⟨"BINARY", by decide, rfl⟩
  | varbinary length => exact ⟨"VARBINARY", by decide, rfl⟩
  | timestamp precision => exact ⟨"TIMESTAMP", by decide, rfl⟩
  | _ => exact ⟨_, by decide, String.append_empty.symm⟩

/-- PostgreSQL spells a type as one of its names, with parameters or without. -/
theorem DataType.exists_postgresql_eq (type : DataType) :
    ∃ name ∈ postgresqlNames, ∃ numbers, type.postgresql = name ++ parameterList numbers := by
  cases type with
  | decimal parameters => exact ⟨"numeric", by decide, parameters, rfl⟩
  | char length => exact ⟨"char", by decide, [length], rfl⟩
  | varchar length => exact ⟨"varchar", by decide, [length], rfl⟩
  | binary length => exact ⟨"bytea", by decide, [], rfl⟩
  | varbinary length => exact ⟨"bytea", by decide, [], rfl⟩
  | timestamp precision => exact ⟨"timestamp", by decide, precision.toList, rfl⟩
  | _ => exact ⟨_, by decide, [], String.append_empty.symm⟩

theorem spelledType?_varchar (length : Nat) :
    spelledType? (DataType.varchar length).standard = some ("VARCHAR", [length]) :=
  spelledType?_append (by decide) [length]

/-- **Standard SQL spells all parameters of a type.** -/
theorem spelledType?_standard (type : DataType) :
    ∃ name, spelledType? type.standard = some (name, type.parameters) := by
  have hnames : ∀ name ∈ DataType.standardNames, '(' ∉ name.toList := by decide
  obtain ⟨name, hname, htype⟩ := type.exists_standard_eq
  rw [htype]
  exact ⟨name, spelledType?_append (hnames name hname) type.parameters⟩

/-- PostgreSQL spells all parameters of a type, but for strings of bytes. -/
theorem spelledType?_postgresql {type : DataType}
    (hbytes : ∀ length, type ≠ .binary length ∧ type ≠ .varbinary length) :
    ∃ name, spelledType? type.postgresql = some (name, type.parameters) := by
  cases type with
  | decimal parameters => exact ⟨_, spelledType?_append (by decide) _⟩
  | char length => exact ⟨_, spelledType?_append (by decide) _⟩
  | varchar length => exact ⟨_, spelledType?_append (by decide) _⟩
  | timestamp precision => exact ⟨_, spelledType?_append (by decide) _⟩
  | binary length => exact absurd rfl (hbytes length).1
  | varbinary length => exact absurd rfl (hbytes length).2
  | _ => exact ⟨_, spelledType?_of_plain (by decide)⟩

/-! ### Whole numbers -/

/-- Whole numbers from a least one to a greatest one. -/
structure Range where
  least : Int
  greatest : Int
deriving DecidableEq, Repr

namespace Range

def Holds (range : Range) (n : Int) : Prop := range.least ≤ n ∧ n ≤ range.greatest

/-- The numbers of so many bits, from zero on or of both signs. -/
def ofBits (bits : Nat) (unsigned : Bool) : Range :=
  if unsigned then ⟨0, 2 ^ bits - 1⟩ else ⟨-2 ^ (bits - 1), 2 ^ (bits - 1) - 1⟩

/-- The numbers of so many decimal digits, of both signs. -/
def ofDigits (digits : Nat) : Range := ⟨1 - 10 ^ digits, 10 ^ digits - 1⟩

end Range

/-- **The whole numbers that a spelled type of standard SQL holds**, if it is a type of whole
    numbers. -/
def wholeNumbers? (spelled : String) : Option Range :=
  match spelledType? spelled with
  | some ("SMALLINT", []) => some (.ofBits 16 false)
  | some ("INTEGER", []) => some (.ofBits 32 false)
  | some ("BIGINT", []) => some (.ofBits 64 false)
  | some ("DECIMAL", [digits]) => some (.ofDigits digits)
  | _ => none

end Sql
end SchemaDump
