/-
  SchemaDump/Proofs/Text/Numeral.lean
  ===================================
  **Numerals between blanks.**

  Where a document holds a number, blanks may stand around it.  A numeral has
  none of its own, so trimming keeps it as it is, and a number of 32 bits reads
  back from its numeral.  Numerals have no greatest one: the reader of 64 bits
  takes those whose numbers fit.
-/
import SchemaDump.Text.Blank
import SchemaDump.Text.Numeral

namespace SchemaDump.Text

/-- A text without blanks has none around it. -/
theorem trim_of_forall {cs : List Char} (h : ∀ c ∈ cs, isBlank c = false) : trim cs = cs := by
  have hdrop : ∀ ds : List Char, (∀ c ∈ ds, isBlank c = false) → ds.dropWhile isBlank = ds := by
    intro ds hds
    cases ds with
    | nil => rfl
    | cons d ds => simp [hds d (by simp)]
  rw [trim, trimStart, hdrop cs h, trimEnd, hdrop cs.reverse (by simpa using h),
    List.reverse_reverse]

theorem isBlank_of_isDigit {c : Char} (h : c.isDigit = true) : isBlank c = false := by
  simp only [Char.isDigit, Bool.and_eq_true, decide_eq_true_eq, ge_iff_le] at h
  have low : 48 ≤ c.toNat := UInt32.le_iff_toNat_le.1 h.1
  have high : c.toNat ≤ 57 := UInt32.le_iff_toNat_le.1 h.2
  simp only [isBlank, Bool.or_eq_false_iff, Bool.and_eq_false_iff, decide_eq_false_iff_not,
    beq_eq_false_iff_ne]
  omega

theorem trim_decimal (n : Nat) : trim (decimal n) = decimal n := by
  apply trim_of_forall
  intro c hc
  exact isBlank_of_isDigit (List.all_eq_true.1 (all_isDigit_decimal n) c hc)

/-- **The numeral of a number of 32 bits reads back.** -/
theorem unsigned32?_decimal (n : UInt32) : unsigned32? (decimal n.toNat) = some n := by
  have hplus : ∀ rest, decimal n.toNat ≠ '+' :: rest := by
    intro rest heq
    have := all_isDigit_decimal n.toNat
    rw [heq] at this
    revert this
    simp [Char.isDigit]
  have hsize : n.toNat < UInt32.size := n.toNat_lt
  simp only [unsigned32?, natural?_decimal]
  simp [hsize]

/-! ### Numerals of any magnitude -/

/-- The value of the numeral of a whole number of any magnitude: an optional sign, then digits. -/
def wholeNumber? (cs : List Char) : Option Int :=
  match cs with
  | '-' :: rest => (natural? rest).map fun n : Nat => -(n : Int)
  | '+' :: rest => (natural? rest).map fun n : Nat => (n : Int)
  | _ => (natural? cs).map fun n : Nat => (n : Int)

/-- The least signed number of 64 bits. -/
def least64 : Int := -(greatest64 + 1 : Nat)

theorem inRange_eq_some_iff {value : Option Nat} {n : Int} :
    signed64?.inRange value = some n
      ↔ value.map (fun m : Nat => (m : Int)) = some n ∧ least64 ≤ n ∧ n ≤ greatest64 := by
  cases value with
  | none => simp [signed64?.inRange]
  | some m =>
    rw [signed64?.inRange, Option.ite_none_right_eq_some, Option.map_some, Option.some.injEq]
    constructor
    · rintro ⟨hfits, rfl⟩
      rw [least64]
      omega
    · rintro ⟨rfl, -, hfits⟩
      exact ⟨Int.ofNat_le.1 hfits, rfl⟩

/-- **A numeral of 64 bits is the numeral of a number that fits them.** -/
theorem signed64?_eq_some_iff {cs : List Char} {n : Int} :
    signed64? cs = some n ↔ wholeNumber? cs = some n ∧ least64 ≤ n ∧ n ≤ greatest64 := by
  fun_cases wholeNumber? cs with
  | case1 rest =>
    rw [signed64?]
    cases natural? rest with
    | none => simp
    | some m =>
      dsimp only
      rw [Option.ite_none_right_eq_some, Option.map_some, Option.some.injEq, least64]
      omega
  | case2 rest =>
    rw [signed64?]
    exact inRange_eq_some_iff
  | case3 _ hminus hplus =>
    rw [signed64?]
    · exact inRange_eq_some_iff
    · exact hminus
    · exact hplus

end SchemaDump.Text
