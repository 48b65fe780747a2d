/-
  SchemaDump/Text/Numeral.lean
  ============================
  **Decimal numerals of whole numbers.**

  A numeral is written with the digits `0` to `9`, most significant first and
  without leading zeros; it is read with any number of leading zeros and an
  optional sign.  A value that does not fit the wanted range is no numeral of
  that range.  Main statement: `natural?_decimal`, what is written reads back.
-/

namespace SchemaDump.Text

/-- The digit of a number below ten. -/
def digit (n : Nat) : Char := Char.ofNat (48 + n % 10)

/-- The numeral of a number: no leading zeros, `0` for zero. -/
def decimal (n : Nat) : List Char :=
  if n < 10 then [digit n] else decimal (n / 10) ++ [digit (n % 10)]

/-- The numeral of an integer, with `-` in front of a negative one. -/
def signedDecimal (n : Int) : List Char :=
  match n with
  | .ofNat n => decimal n
  | .negSucc n => '-' :: decimal (n + 1)

/-- The number that a string of digits stands for, read from the left. -/
def digitsValue (cs : List Char) : Nat :=
  cs.foldl (fun value c => 10 * value + (c.toNat - 48)) 0

/-- The value of a nonempty string of the digits `0` to `9`. -/
def natural? (cs : List Char) : Option Nat :=
  if !cs.isEmpty && cs.all Char.isDigit then some (digitsValue cs) else none

/-- The value of a hexadecimal digit. -/
def hexDigit? (c : Char) : Option Nat :=
  if c.isDigit then some (c.toNat - 48)
  else if 'a' ≤ c && c ≤ 'f' then some (c.toNat - 87)
  else if 'A' ≤ c && c ≤ 'F' then some (c.toNat - 55)
  else none

def hexValue? (before : Nat) : List Char → Option Nat
  | [] => some before
  | c :: rest => (hexDigit? c).bind fun value => hexValue? (16 * before + value) rest

/-- A numeral of 32 bits: an optional `+`, then digits. -/
def unsigned32? (cs : List Char) : Option UInt32 :=
  let digits := match cs with
    | '+' :: rest => rest
    | _ => cs
  match natural? digits with
  | some n => if h : n < UInt32.size then some (UInt32.ofNatLT n h) else none
  | none => none

/-- The greatest signed number of 64 bits. -/
def greatest64 : Nat := 0x7FFFFFFFFFFFFFFF

/-- A numeral of a signed number of 64 bits: an optional sign, then digits. -/
def signed64? (cs : List Char) : Option Int :=
  match cs with
  | '-' :: rest => match natural? rest with
    | some n => if n ≤ greatest64 + 1 then some (-(n : Int)) else none
    | none => none
  | '+' :: rest => inRange (natural? rest)
  | _ => inRange (natural? cs)
where
  /-- A value that is at most the greatest. -/
  inRange : Option Nat → Option Int
    | some n => if n ≤ greatest64 then some (n : Int) else none
    | none => none

theorem toNat_digit {n : Nat} (h : n < 10) : (digit n).toNat = 48 + n := by
  have : n = 0 ∨ n = 1 ∨ n = 2 ∨ n = 3 ∨ n = 4 ∨ n = 5 ∨ n = 6 ∨ n = 7 ∨ n = 8 ∨ n = 9 := by
    omega
  rcases this with h | h | h | h | h | h | h | h | h | h <;> subst h <;> rfl

theorem isDigit_digit {n : Nat} (h : n < 10) : (digit n).isDigit = true := by
  have : n = 0 ∨ n = 1 ∨ n = 2 ∨ n = 3 ∨ n = 4 ∨ n = 5 ∨ n = 6 ∨ n = 7 ∨ n = 8 ∨ n = 9 := by
    omega
  rcases this with h | h | h | h | h | h | h | h | h | h <;> subst h <;> rfl

theorem decimal_ne_nil (n : Nat) : decimal n ≠ [] := by
  rw [decimal]
  split <;> simp

theorem all_isDigit_decimal (n : Nat) : (decimal n).all Char.isDigit = true := by
  induction n using decimal.induct with
  | case1 n h => rw [decimal]; simp [h, isDigit_digit h]
  | case2 n h ih =>
    rw [decimal]
    simp [h, ih, isDigit_digit (Nat.mod_lt n (by omega : 0 < 10))]

theorem digitsValue_decimal (n : Nat) : digitsValue (decimal n) = n := by
  induction n using decimal.induct with
  | case1 n h => rw [decimal]; simp [h, digitsValue, toNat_digit h]
  | case2 n h ih =>
    rw [decimal]
    have hm : n % 10 < 10 := Nat.mod_lt n (by omega)
    simp only [h, ↓reduceIte, digitsValue, List.foldl_append, List.foldl_cons, List.foldl_nil]
    rw [digitsValue] at ih
    rw [ih, toNat_digit hm]
    omega

theorem natural?_decimal (n : Nat) : natural? (decimal n) = some n := by
  simp only [natural?, all_isDigit_decimal, digitsValue_decimal, Bool.and_true]
  have := decimal_ne_nil n
  cases hd : decimal n with
  | nil => exact absurd hd this
  | cons => simp

end SchemaDump.Text
