/-
  SchemaDump/Toml/Scalar.lean
  ===========================
  **Numbers, dates and times of TOML.**

  Each reader gives what follows the value.  Digits may have single low lines
  between them.  A whole number has to fit 64 bits; a number with a fraction or
  an exponent must not be so great that the nearest one of double precision
  would be infinite.  Dates have to be in the calendar and times on the clock,
  where a minute may have a leap second.
-/
import SchemaDump.Text.Blank
import SchemaDump.Text.Numeral

namespace SchemaDump.Toml

/-! ### Whole numbers -/

/-- Digits, with single low lines between them, and what follows. -/
def digitRun? (isDigit : Char → Bool) (cs : List Char) : Option (List Char × List Char) :=
  let run := cs.takeWhile fun c => isDigit c || c == '_'
  if (Text.parts (· == '_') run).all (!·.isEmpty) then
    some (run.filter (· != '_'), cs.drop run.length)
  else none

/-- Whether digits of a base stand for more than the greatest number of 64 bits. -/
def overflows (base : Nat) (digits : List Char) : Bool :=
  let value := digits.foldl (fun before c => base * before + (Text.hexDigit? c).getD 0) 0
  Text.greatest64 < value

/-- A whole number in another base, after its mark. -/
def basedNumber? (base : Nat) (isDigit : Char → Bool) (cs : List Char) : Option (List Char) :=
  match digitRun? isDigit cs with
  | some (digits, after) => if overflows base digits then none else some after
  | none => none

/-! ### Numbers with a fraction or an exponent -/

/-- Half a step above the greatest number of double precision: what reaches it is infinite. -/
def doubleBound : Nat := Nat.pow 2 1024 - Nat.pow 2 970

/-- Whether digits times a power of ten reach the bound. -/
def reachesBound (digits : List Char) (exponent : Int) : Bool :=
  let significant := digits.dropWhile (· == '0')
  let magnitude : Int := significant.length + exponent
  if significant.isEmpty || magnitude < 300 then false
  else if 320 < magnitude then true
  else
    let value := Text.digitsValue significant
    match exponent with
    | .ofNat n => doubleBound ≤ value * Nat.pow 10 n
    | .negSucc n => doubleBound * Nat.pow 10 (n + 1) ≤ value

/-- A fraction: a point and digits; nothing where no point is. -/
def fraction? : List Char → Option (List Char × List Char)
  | '.' :: rest => digitRun? Char.isDigit rest
  | cs => some ([], cs)

/-- An exponent: its mark, an optional sign and digits; zero where no mark is. -/
def exponent? : List Char → Option (Int × List Char)
  | c :: rest =>
    if c == 'e' || c == 'E' then
      match rest with
      | '-' :: more =>
        (digitRun? Char.isDigit more).map fun (digits, after) =>
          (-(Text.digitsValue digits : Int), after)
      | '+' :: more =>
        (digitRun? Char.isDigit more).map fun (digits, after) => (Text.digitsValue digits, after)
      | _ =>
        (digitRun? Char.isDigit rest).map fun (digits, after) => (Text.digitsValue digits, after)
    else some (0, c :: rest)
  | [] => some (0, [])

/-- Whether digits may be the whole part of a number: a zero stands alone. -/
def isWholePart (digits : List Char) : Bool := digits.length ≤ 1 || digits.head? != some '0'

/-- A decimal number without its sign. -/
def decimalNumber? (negative : Bool) (cs : List Char) : Option (List Char) := do
  let (whole, afterWhole) ← digitRun? Char.isDigit cs
  if !isWholePart whole then none
  let (part, afterPart) ← fraction? afterWhole
  let (exponent, after) ← exponent? afterPart
  if after.length == afterWhole.length then
    let value := Text.digitsValue whole
    if value ≤ Text.greatest64 + (if negative then 1 else 0) then some after else none
  else if !negative && reachesBound (whole ++ part) (exponent - part.length) then none
  else some after

def number? (cs : List Char) : Option (List Char) :=
  let isSpecial := fun (digits : List Char) =>
    "inf".toList.isPrefixOf digits || "nan".toList.isPrefixOf digits
  match cs with
  | '0' :: 'x' :: rest => basedNumber? 16 (fun c => (Text.hexDigit? c).isSome) rest
  | '0' :: 'o' :: rest => basedNumber? 8 (fun c => '0' ≤ c && c ≤ '7') rest
  | '0' :: 'b' :: rest => basedNumber? 2 (fun c => c == '0' || c == '1') rest
  | '+' :: rest => if isSpecial rest then some (rest.drop 3) else decimalNumber? false rest
  | '-' :: rest => if isSpecial rest then some (rest.drop 3) else decimalNumber? true rest
  | _ => if isSpecial cs then some (cs.drop 3) else decimalNumber? false cs

/-! ### Dates and times -/

/-- A number of exactly so many digits. -/
def fixedDigits? (count : Nat) (cs : List Char) : Option (Nat × List Char) :=
  let digits := cs.take count
  if digits.length == count && digits.all Char.isDigit then
    some (Text.digitsValue digits, cs.drop count)
  else none

/-- What follows a character that has to come next. -/
def after? (expected : Char) : List Char → Option (List Char)
  | c :: rest => if c == expected then some rest else none
  | [] => none

def isLeapYear (year : Nat) : Bool := year % 4 == 0 && (year % 100 != 0 || year % 400 == 0)

def daysOfMonth (year month : Nat) : Nat :=
  if month == 2 then (if isLeapYear year then 29 else 28)
  else if [4, 6, 9, 11].contains month then 30
  else 31

/-- A date: year, month and day. -/
def date? (cs : List Char) : Option (List Char) := do
  let (year, cs) ← fixedDigits? 4 cs
  let (month, cs) ← fixedDigits? 2 (← after? '-' cs)
  let (day, cs) ← fixedDigits? 2 (← after? '-' cs)
  if 1 ≤ month && month ≤ 12 && 1 ≤ day && day ≤ daysOfMonth year month then some cs else none

def clock? (cs : List Char) : Option (List Char) := do
  let (hour, cs) ← fixedDigits? 2 cs
  let (minute, cs) ← fixedDigits? 2 (← after? ':' cs)
  if hour ≤ 23 && minute ≤ 59 then some cs else none

/-- A time: hours, minutes, seconds and an optional fraction of a second. -/
def time? (cs : List Char) : Option (List Char) := do
  let cs ← clock? cs
  let (second, cs) ← fixedDigits? 2 (← after? ':' cs)
  if 60 < second then none
  match cs with
  | '.' :: c :: rest => some (if c.isDigit then rest.dropWhile Char.isDigit else cs)
  | _ => some cs

/-- The distance from universal time, if one is given. -/
def zone? : List Char → Option (List Char)
  | c :: rest =>
    if c == 'Z' || c == 'z' then some rest
    else if c == '+' || c == '-' then clock? rest
    else some (c :: rest)
  | [] => some []

/-- A date, a time, or a date with a time and a zone. -/
def moment? (cs : List Char) : Option (List Char) :=
  match date? cs with
  | none => time? cs
  | some rest =>
    match rest with
    | c :: more =>
      if c == 'T' || c == 't' || c == ' ' then
        match time? more with
        | some after => zone? after
        | none => some rest
      else some rest
    | [] => some []

end SchemaDump.Toml
