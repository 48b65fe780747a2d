/-
  SchemaDump/Text/Blank.lean
  ==========================
  **Blank characters, trimming and words.**

  "Blank" is the Unicode property `White_Space`: it is what surrounds a number
  in an attribute, separates the words of a column's extras and may stand
  between the elements of a dump document.  The functions work on lists of
  characters; each has a form on `String` that only converts.
-/

namespace SchemaDump.Text

/-- The Unicode property `White_Space`. -/
def isBlank (c : Char) : Bool :=
  let n := c.toNat
  (9 ≤ n && n ≤ 13) || n == 0x20 || n == 0x85 || n == 0xA0 || n == 0x1680
    || (0x2000 ≤ n && n ≤ 0x200A) || n == 0x2028 || n == 0x2029 || n == 0x202F
    || n == 0x205F || n == 0x3000

/-- The text without the blanks it starts with. -/
def trimStart (cs : List Char) : List Char := cs.dropWhile isBlank

def trimEnd (cs : List Char) : List Char := (cs.reverse.dropWhile isBlank).reverse

def trim (cs : List Char) : List Char := trimEnd (trimStart cs)

/-- Whether nothing but blanks stands in the text; the empty text counts. -/
def blankOnly (s : String) : Bool := s.toList.all isBlank

def trimmed (s : String) : String := String.ofList (trim s.toList)

/-- The parts between separators, in order; one more part than there are
    separators, so the empty text has one empty part. -/
def parts (separator : Char → Bool) : List Char → List (List Char)
  | [] => [[]]
  | c :: rest =>
    if separator c then [] :: parts separator rest
    else match parts separator rest with
      | [] => [[c]]
      | part :: more => (c :: part) :: more

/-- The words of a text: the nonempty parts between blanks. -/
def words (cs : List Char) : List (List Char) :=
  (parts isBlank cs).filter fun word => !word.isEmpty

def joined (separator : String) : List String → String
  | [] => ""
  | [only] => only
  | first :: second :: more => first ++ separator ++ joined separator (second :: more)

/-- There is always a part: separators cut, they do not remove. -/
theorem parts_ne_nil (separator : Char → Bool) (cs : List Char) : parts separator cs ≠ [] := by
  induction cs with
  | nil => simp [parts]
  | cons c rest _ =>
    rw [parts]
    split
    · simp
    · split <;> simp

end SchemaDump.Text
