/-
  SchemaDump/Markup/Tag.lean
  ==========================
  **Tags: an element's name and its attributes.**

  Between `<` and `>` stands the element's name, up to the first space, and then
  attributes: a key up to `=` or a space, the sign `=`, and a value between
  single or double quotes.  Spaces may stand around the sign, and none has to
  stand between attributes.  No key may occur twice.
-/
import SchemaDump.Markup.Reference

namespace SchemaDump.Markup

/-- A key and its value, references resolved. -/
structure Attribute where
  key : String
  value : String
deriving DecidableEq, Repr

structure Tag where
  name : String
  attributes : List Attribute := []
deriving DecidableEq, Repr

/-- Why a text is no markup. -/
inductive Fault where
  /-- No tag, comment or other piece of markup can be read here. -/
  | malformed
  /-- A text holds an `&` that starts no reference. -/
  | textReference
  /-- An attribute lacks a part, or its key occurs a second time. -/
  | attribute
  /-- The value of an attribute holds an `&` that starts no reference. -/
  | valueReference (key : String)
deriving DecidableEq, Repr

/-! ### Cutting a text -/

/-- The spaces of markup: space, tab, carriage return and line feed. -/
def isSpace (c : Char) : Bool := c == ' ' || c == '\t' || c == '\r' || c == '\n'

/-- A text up to a character and what follows that character. -/
def cutAt? (stop : Char) : List Char → Option (List Char × List Char)
  | [] => none
  | c :: rest =>
    if c == stop then some ([], rest)
    else (cutAt? stop rest).map fun (before, after) => (c :: before, after)

theorem length_of_cutAt? {stop : Char} {cs before after : List Char}
    (h : cutAt? stop cs = some (before, after)) : after.length < cs.length := by
  induction cs generalizing before with
  | nil => simp [cutAt?] at h
  | cons c rest ih =>
    rw [cutAt?] at h
    split at h
    · simp only [Option.some.injEq, Prod.mk.injEq] at h
      obtain ⟨-, rfl⟩ := h
      simp
    · simp only [Option.map_eq_some_iff, Prod.exists, Prod.mk.injEq] at h
      obtain ⟨b, a, hc, -, rfl⟩ := h
      have := ih hc
      simp only [List.length_cons]
      omega

/-! ### Reading attributes -/

/-- Whether a character ends the key of an attribute. -/
def endsKey (c : Char) : Bool := c == '=' || isSpace c

/-- The raw value of an attribute and what follows it, from the text after its key. -/
def rawValue? (cs : List Char) : Option (List Char × List Char) :=
  match cs.dropWhile isSpace with
  | '=' :: rest =>
    match rest.dropWhile isSpace with
    | '"' :: more => cutAt? '"' more
    | '\'' :: more => cutAt? '\'' more
    | _ => none
  | _ => none

theorem length_of_rawValue? {cs value after : List Char} (h : rawValue? cs = some (value, after)) :
    after.length < cs.length := by
  have drop_le : ∀ xs : List Char, (xs.dropWhile isSpace).length ≤ xs.length :=
    fun xs => (List.dropWhile_sublist _).length_le
  unfold rawValue? at h
  split at h
  · rename_i rest hrest
    have h1 := drop_le cs
    rw [hrest] at h1
    split at h
    · rename_i more hmore
      have h2 := drop_le rest
      have h3 := length_of_cutAt? h
      rw [hmore] at h2
      simp only [List.length_cons] at h1 h2
      omega
    · rename_i more hmore
      have h2 := drop_le rest
      have h3 := length_of_cutAt? h
      rw [hmore] at h2
      simp only [List.length_cons] at h1 h2
      omega
    · simp at h
  · simp at h

/-- Reads attributes after those read so far, each with its key, its value and then its
    references, before the next. -/
def attributesAfter (earlier : List Attribute) (cs : List Char) : Except Fault (List Attribute) :=
  match _hs : cs.dropWhile isSpace with
  | [] => .ok earlier
  | c :: rest =>
    let key := String.ofList (c :: rest.takeWhile (!endsKey ·))
    match _hv : rawValue? (rest.dropWhile (!endsKey ·)) with
    | none => .error .attribute
    | some (raw, after) =>
      if earlier.any (·.key == key) then .error .attribute
      else match unescape? raw with
        | none => .error (.valueReference key)
        | some value => attributesAfter (earlier ++ [⟨key, String.ofList value⟩]) after
termination_by cs.length
decreasing_by
  have h1 := length_of_rawValue? _hv
  have h2 : (cs.dropWhile isSpace).length ≤ cs.length := (List.dropWhile_sublist _).length_le
  have h3 : (rest.dropWhile (!endsKey ·)).length ≤ rest.length :=
    (List.dropWhile_sublist _).length_le
  rw [_hs] at h2
  simp only [List.length_cons] at h2
  omega

def Tag.read (cs : List Char) : Except Fault Tag :=
  let name := String.ofList (cs.takeWhile (!isSpace ·))
  (attributesAfter [] (cs.dropWhile (!isSpace ·))).map fun attributes => ⟨name, attributes⟩

namespace Tag

/-! ### Asking for attributes and writing them -/

def get? (tag : Tag) (key : String) : Option String :=
  (tag.attributes.find? (·.key == key)).map (·.value)

/-- The value of an attribute that may be left out, which is the same as empty. -/
def getOrEmpty (tag : Tag) (key : String) : String := (tag.get? key).getD ""

/-- An attribute as it is written, after a space. -/
def writeAttribute (pair : Attribute) : String :=
  " " ++ pair.key ++ "=\"" ++ String.ofList (escape pair.value.toList) ++ "\""

/-- The inside of a tag as it is written. -/
def write (tag : Tag) : String := tag.name ++ String.join (tag.attributes.map writeAttribute)

end Tag
end SchemaDump.Markup
