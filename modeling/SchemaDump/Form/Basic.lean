/-
  SchemaDump/Form/Basic.lean
  ==========================
  **Forms: data as a tree of records, lists and plain values.**

  A form is what a JSON text stands for.  Dumps and settings have forms, so that
  they can be exchanged with other programs; this file holds the tree and the
  ways of reading a member of a record.
-/

namespace SchemaDump

inductive Form where
  | null
  | flag (value : Bool)
  /-- A number written as a whole number. -/
  | integer (value : Int)
  /-- A number written in any other way. -/
  | number
  | text (value : String)
  | list (items : List Form)
  /-- Named members; of two with one name the first counts. -/
  | record (members : List (String × Form))
deriving Repr

namespace Form

def text? : Form → Option String
  | text value => some value
  | _ => none

def flag? : Form → Option Bool
  | flag value => some value
  | _ => none

/-- A whole number from zero up. -/
def natural? : Form → Option Nat
  | integer (.ofNat value) => some value
  | _ => none

/-- A whole number of 32 bits. -/
def unsigned32? (form : Form) : Option UInt32 :=
  form.natural?.bind fun n => if h : n < UInt32.size then some (UInt32.ofNatLT n h) else none

def list? {α : Type} (read : Form → Option α) : Form → Option (List α)
  | list items => items.mapM read
  | _ => none

/-- A text or nothing. -/
def optionalText? : Form → Option (Option String)
  | null => some none
  | text value => some (some value)
  | _ => none

def member? (name : String) : Form → Option Form
  | record members => members.lookup name
  | _ => none

def isRecord : Form → Bool
  | record _ => true
  | _ => false

def required {α : Type} (form : Form) (name : String) (read : Form → Option α) : Option α :=
  (form.member? name).bind read

/-- A member that may be left out, which is the same as a given value. -/
def optional {α : Type} (form : Form) (name : String) (absent : α) (read : Form → Option α) :
    Option α :=
  match form.member? name with
  | some member => read member
  | none => if form.isRecord then some absent else none

/-- A text that may be left out, which is the same as empty. -/
def textOrEmpty (form : Form) (name : String) : Option String := form.optional name "" text?

def ofOptionalText : Option String → Form
  | some value => text value
  | none => null

end Form
end SchemaDump
