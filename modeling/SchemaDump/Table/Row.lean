/-
  SchemaDump/Table/Row.lean
  =========================
  **Rows of a table.**

  A row is a list of named fields in the order of the table's columns.  A field
  without a value is NULL, which is not the empty text.
-/

namespace SchemaDump

/-- A named value; no value is NULL. -/
structure Field where
  name : String
  value : Option String := none
deriving DecidableEq, Repr

structure Row where
  fields : List Field := []
deriving DecidableEq, Repr

namespace Row

def push (row : Row) (name : String) (value : Option String) : Row :=
  ⟨row.fields ++ [⟨name, value⟩]⟩

def ofPairs (pairs : List (String × Option String)) : Row :=
  ⟨pairs.map fun (name, value) => ⟨name, value⟩⟩

def get? (row : Row) (name : String) : Option Field := row.fields.find? (·.name == name)

def isEmpty (row : Row) : Bool := row.fields.isEmpty

end Row
end SchemaDump
