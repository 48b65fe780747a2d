/-
  SchemaDump/Registry.lean
  ========================
  **Registries: values under names, with aliases.**

  A registry keeps values (in use: makers of formatters) under names in small
  letters, and aliases for names.  A query is trimmed, put into small letters
  and replaced by the target of the alias of that name, if there is one; aliases
  of aliases are not followed.  Registering a value under a name takes the place
  of a value and of an alias of that name.  The names are in ascending order.
-/
import SchemaDump.Dialect.Generic
import SchemaDump.Dialect.Mysql
import SchemaDump.Dialect.Postgresql

namespace SchemaDump

/-- Values in ascending order of their names, and the targets of aliases. -/
structure Registry (α : Type) where
  entries : List (String × α) := []
  aliases : List (String × String) := []

namespace Registry

variable {α β : Type}

/-- A list in order of names with the value of a name put in or replaced. -/
def put (name : String) (value : β) : List (String × β) → List (String × β)
  | [] => [(name, value)]
  | (other, held) :: rest =>
    if name == other then (name, value) :: rest
    else if name < other then (name, value) :: (other, held) :: rest
    else (other, held) :: put name value rest

def register (registry : Registry α) (name : String) (value : α) : Registry α where
  entries := put (Text.lower name) value registry.entries
  aliases := registry.aliases.filter (·.1 != Text.lower name)

/-- Makes one name stand for another. -/
def addAlias (registry : Registry α) (name target : String) : Registry α :=
  { registry with aliases := put (Text.lower name) (Text.lower target) registry.aliases }

/-- The name that a query means: in small letters, without blanks around, aliases resolved. -/
def target (registry : Registry α) (query : String) : String :=
  let name := Text.lower (Text.trimmed query)
  (registry.aliases.lookup name).getD name

def find? (registry : Registry α) (query : String) : Option α :=
  registry.entries.lookup (registry.target query)

def contains (registry : Registry α) (query : String) : Bool := (registry.find? query).isSome

/-- The names of the values, aliases excluded, in ascending order. -/
def names (registry : Registry α) : List String := registry.entries.map (·.1)

end Registry

/-! ### Dialects -/

/-- Why a formatter cannot be had or cannot do what is asked. -/
inductive FormatError where
  | unknownFormat (name : String)
  | unsupported (cause : Sql.Unsupported)
deriving DecidableEq, Repr

def FormatError.message : FormatError → String
  | .unknownFormat name => "Unknown format: " ++ name
  | .unsupported cause => "Unsupported construct: " ++ cause.message

abbrev Dialects := Registry Formatter.Factory

namespace Dialects

/-- The three dialects of the library with their usual aliases. -/
def builtin : Dialects :=
  let none : Dialects := {}
  none
    |>.register "generic" Dialect.Generic.formatter
    |>.register "mysql" Dialect.Mysql.formatter
    |>.register "postgresql" Dialect.Postgresql.formatter
    |>.addAlias "sql" "generic"
    |>.addAlias "mysqli" "mysql"
    |>.addAlias "postgres" "postgresql"

/-- The formatter that a query means, made with the options. -/
def create (dialects : Dialects) (query : String) (options : FormatOptions) :
    Except FormatError Formatter :=
  match dialects.find? query with
  | some factory => .ok (factory options)
  | none => .error (.unknownFormat query)

end Dialects
end SchemaDump
