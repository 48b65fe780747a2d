/-
  SchemaDump/Sql/Quoting.lean
  ===========================
  **Names and string literals in SQL text.**

  Two ways of quoting are in use.  *Doubling* puts a text between two marks and
  writes each mark inside twice; names are quoted so in every dialect, and
  standard string literals too.  *Escaping* puts a backslash before the quotes
  and the backslash and gives control characters letters of their own; MySQL
  reads its string literals so.
-/
import SchemaDump.Text.Ascii

namespace SchemaDump.Sql

def doubled (mark : Char) (cs : List Char) : List Char :=
  cs.flatMap fun c => if c == mark then [mark, mark] else [c]

/-- The text between marks, with the marks inside doubled. -/
def quotedBy (mark : Char) (text : String) : String :=
  String.ofList ([mark] ++ doubled mark text.toList ++ [mark])

def standardLiteral (text : String) : String := quotedBy '\'' text

/-- Whether the text holds NUL, which a standard string literal cannot carry. -/
def carriesNul (text : String) : Bool := text.toList.any fun c => c.toNat == 0

/-! ### Escaping -/

/-- A character of a literal with backslash escapes. -/
def escapedChar (c : Char) : List Char :=
  if c.toNat == 0 then ['\\', '0']
  else if c == '\n' then ['\\', 'n']
  else if c == '\r' then ['\\', 'r']
  else if c == '\\' then ['\\', '\\']
  else if c == '\'' then ['\\', '\'']
  else if c == '"' then ['\\', '"']
  else if c.toNat == 0x1A then ['\\', 'Z']
  else [c]

def escapedLiteral (text : String) : String :=
  String.ofList (['\''] ++ text.toList.flatMap escapedChar ++ ['\''])

/-! ### Names -/

/-- The mark around names in MySQL: the grave accent. -/
def graveAccent : Char := Char.ofNat 0x60

def quotedName (name : String) : String := quotedBy '"' name

def graveName (name : String) : String := quotedBy graveAccent name

/-- Words of standard SQL that are no names unless quoted. -/
def reservedWords : List String :=
  ["all", "alter", "and", "any", "as", "asc", "between", "by", "case", "check", "column",
    "constraint", "create", "cross", "current", "date", "default", "delete", "desc", "distinct",
    "drop", "else", "end", "exists", "false", "fetch", "for", "foreign", "from", "full", "grant",
    "group", "having", "in", "inner", "insert", "interval", "into", "is", "join", "key", "left",
    "like", "limit", "natural", "not", "null", "of", "offset", "on", "or", "order", "outer",
    "primary", "references", "right", "row", "rows", "select", "set", "table", "then", "time",
    "timestamp", "to", "true", "union", "unique", "update", "user", "using", "value", "values",
    "when", "where", "with", "year"]

/-- A letter or low line, as a plain name starts. -/
def startsPlainName (c : Char) : Bool := c.isAlpha || c == '_'

/-- Whether a name needs no quotes for its characters. -/
def isPlainName (cs : List Char) : Bool :=
  match cs with
  | [] => false
  | c :: rest => startsPlainName c && rest.all fun d => startsPlainName d || d.isDigit

/-- A name that is left bare where it is plain and no reserved word, in any case, and stands
    between double quotes otherwise. -/
def bareName (name : String) : String :=
  if isPlainName name.toList && !reservedWords.contains (Text.lower name) then name
  else quotedName name

end SchemaDump.Sql
