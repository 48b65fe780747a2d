/-
  SchemaDump/Toml/Node.lean
  =========================
  **The tree of a TOML document.**

  A TOML document builds one table out of lines that may name a table part by
  part.  How a table came about decides what may still be added to it:

    * a table with a header of its own takes nothing but through that header;
    * a table that only other headers pass through may still get its own;
    * a table made by a dotted key takes more dotted keys, but no header;
    * a table or list written as a value is complete.

  Values of numbers, dates and times are checked but not kept, as no setting
  holds one.
-/

namespace SchemaDump.Toml

/-- How a table came about. -/
inductive Origin where
  | header
  | passage
  | dotted
deriving DecidableEq, Repr

/-- A value or table of a document. -/
inductive Node where
  | text (value : String)
  | flag (value : Bool)
  | number
  | moment
  /-- A list written as a value. -/
  | list (items : List Node)
  /-- A table written as a value. -/
  | inline (entries : List (String × Node))
  | table (origin : Origin) (entries : List (String × Node))
  /-- Tables under one header, of which the last takes what follows. -/
  | tables (earlier : List (List (String × Node))) (last : List (String × Node))
deriving Repr

abbrev Entries := List (String × Node)

namespace Entries

/-- Entries with the node of a key replaced. -/
def replace (key : String) (node : Node) (entries : Entries) : Entries :=
  entries.map fun (other, held) => if other == key then (other, node) else (other, held)

/-- Adds a node under a key that may be dotted: the table that takes the node has to come from
    dotted keys, if the key is dotted, and must not have the last part of the key yet. -/
def insert (key : String) (node : Node) : List String → Entries → Option Entries
  | [], entries => if (entries.lookup key).isSome then none else some (entries ++ [(key, node)])
  | part :: more, entries =>
    match entries.lookup part with
    | none => (insert key node more []).map fun made => entries ++ [(part, .table .dotted made)]
    | some (.table origin held) =>
      if origin == .header || (more.isEmpty && origin != .dotted) then none
      else (insert key node more held).map fun made => entries.replace part (.table origin made)
    | some (.tables earlier last) =>
      if more.isEmpty then none
      else (insert key node more last).map fun made => entries.replace part (.tables earlier made)
    | some _ => none

/-- Changes the table that a header's path leads to; tables that are missing on the way are made. -/
def within (change : Entries → Option Entries) : List String → Entries → Option Entries
  | [], entries => change entries
  | part :: more, entries =>
    match entries.lookup part with
    | none => (within change more []).map fun made => entries ++ [(part, .table .passage made)]
    | some (.table origin held) =>
      (within change more held).map fun made => entries.replace part (.table origin made)
    | some (.tables earlier last) =>
      (within change more last).map fun made => entries.replace part (.tables earlier made)
    | some _ => none

/-- Gives a table its header. -/
def openTable (path : List String) (key : String) (entries : Entries) : Option Entries :=
  within (fun held =>
    match held.lookup key with
    | none => some (held ++ [(key, .table .header [])])
    | some (.table .passage inner) => some (held.replace key (.table .header inner))
    | some _ => none) path entries

/-- Adds a table to those under one header. -/
def openElement (path : List String) (key : String) (entries : Entries) : Option Entries :=
  within (fun held =>
    match held.lookup key with
    | none => some (held ++ [(key, .tables [] [])])
    | some (.tables earlier last) => some (held.replace key (.tables (earlier ++ [last]) []))
    | some _ => none) path entries

end Entries
end SchemaDump.Toml
