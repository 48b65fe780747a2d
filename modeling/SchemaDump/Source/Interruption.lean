/-
  SchemaDump/Source/Interruption.lean
  ===================================
  **Sources that break down.**

  An interruption makes one question of a source fail with a given reason, as
  when a connection is lost.  The rows can also be interrupted after a number of
  them has arrived; the table is looked up before that, so a table that the
  source does not have is reported as such.
-/
import SchemaDump.Source.Basic

namespace SchemaDump

/-- The questions that a source answers. -/
inductive Question where
  | tableNames
  | columns
  | keys
  | rows
deriving DecidableEq, Repr

/-- Which question fails, why, and, if it is about rows, after how many of them. -/
structure Interruption where
  question : Question
  reason : String
  afterRows : Option Nat := none
deriving DecidableEq, Repr

namespace Interruption

/-- Whether a question fails at once. -/
def stops (interruption : Interruption) (question : Question) : Bool :=
  interruption.question == question && interruption.afterRows.isNone

/-- The rows up to the interruption. -/
def cutRows (interruption : Interruption) (rows : Run SourceError Row) : Run SourceError Row :=
  if interruption.stops .rows then Run.broken (.backend interruption.reason)
  else match interruption.question, interruption.afterRows, rows.failure with
    | .rows, some count, none => ⟨rows.items.take count, some (.backend interruption.reason)⟩
    | _, _, _ => rows

def apply (interruption : Interruption) (source : Source) : Source :=
  let failure := SourceError.backend interruption.reason
  { tablePrefix := source.tablePrefix
    tableNames := if interruption.stops .tableNames then .error failure else source.tableNames
    columns := fun table =>
      if interruption.stops .columns then .error failure else source.columns table
    keys := fun table => if interruption.stops .keys then .error failure else source.keys table
    rows := fun table => interruption.cutRows (source.rows table) }

end Interruption
end SchemaDump
