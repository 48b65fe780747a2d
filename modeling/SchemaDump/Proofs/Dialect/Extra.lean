/-
  SchemaDump/Proofs/Dialect/Extra.lean
  ====================================
  **What a dialect gets to know of a column's extras.**

  Every dialect reads the extras of a column before anything else of it and
  refuses the column if it cannot.  What it goes by are the extras that the text
  is written with: whether one is among them, and which expression the last
  update names.
-/
import SchemaDump.Dialect.Formatter
import SchemaDump.Proofs.Table.Extra

namespace SchemaDump.Dialect

open Extra (IsWritten IsCutShort)

/-- **The extras of a column have one grammar.**  They are read exactly if the text is written
    with them, which it is with one list of extras at most; each flag says whether its extra is
    among them, and of several updates the last one counts.  Any other text is refused: as
    incomplete if nothing but the expression of a last update is missing, and as unknown
    otherwise. -/
theorem extrasOf_eq_ok_iff_isWritten (column : Column) :
    (∀ extras, extrasOf column = .ok extras ↔ IsWritten column.extra extras)
      ∧ (∀ extras, IsWritten column.extra extras →
          (∀ others, IsWritten column.extra others → others = extras)
            ∧ (Extra.autoIncrements extras = true ↔ .autoIncrement ∈ extras)
            ∧ (Extra.generatesDefault extras = true ↔ .generatedDefault ∈ extras)
            ∧ (∀ expression, Extra.updateExpression? extras = some expression
                ↔ ∃ before after, extras = before ++ .onUpdate expression :: after
                  ∧ ∀ other, .onUpdate other ∉ after)
            ∧ (Extra.updateExpression? extras = none
                ↔ ∀ expression, .onUpdate expression ∉ extras))
      ∧ ((∀ extras, ¬IsWritten column.extra extras) →
          IsCutShort column.extra ∧ extrasOf column = .error (.incompleteExtra column.extra)
            ∨ ¬IsCutShort column.extra
              ∧ extrasOf column = .error (.unknownExtra column.extra)) := by
  have hread : ∀ extras, extrasOf column = .ok extras ↔ IsWritten column.extra extras := by
    intro extras
    rw [← Extra.read_eq_ok_iff, extrasOf]
    rcases Extra.read column.extra with (_ | _) | held <;> simp
  refine ⟨hread, ?_, ?_⟩
  · intro extras hextras
    refine ⟨?_, List.contains_iff_mem, List.contains_iff_mem, ?_,
      Extra.updateExpression?_eq_none_iff⟩
    · intro others hothers
      have hsame := ((hread others).2 hothers).symm.trans ((hread extras).2 hextras)
      exact Except.ok.inj hsame
    · intro expression
      exact Extra.updateExpression?_eq_some_iff
  · intro hnone
    rw [← Extra.read_eq_incomplete_iff, extrasOf]
    cases houtcome : Extra.read column.extra with
    | ok extras => exact absurd (Extra.read_eq_ok_iff.1 houtcome) (hnone extras)
    | error fault =>
      cases fault with
      | incomplete => exact .inl ⟨rfl, rfl⟩
      | unknown => exact .inr ⟨by simp, rfl⟩

/-- A column whose update expression looks like an extra. -/
def markedColumn : Column :=
  ⟨"n", "int", true, "", some "0", "DEFAULT_GENERATED  on UPDATE auto_increment", ""⟩

def markedExtras : List Extra := [.generatedDefault, .onUpdate "auto_increment"]

theorem extrasOf_markedColumn :
    extrasOf markedColumn = .ok markedExtras ∧ IsWritten markedColumn.extra markedExtras
      ∧ (∀ others, IsWritten markedColumn.extra others → others = markedExtras)
      ∧ .autoIncrement ∉ markedExtras ∧ Extra.autoIncrements markedExtras = false :=
  have hread : extrasOf markedColumn = .ok markedExtras := by decide +kernel
  have hall := extrasOf_eq_ok_iff_isWritten markedColumn
  have hwritten := (hall.1 markedExtras).1 hread
  ⟨hread, hwritten, (hall.2.1 markedExtras hwritten).1, by decide, rfl⟩

end SchemaDump.Dialect
