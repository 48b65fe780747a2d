/-
  SchemaDump/Table/Name.lean
  ==========================
  **Table names, live and generic.**

  A database may put one prefix before the names of all its tables.  In a dump
  the prefix is replaced by the placeholder `#__`, so that the dump can be
  installed under another one.  Only a prefix at the very start counts, and it
  is taken literally; the empty prefix marks nothing and replaces nothing.
-/

namespace SchemaDump.Table

/-- Stands in a generic name where the live name has its prefix. -/
def placeholder : String := "#__"

/-- The rest of a text that starts with `start`. -/
def afterStart (start text : String) : Option String :=
  if start.toList.isPrefixOf text.toList then
    some (String.ofList (text.toList.drop start.toList.length))
  else none

/-- A live name with the placeholder in the prefix's place. -/
def genericName (table livePrefix : String) : String :=
  if livePrefix.toList.isEmpty then table
  else match afterStart livePrefix table with
    | some rest => placeholder ++ rest
    | none => table

/-- A generic name with the prefix in the placeholder's place. -/
def liveName (generic livePrefix : String) : String :=
  match afterStart placeholder generic with
  | some rest => livePrefix ++ rest
  | none => generic

/-- A text starts with `start` exactly if it is `start` and something after it. -/
theorem afterStart_eq_some_iff {start text rest : String} :
    afterStart start text = some rest ↔ text = start ++ rest := by
  unfold afterStart
  constructor
  · intro h
    split at h
    · rename_i hp
      rw [List.isPrefixOf_iff_prefix] at hp
      obtain ⟨tail, ht⟩ := hp
      rw [Option.some.injEq] at h
      subst h
      apply String.toList_inj.1
      rw [← ht]
      simp
    · simp at h
  · rintro rfl
    simp

end SchemaDump.Table
