/-
  SchemaDump/Proofs/Table/Name.lean
  =================================
  **When a table gets its own name back.**

  A live name is made generic and live again, or a generic one live and generic
  again.  Both ways the outcome hangs on what the name starts with, and on the
  prefix not being empty: the empty prefix marks nothing, but the placeholder
  still gives way to it.  The exact conditions are stated here; that no two live
  tables of a dump share a generic name follows from the first of them.
-/
import SchemaDump.Proofs.Table.Live

namespace SchemaDump.Table

/-- A text that goes on from `start`. -/
def StartsWith (start text : String) : Prop := ∃ rest, text = start ++ rest

/-! ### Generic names -/

theorem genericName_empty (name : String) : genericName name "" = name := rfl

theorem genericName_append {tablePrefix : String} (h : tablePrefix ≠ "") (rest : String) :
    genericName (tablePrefix ++ rest) tablePrefix = placeholder ++ rest := by
  have hsome : ¬tablePrefix.toList.isEmpty = true := by simpa using h
  rw [genericName, if_neg hsome, afterStart_eq_some_iff.2 rfl]

theorem genericName_of_not_startsWith {name tablePrefix : String}
    (h : ¬StartsWith tablePrefix name) : genericName name tablePrefix = name := by
  rw [genericName]
  split
  · rfl
  · cases hafter : afterStart tablePrefix name with
    | none => rfl
    | some rest => exact absurd ⟨rest, afterStart_eq_some_iff.1 hafter⟩ h

theorem isMarked_append (rest : String) : IsMarked (placeholder ++ rest) := ⟨rest, rfl⟩

/-- What is put before the same rest is the same. -/
theorem append_right_cancel {first second rest : String} (h : first ++ rest = second ++ rest) :
    first = second := by
  rw [← String.toList_inj, String.toList_append, String.toList_append] at h
  exact String.toList_inj.1 (List.append_cancel_right h)

/-! ### There and back -/

/-- **A name comes back from its generic form** exactly if the prefix was taken from it or it does
    not look like a generic name. -/
theorem liveName_genericName_eq_self_iff (name tablePrefix : String) :
    liveName (genericName name tablePrefix) tablePrefix = name
      ↔ (tablePrefix ≠ "" ∧ StartsWith tablePrefix name) ∨ ¬IsMarked name := by
  by_cases hmarked : IsMarked name
  · obtain ⟨rest, rfl⟩ := hmarked
    simp only [isMarked_append, not_true_eq_false, or_false]
    by_cases hempty : tablePrefix = ""
    · -- the placeholder gives way to the empty prefix, which would not bring it back
      subst hempty
      rw [genericName_empty, liveName_marked]
      refine iff_of_false (fun h => ?_) fun h => h.1 rfl
      exact absurd (append_right_cancel h) (by decide)
    · by_cases hstarts : StartsWith tablePrefix (placeholder ++ rest)
      · obtain ⟨after, hafter⟩ := hstarts
        rw [hafter, genericName_append hempty, liveName_marked]
        exact iff_of_true rfl ⟨hempty, after, rfl⟩
      · -- taken for a generic name, it would need the placeholder itself for a prefix
        rw [genericName_of_not_startsWith hstarts, liveName_marked]
        refine iff_of_false (fun h => hstarts ⟨rest, h.symm⟩) fun h => hstarts h.2
  · exact iff_of_true (liveName_genericName hmarked tablePrefix) (.inr hmarked)

/-- **A generic name comes back from its live form** exactly if the placeholder was replaced by a
    prefix that can be told, or if there is no placeholder and no prefix in it. -/
theorem genericName_liveName_eq_self_iff (name tablePrefix : String) :
    genericName (liveName name tablePrefix) tablePrefix = name
      ↔ (IsMarked name ∧ tablePrefix ≠ "")
        ∨ (¬IsMarked name ∧ (tablePrefix = "" ∨ ¬StartsWith tablePrefix name)) := by
  by_cases hmarked : IsMarked name
  · obtain ⟨rest, rfl⟩ := hmarked
    rw [liveName_marked]
    simp only [isMarked_append, true_and, not_true_eq_false, false_and, or_false]
    by_cases hempty : tablePrefix = ""
    · subst hempty
      rw [genericName_empty]
      refine iff_of_false (fun h => ?_) fun h => h rfl
      exact absurd (append_right_cancel h) (by decide)
    · exact iff_of_true (genericName_append hempty rest) hempty
  · rw [liveName_of_not_isMarked hmarked]
    simp only [hmarked, false_and, not_false_eq_true, true_and, false_or]
    by_cases hempty : tablePrefix = ""
    · subst hempty
      exact iff_of_true (genericName_empty name) (.inl rfl)
    · by_cases hstarts : StartsWith tablePrefix name
      · -- the placeholder stands where the prefix was, and the name had none
        obtain ⟨rest, rfl⟩ := hstarts
        rw [genericName_append hempty]
        refine iff_of_false (fun h => hmarked ⟨rest, h.symm⟩) ?_
        rintro (h | h)
        · exact hempty h
        · exact h ⟨rest, rfl⟩
      · exact iff_of_true (genericName_of_not_startsWith hstarts) (.inr hstarts)

/-- **Generic and live names are inverse to each other exactly where stated**, so that live names
    which do not look generic have different generic names. -/
theorem genericName_liveName_inverse (tablePrefix : String) :
    (∀ name, liveName (genericName name tablePrefix) tablePrefix = name
        ↔ (tablePrefix ≠ "" ∧ StartsWith tablePrefix name) ∨ ¬IsMarked name)
      ∧ (∀ name, genericName (liveName name tablePrefix) tablePrefix = name
        ↔ (IsMarked name ∧ tablePrefix ≠ "")
          ∨ (¬IsMarked name ∧ (tablePrefix = "" ∨ ¬StartsWith tablePrefix name)))
      ∧ ∀ first second, ¬IsMarked first → ¬IsMarked second →
        genericName first tablePrefix = genericName second tablePrefix → first = second := by
  refine ⟨fun name => liveName_genericName_eq_self_iff name tablePrefix,
    fun name => genericName_liveName_eq_self_iff name tablePrefix, ?_⟩
  intro first second hfirst hsecond h
  calc first
      = liveName (genericName first tablePrefix) tablePrefix :=
        (liveName_genericName hfirst tablePrefix).symm
    _ = liveName (genericName second tablePrefix) tablePrefix := by rw [h]
    _ = second := liveName_genericName hsecond tablePrefix

theorem genericName_users_ne :
    ¬IsMarked "jos_users" ∧ ¬IsMarked "users"
      ∧ genericName "jos_users" "jos_" ≠ genericName "users" "jos_" := by
  refine ⟨by decide, by decide, fun h => ?_⟩
  obtain ⟨-, -, hinjective⟩ := genericName_liveName_inverse "jos_"
  exact absurd (hinjective "jos_users" "users" (by decide) (by decide) h) (by decide)

/-- A live name that looks generic shares its generic name with another table. -/
example : genericName "#__users" "jos_" = genericName "jos_users" "jos_" := by decide

end SchemaDump.Table
