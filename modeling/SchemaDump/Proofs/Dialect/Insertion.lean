/-
  SchemaDump/Proofs/Dialect/Insertion.lean
  ========================================
  **The rows of a dump are safe in a script.**

  Whatever names and values the rows have, each dialect reads from the script
  exactly the rows that were written: nothing in a name or a value ends its
  token.  What standard string literals cannot carry, NUL, is refused.
-/
import SchemaDump.Dialect.Generic
import SchemaDump.Dialect.Mysql
import SchemaDump.Dialect.Postgresql
import SchemaDump.Proofs.Sql.Insertion

namespace SchemaDump

/-- Whether some value of the rows holds NUL. -/
def TableData.CarriesNul (data : TableData) : Prop :=
  ∃ row ∈ data.rows, ∃ field ∈ row.fields, ∃ text ∈ field.value, Char.ofNat 0 ∈ text.toList

namespace Dialect

open Sql (Reading Spells Statement)

/-! ### Readings of the dialects -/

def Mysql.reading : Reading := ⟨.mysql, false, false⟩

def Postgresql.reading : Reading := ⟨.standard, false, true⟩

def Generic.reading : Reading := ⟨.standard, true, true⟩

theorem name?_quoted (reading : Reading) (name : String) :
    reading.name? (.quoted reading.lexis.nameMark name.toList) = some name := by
  simp [Reading.name?]

theorem value?_quoted (text : String) : Sql.value? (.quoted '\'' text.toList) = some (some text) := by
  simp [Sql.value?]

theorem Mysql.reading_knows : Mysql.reading.Knows Mysql.spelling := by
  constructor
  · intro name
    exact ⟨_, .quotedBy rfl rfl name, name?_quoted Mysql.reading name⟩
  · intro text
    exact ⟨_, .escapedLiteral text, value?_quoted text⟩

theorem Postgresql.reading_knows : Postgresql.reading.Knows Postgresql.spelling := by
  constructor
  · intro name
    exact ⟨_, .quotedBy rfl rfl name, name?_quoted Postgresql.reading name⟩
  · intro text
    exact ⟨_, .quotedBy rfl rfl text, value?_quoted text⟩

theorem Generic.reading_knows : Generic.reading.Knows Generic.spelling := by
  constructor
  · intro name
    obtain ⟨token, hspells, rfl | ⟨rfl, hplain, hreserved⟩⟩ := Spells.bareName name
    · exact ⟨_, hspells, name?_quoted Generic.reading name⟩
    · refine ⟨_, hspells, ?_⟩
      have hbare : (Generic.reading.bareNames && Sql.isPlainName name.toList
          && !Sql.reservedWords.contains (Text.lower (String.ofList name.toList))) = true := by
        rw [String.ofList_toList, hplain, hreserved]
        rfl
      rw [Reading.name?, if_pos hbare, String.ofList_toList]
  · intro text
    exact ⟨_, .quotedBy rfl rfl text, value?_quoted text⟩

/-! ### Values with NUL -/

theorem carriesNul_iff (text : String) :
    Sql.carriesNul text = true ↔ Char.ofNat 0 ∈ text.toList := by
  rw [Sql.carriesNul, List.any_eq_true]
  constructor
  · rintro ⟨c, hmem, hc⟩
    obtain rfl : c = Char.ofNat 0 := Char.toNat_inj.1 (beq_iff_eq.1 hc)
    exact hmem
  · exact fun hmem => ⟨_, hmem, rfl⟩

namespace Standard

def rowStatement (table : String) (row : Row) : Statement :=
  if row.fields.isEmpty then .insertDefaults table else .insert table row.fields

theorem carriedField_eq (field : Field) :
    carriedField field
      = if field.value.any Sql.carriesNul then .error .nulCharacter else .ok field := by
  obtain ⟨name, value⟩ := field
  cases value with
  | none => rfl
  | some text =>
    rw [carriedField]
    simp only [carried, Option.any_some]
    split <;> rfl

theorem insertRow_eq (table : String) (row : Row) :
    insertRow table row
      = if row.fields.any fun field => field.value.any Sql.carriesNul then .error .nulCharacter
        else .ok (rowStatement table row) := by
  rw [insertRow, rowStatement]
  by_cases hempty : row.fields.isEmpty = true
  · rw [if_pos hempty, if_pos hempty, List.isEmpty_iff.1 hempty]
    rfl
  · rw [if_neg hempty, if_neg hempty]
    by_cases hnul : (row.fields.any fun field => field.value.any Sql.carriesNul) = true
    · have hfields : row.fields.mapM carriedField = .error .nulCharacter := by
        apply Checked.mapM_eq_error
        · intro field _ hfield
          rw [carriedField_eq] at hfield ⊢
          split at hfield
          · exact absurd rfl hfield
          · rename_i h
            exact ⟨field, if_neg h⟩
        · obtain ⟨field, hmem, hfield⟩ := List.any_eq_true.1 hnul
          exact ⟨field, hmem, by rw [carriedField_eq, if_pos hfield]⟩
      rw [if_pos hnul, hfields]
      rfl
    · have hfields : row.fields.mapM carriedField = .ok (row.fields.map id) := by
        apply Checked.mapM_eq_ok_map
        intro field hmem
        rw [carriedField_eq, if_neg]
        · rfl
        · intro hfield
          exact hnul (List.any_eq_true.2 ⟨field, hmem, hfield⟩)
      rw [if_neg hnul, hfields, List.map_id]
      rfl

theorem carriesNul_iff_any (data : TableData) :
    data.CarriesNul
      ↔ ∃ row ∈ data.rows, (row.fields.any fun field => field.value.any Sql.carriesNul) = true := by
  simp only [TableData.CarriesNul, List.any_eq_true, Option.any_eq_true, carriesNul_iff,
    Option.mem_def]

/-- **Rows are refused only for NUL**, and nothing else about them matters. -/
theorem insert_eq (table : String) (data : TableData) :
    (data.CarriesNul ∧ insert table data.rows = .error .nulCharacter)
      ∨ (¬ data.CarriesNul ∧ insert table data.rows = .ok (data.rows.map (rowStatement table))) := by
  rw [insert]
  by_cases hnul : data.CarriesNul
  · refine .inl ⟨hnul, ?_⟩
    obtain ⟨row, hmem, hrow⟩ := (carriesNul_iff_any data).1 hnul
    apply Checked.mapM_eq_error
    · intro other _ hother
      rw [insertRow_eq] at hother ⊢
      split at hother
      · exact absurd rfl hother
      · rename_i h
        exact ⟨_, if_neg h⟩
    · exact ⟨row, hmem, by rw [insertRow_eq, if_pos hrow]⟩
  · refine .inr ⟨hnul, ?_⟩
    apply Checked.mapM_eq_ok_map
    intro row hmem
    rw [insertRow_eq, if_neg]
    intro hrow
    exact hnul ((carriesNul_iff_any data).2 ⟨row, hmem, hrow⟩)

end Standard

/-! ### Reading back -/

/-- **The text is read as the rows of the data**, in order, and as nothing else. -/
def ReadsBack (reading : Reading) (options : FormatOptions) (data : TableData) (sql : String) :
    Prop :=
  reading.insertions? sql
    = some (data.rows.map fun row => ⟨Table.liveName data.name options.tablePrefix, row.fields⟩,
        if data.rows.isEmpty then "" else "\n\n")

theorem readsBack_block {reading : Reading} {spelling : Sql.Spelling} {options : FormatOptions}
    {data : TableData} {statement : Row → Statement}
    (h : ∀ row, reading.ReadsAs ((statement row).render spelling)
      ⟨Table.liveName data.name options.tablePrefix, row.fields⟩) :
    ReadsBack reading options data (Sql.block spelling (data.rows.map statement)) := by
  have hrows : List.Forall₂ reading.ReadsAs
      ((data.rows.map statement).map (Statement.render spelling))
      (data.rows.map fun row => ⟨Table.liveName data.name options.tablePrefix, row.fields⟩) := by
    rw [List.map_map, List.forall₂_map_left_iff, List.forall₂_map_right_iff, List.forall₂_same]
    exact fun row _ => h row
  rw [ReadsBack, Sql.insertions?_block hrows, List.isEmpty_map]

theorem readsAs_rowStatement {reading : Reading} {spelling : Sql.Spelling}
    (h : reading.Knows spelling) (hdefault : reading.defaultValues = true) (table : String)
    (row : Row) :
    reading.ReadsAs ((Standard.rowStatement table row).render spelling) ⟨table, row.fields⟩ := by
  rw [Standard.rowStatement]
  by_cases hempty : row.fields.isEmpty = true
  · rw [if_pos hempty, List.isEmpty_iff.1 hempty]
    exact Sql.readsAs_insertDefaults h hdefault table
  · rw [if_neg hempty]
    exact Sql.readsAs_insert h table (.inr (by simpa using hempty))

theorem insert_standard {reading : Reading} {spelling : Sql.Spelling}
    (h : reading.Knows spelling) (hdefault : reading.defaultValues = true)
    (options : FormatOptions) (data : TableData) :
    let written := (Standard.insert (Table.liveName data.name options.tablePrefix) data.rows).map
      (Sql.block spelling)
    (data.CarriesNul ∧ written = .error .nulCharacter)
      ∨ (¬ data.CarriesNul ∧ ∃ sql, written = .ok sql ∧ ReadsBack reading options data sql) := by
  rcases Standard.insert_eq (Table.liveName data.name options.tablePrefix) data with
    ⟨hnul, hinsert⟩ | ⟨hnul, hinsert⟩
  · refine .inl ⟨hnul, ?_⟩
    rw [hinsert]
    rfl
  · refine .inr ⟨hnul, _, ?_, readsBack_block (readsAs_rowStatement h hdefault _)⟩
    rw [hinsert]
    rfl

/-- **The rows of every table are read back from the text that each dialect writes for them.**
    MySQL writes all rows; the dialects with standard literals refuse those with NUL in a value,
    and only those. -/
theorem insert_reads_back (options : FormatOptions) (data : TableData) :
    (∃ sql, (Mysql.formatter options).insert data = .ok sql
        ∧ ReadsBack Mysql.reading options data sql)
      ∧ ((data.CarriesNul
            ∧ (Postgresql.formatter options).insert data = .error .nulCharacter)
          ∨ (¬ data.CarriesNul ∧ ∃ sql, (Postgresql.formatter options).insert data = .ok sql
            ∧ ReadsBack Postgresql.reading options data sql))
      ∧ ((data.CarriesNul ∧ (Generic.formatter options).insert data = .error .nulCharacter)
          ∨ (¬ data.CarriesNul ∧ ∃ sql, (Generic.formatter options).insert data = .ok sql
            ∧ ReadsBack Generic.reading options data sql)) := by
  refine ⟨⟨_, rfl, ?_⟩, ?_, ?_⟩
  · exact readsBack_block fun row => Sql.readsAs_insert Mysql.reading_knows _ (.inl rfl)
  · exact insert_standard Postgresql.reading_knows rfl options data
  · exact insert_standard Generic.reading_knows rfl options data

end Dialect
end SchemaDump
