/-
  SchemaDump/Proofs/Form/Member.lean
  ==================================
  **What the members of a form say.**

  A reader of a form succeeds with a value exactly on the forms that say it.  For
  a member that must be there this means that it is there and says its value; a
  member that may be left out can be missing instead, and then the value is the
  one that stands for nothing.
-/
import SchemaDump.Form.Basic
import SchemaDump.Proofs.Checked

namespace SchemaDump.Form

section
variable {α : Type}

/-- A reader that gives a value exactly for the forms that say it. -/
def Reads (read : Form → Option α) (means : α → Form → Prop) : Prop :=
  ∀ form value, read form = some value ↔ means value form

/-- The form has a member of a name, and what it says is right. -/
def Has (form : Form) (name : String) (right : Form → Prop) : Prop :=
  ∃ member, form.member? name = some member ∧ right member

/-- The form is a record without a member of a name. -/
def Lacks (form : Form) (name : String) : Prop :=
  form.isRecord = true ∧ form.member? name = none

/-- What a member of the form says is right, or it is left out where that is. -/
def MayHave (form : Form) (name : String) (right : Form → Prop) (leftOut : Prop) : Prop :=
  form.Has name right ∨ (form.Lacks name ∧ leftOut)

/-- A list whose items say the values, one each. -/
def IsList (means : α → Form → Prop) (values : List α) (form : Form) : Prop :=
  ∃ items, form = .list items ∧ List.Forall₂ means values items

/-! ### Plain values -/

theorem reads_text : Reads text? fun value form => form = .text value := by
  intro form value
  cases form with
  | text held => simp only [text?, Option.some.injEq, text.injEq]
  | _ => exact ⟨fun h => (nomatch h), fun h => (nomatch h)⟩

theorem reads_flag : Reads flag? fun value form => form = .flag value := by
  intro form value
  cases form with
  | flag held => simp only [flag?, Option.some.injEq, flag.injEq]
  | _ => exact ⟨fun h => (nomatch h), fun h => (nomatch h)⟩

theorem natural?_eq_some_iff {form : Form} {n : Nat} :
    form.natural? = some n ↔ form = .integer n := by
  cases form with
  | integer held =>
    cases held with
    | ofNat m => simp only [natural?, Option.some.injEq, integer.injEq, Int.ofNat_eq_natCast, Int.natCast_inj]
    | negSucc m => exact ⟨fun h => (nomatch h), fun h => (nomatch h)⟩
  | _ => exact ⟨fun h => (nomatch h), fun h => (nomatch h)⟩

theorem reads_unsigned32 :
    Reads unsigned32? fun (value : UInt32) form => form = .integer value.toNat := by
  intro form value
  rw [unsigned32?, Option.bind_eq_some_iff]
  constructor
  · rintro ⟨n, hn, h⟩
    split at h
    · obtain rfl := Option.some.inj h
      rw [UInt32.toNat_ofNatLT]
      exact natural?_eq_some_iff.1 hn
    · cases h
  · intro h
    refine ⟨value.toNat, natural?_eq_some_iff.2 h, ?_⟩
    have hfits : value.toNat < UInt32.size := value.toNat_lt
    rw [dif_pos hfits, UInt32.ofNatLT_toNat]

theorem reads_optionalText : Reads optionalText? fun value form => form = ofOptionalText value := by
  intro form value
  cases form <;> cases value <;> simp [optionalText?, ofOptionalText]

theorem reads_list {read : Form → Option α} {means : α → Form → Prop} (h : Reads read means) :
    Reads (list? read) (IsList means) := by
  intro form values
  constructor
  · intro hread
    cases form with
    | list items =>
      rw [list?, Checked.mapM_eq_some_iff] at hread
      exact ⟨items, rfl, hread.flip.imp fun value item => (h item value).1⟩
    | _ => cases hread
  · rintro ⟨items, rfl, hmeans⟩
    rw [list?, Checked.mapM_eq_some_iff]
    exact hmeans.flip.imp fun item value => (h item value).2

/-- A list is read from what is written for its items. -/
theorem isList_map {means : α → Form → Prop} {write : α → Form}
    (h : ∀ value, means value (write value)) (values : List α) :
    IsList means values (.list (values.map write)) := by
  refine ⟨_, rfl, ?_⟩
  rw [List.forall₂_map_right_iff, List.forall₂_same]
  exact fun value _ => h value

/-! ### Members -/

variable {form : Form} {name : String} {read : Form → Option α} {means : α → Form → Prop}

theorem required_eq_some_iff (h : Reads read means) {value : α} :
    form.required name read = some value ↔ form.Has name (means value) := by
  rw [required, Option.bind_eq_some_iff]
  exact exists_congr fun member => and_congr_right fun _ => h member value

theorem optional_eq_some_iff (h : Reads read means) {absent value : α} :
    form.optional name absent read = some value
      ↔ form.MayHave name (means value) (value = absent) := by
  rw [optional, MayHave, Has, Lacks]
  cases hmember : form.member? name with
  | some member => simp [h member value]
  | none => simp [@eq_comm α absent value]

theorem textOrEmpty_eq_some_iff {value : String} :
    form.textOrEmpty name = some value ↔ form.MayHave name (· = .text value) (value = "") :=
  optional_eq_some_iff reads_text

end
end SchemaDump.Form
