/-
  SchemaDump/Proofs/Registry.lean
  ===============================
  **What a registry holds is what its history tells.**

  A registry is made of an empty one by registering values and adding aliases.
  Of all that was done under a name only the latest counts: the value last
  registered under it, and the alias it was last made, unless a value was
  registered under it since (`lookup_entries_ofHistory`,
  `lookup_aliases_ofHistory`).  So a query can be answered from the history alone
  (`find?_ofHistory`), and a name in the list of names finds its own value if it
  means itself.
-/
import SchemaDump.Registry

namespace SchemaDump.Registry

variable {α β : Type}

/-! ### Histories -/

/-- One thing done to a registry. -/
inductive Change (α : Type) where
  | register (name : String) (value : α)
  | addAlias (name target : String)

def Change.apply (registry : Registry α) : Change α → Registry α
  | .register name value => registry.register name value
  | .addAlias name target => registry.addAlias name target

/-- The registry that a history leads to from the empty one; the latest change stands first. -/
def ofHistory : List (Change α) → Registry α
  | [] => {}
  | change :: past => change.apply (ofHistory past)

/-- The value last registered under a name in small letters. -/
def registered? (name : String) : List (Change α) → Option α
  | [] => none
  | .register other value :: past =>
    if name == Text.lower other then some value else registered? name past
  | .addAlias _ _ :: past => registered? name past

/-- What a name in small letters was last made an alias of, unless it was registered since. -/
def redirected? (name : String) : List (Change α) → Option String
  | [] => none
  | .register other _ :: past =>
    if name == Text.lower other then none else redirected? name past
  | .addAlias other target :: past =>
    if name == Text.lower other then some (Text.lower target) else redirected? name past

/-! ### Lists in order of names -/

theorem lookup_put (name other : String) (value : β) (held : List (String × β)) :
    (put name value held).lookup other
      = if other == name then some value else held.lookup other := by
  induction held with
  | nil =>
    rw [put, List.lookup_cons]
    cases other == name <;> rfl
  | cons entry rest ih =>
    obtain ⟨next, kept⟩ := entry
    rw [put]
    split
    · rename_i hname
      obtain rfl := beq_iff_eq.1 hname
      rw [List.lookup_cons, List.lookup_cons]
      cases other == name <;> rfl
    · rename_i hname
      split
      · rw [List.lookup_cons]
        cases other == name <;> rfl
      · rw [List.lookup_cons, List.lookup_cons, ih]
        cases hnext : other == next with
        | false => rfl
        | true =>
          obtain rfl := beq_iff_eq.1 hnext
          have hother : (other == name) = false := by
            rw [BEq.comm]
            exact Bool.eq_false_iff.2 hname
          rw [hother]
          rfl

theorem lookup_without (name other : String) (held : List (String × β)) :
    (held.filter (·.1 != name)).lookup other
      = if other == name then none else held.lookup other := by
  induction held with
  | nil => simp
  | cons entry rest ih =>
    obtain ⟨next, kept⟩ := entry
    rw [List.filter_cons, List.lookup_cons]
    by_cases hnext : next = name
    · subst hnext
      simp only [bne_self_eq_false, Bool.false_eq_true, if_false, ih]
      cases other == next <;> rfl
    · have hkept : (next != name) = true := bne_iff_ne.2 hnext
      rw [if_pos hkept, List.lookup_cons, ih]
      cases hother : other == next with
      | false => rfl
      | true =>
        obtain rfl := beq_iff_eq.1 hother
        rw [beq_eq_false_iff_ne.2 hnext]
        rfl

theorem mem_names_iff {registry : Registry α} {name : String} :
    name ∈ registry.names ↔ (registry.entries.lookup name).isSome = true := by
  rw [names, List.mem_map, List.lookup_isSome_iff]
  refine exists_congr fun entry => and_congr_right fun _ => ?_
  rw [beq_iff_eq, eq_comm]

/-! ### The latest counts -/

/-- **A name holds the value last registered under it.** -/
theorem lookup_entries_ofHistory (history : List (Change α)) (name : String) :
    (ofHistory history).entries.lookup name = registered? name history := by
  induction history with
  | nil => rfl
  | cons change past ih =>
    cases change with
    | register other value => rw [ofHistory, Change.apply, register, lookup_put, ih, registered?]
    | addAlias other target => rw [ofHistory, Change.apply, addAlias, ih, registered?]

/-- **A name is the alias it was last made**, unless it was registered since. -/
theorem lookup_aliases_ofHistory (history : List (Change α)) (name : String) :
    (ofHistory history).aliases.lookup name = redirected? name history := by
  induction history with
  | nil => rfl
  | cons change past ih =>
    cases change with
    | register other value =>
      rw [ofHistory, Change.apply, register, lookup_without, ih, redirected?]
    | addAlias other target => rw [ofHistory, Change.apply, addAlias, lookup_put, ih, redirected?]

theorem target_ofHistory (history : List (Change α)) (query : String) :
    (ofHistory history).target query
      = (redirected? (Text.lower (Text.trimmed query)) history).getD
          (Text.lower (Text.trimmed query)) := by
  rw [target, lookup_aliases_ofHistory]

theorem find?_ofHistory (history : List (Change α)) (query : String) :
    (ofHistory history).find? query = registered? ((ofHistory history).target query) history :=
  lookup_entries_ofHistory history _

theorem exists_registered? {history : List (Change α)} {name : String}
    (h : name ∈ (ofHistory history).names) : ∃ value, registered? name history = some value := by
  rw [← lookup_entries_ofHistory, ← Option.isSome_iff_exists]
  exact mem_names_iff.1 h

/-! ### Names that mean themselves -/

/-- **Each listed name means itself.** -/
def ListsItself (registry : Registry α) : Prop :=
  ∀ name ∈ registry.names, registry.target name = name

/-- So it is if names are registered without blanks around them, and none of them is made an
    alias later. -/
theorem listsItself_of_forall {history : List (Change α)}
    (h : ∀ name ∈ (ofHistory history).names,
      Text.lower (Text.trimmed name) = name ∧ redirected? name history = none) :
    (ofHistory history).ListsItself := by
  intro name hname
  obtain ⟨hplain, hdirect⟩ := h name hname
  rw [target_ofHistory, hplain, hdirect, Option.getD_none]

end SchemaDump.Registry
