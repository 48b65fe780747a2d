/-
  SchemaDump/Proofs/Registry/Registration.lean
  ============================================
  **Registering a value wins, and touches nothing else.**

  The names of a registry stay in strictly ascending order whatever is done to it
  (`pairwise_names_ofHistory`), so they are a set.  A value that is registered
  under a name adds this name to the set, answers all queries that mean the name,
  and answers those that reach the name through an alias; every other query goes
  the way it went before, because only the entry and the alias of the one name
  were touched.
-/
import SchemaDump.Proofs.Registry
import SchemaDump.Proofs.Text.Words

namespace SchemaDump.Registry

variable {α β : Type}

/-! ### Names in order -/

theorem mem_map_put {name other : String} {value : β} {held : List (String × β)} :
    other ∈ (put name value held).map (·.1) ↔ other = name ∨ other ∈ held.map (·.1) := by
  induction held with
  | nil => simp [put]
  | cons entry rest ih =>
    obtain ⟨next, kept⟩ := entry
    unfold put
    split
    · rename_i hname
      simp [beq_iff_eq.1 hname]
    · split
      · simp
      · rw [List.map_cons, List.mem_cons, ih, List.map_cons, List.mem_cons]
        exact or_left_comm

/-- **One more name leaves the names in order.** -/
theorem pairwise_put (name : String) (value : β) {held : List (String × β)}
    (h : (held.map (·.1)).Pairwise (· < ·)) :
    ((put name value held).map (·.1)).Pairwise (· < ·) := by
  induction held with
  | nil => simp [put]
  | cons entry rest ih =>
    obtain ⟨next, kept⟩ := entry
    rw [List.map_cons, List.pairwise_cons] at h
    obtain ⟨hnext, hrest⟩ := h
    unfold put
    split
    · rename_i hname
      rw [List.map_cons, List.pairwise_cons, beq_iff_eq.1 hname]
      exact ⟨hnext, hrest⟩
    · rename_i hname
      split
      · rename_i hbefore
        simp only [List.map_cons, List.pairwise_cons, List.mem_cons, forall_eq_or_imp]
        refine ⟨⟨hbefore, ?_⟩, hnext, hrest⟩
        intro other hother
        exact String.lt_trans hbefore (hnext other hother)
      · rename_i hbefore
        have hne : next ≠ name := by
          intro hsame
          exact hname (beq_iff_eq.2 hsame.symm)
        rw [List.map_cons, List.pairwise_cons]
        refine ⟨?_, ih hrest⟩
        intro other hother
        rcases mem_map_put.1 hother with rfl | hother
        · exact Std.lt_of_le_of_ne (String.not_lt.1 hbefore) hne
        · exact hnext other hother

/-- **The names of a registry are in strictly ascending order.** -/
theorem pairwise_names_ofHistory (history : List (Change α)) :
    (ofHistory history).names.Pairwise (· < ·) := by
  induction history with
  | nil => exact List.Pairwise.nil
  | cons change past ih =>
    cases change with
    | register name value => exact pairwise_put _ value ih
    | addAlias name target => exact ih

/-! ### Queries -/

/-- A query that is a name up to the case of letters and the blanks around it. -/
def Means (query name : String) : Prop :=
  ∃ before inner after : String, query = before ++ (inner ++ after)
    ∧ Text.blankOnly before = true ∧ Text.blankOnly after = true
    ∧ Text.sameLetters inner name = true

/-- The name in a query: in small letters, without blanks around. -/
def named (query : String) : String := Text.lower (Text.trimmed query)

theorem target_eq (registry : Registry α) (query : String) :
    registry.target query = (registry.aliases.lookup (named query)).getD (named query) := rfl

theorem means_iff {query name : String} (hname : Text.trimmed name = name) :
    Means query name ↔ named query = Text.lower name := by
  constructor
  · rintro ⟨before, inner, after, rfl, hbefore, hafter, hinner⟩
    have htrimmed : Text.trimmed (before ++ (inner ++ after)) = Text.trimmed inner := by
      rw [Text.trimmed, String.toList_append, String.toList_append,
        Text.trim_blanks_append (List.all_eq_true.1 hbefore) (List.all_eq_true.1 hafter),
        Text.trimmed]
    rw [named, htrimmed, Text.lower_trimmed, beq_iff_eq.1 hinner, ← Text.lower_trimmed, hname]
  · intro h
    obtain ⟨before, after, hbefore, hafter, hquery⟩ :=
      Text.exists_eq_blanks_append_trim query.toList
    refine ⟨String.ofList before, Text.trimmed query, String.ofList after, ?_, ?_, ?_, ?_⟩
    · apply String.toList_inj.1
      simpa [Text.trimmed] using hquery
    · simpa [Text.blankOnly, Text.AreBlank] using hbefore
    · simpa [Text.blankOnly, Text.AreBlank] using hafter
    · exact beq_iff_eq.2 h

/-! ### One more value -/

/-- A query that means the registered name is no alias any more; all others stay what they were. -/
theorem target_register (registry : Registry α) (name : String) (value : α) (query : String) :
    (registry.register name value).target query
      = if named query = Text.lower name then Text.lower name else registry.target query := by
  rw [target_eq, target_eq, register, lookup_without]
  by_cases hquery : named query = Text.lower name
  · rw [if_pos hquery, if_pos (beq_iff_eq.2 hquery), Option.getD_none, hquery]
  · rw [if_neg hquery, if_neg (by simpa using hquery)]

theorem find?_register_of_eq {registry : Registry α} {name query : String} (value : α)
    (hquery : named query = Text.lower name) :
    (registry.register name value).find? query = some value := by
  rw [find?, target_register, if_pos hquery, register, lookup_put, if_pos BEq.rfl]

theorem find?_register_of_ne {registry : Registry α} {name query : String} (value : α)
    (hquery : named query ≠ Text.lower name) :
    (registry.register name value).find? query
      = if registry.aliases.lookup (named query) = some (Text.lower name) then some value
        else registry.find? query := by
  have htarget : registry.target query = Text.lower name
      ↔ registry.aliases.lookup (named query) = some (Text.lower name) := by
    rw [target_eq]
    cases registry.aliases.lookup (named query) with
    | none => simpa using hquery
    | some other => simp
  rw [find?, target_register, if_neg hquery, register, lookup_put, find?]
  simp only [beq_iff_eq, htarget]

/-- **Registering a value wins and touches nothing else.**  Whatever was done to a registry before,
    all queries that mean the name give the value from then on, be it that they meant an alias; the
    names are the old ones and this one in small letters, in strictly ascending order; and any other
    query gives what it gave, unless it is an alias of the name, when it gives the value. -/
theorem register_ofHistory (history : List (Change α)) {name : String}
    (hname : Text.trimmed name = name) (value : α) :
    (∀ query, Means query name → ((ofHistory history).register name value).find? query = some value)
      ∧ ((ofHistory history).register name value).names.Pairwise (· < ·)
      ∧ (∀ other, other ∈ ((ofHistory history).register name value).names
        ↔ other ∈ (ofHistory history).names ∨ other = Text.lower name)
      ∧ ∀ query, ¬Means query name →
        ((ofHistory history).register name value).find? query
          = if redirected? (named query) history = some (Text.lower name) then some value
            else (ofHistory history).find? query := by
  refine ⟨?_, ?_, ?_, ?_⟩
  · intro query hquery
    exact find?_register_of_eq value ((means_iff hname).1 hquery)
  · exact pairwise_names_ofHistory (.register name value :: history)
  · intro other
    rw [or_comm]
    exact mem_map_put
  · intro query hquery
    rw [means_iff hname] at hquery
    rw [find?_register_of_ne value hquery, lookup_aliases_ofHistory]

/-- Two dialects, the first of which has an alias. -/
def aliasedHistory : List (Change Formatter.Factory) :=
  [.addAlias "SQL" "generic", .register "mysql" Dialect.Mysql.formatter,
    .register "generic" Dialect.Generic.formatter]

/-- A new value for the first dialect is found by its name and by its alias. -/
theorem register_ofHistory_aliased :
    Text.trimmed "Generic" = "Generic"
      ∧ (Means " generic" "Generic"
        ∧ ((ofHistory aliasedHistory).register "Generic" Dialect.Mysql.formatter).find? " generic"
          = some Dialect.Mysql.formatter)
      ∧ (¬Means "sql\t" "Generic"
        ∧ ((ofHistory aliasedHistory).register "Generic" Dialect.Mysql.formatter).find? "sql\t"
          = some Dialect.Mysql.formatter)
      ∧ ¬Means "MySQL" "Generic"
      ∧ ((ofHistory aliasedHistory).register "Generic" Dialect.Mysql.formatter).find? "MySQL"
        = (ofHistory aliasedHistory).find? "MySQL" := by
  have hname : Text.trimmed "Generic" = "Generic" := by decide
  have hplain : Means " generic" "Generic" := (means_iff hname).2 (by decide)
  have halias : ¬Means "sql\t" "Generic" := by
    rw [means_iff hname]
    decide
  have hother : ¬Means "MySQL" "Generic" := by
    rw [means_iff hname]
    decide
  obtain ⟨hwins, -, -, hkept⟩ :=
    register_ofHistory aliasedHistory hname Dialect.Mysql.formatter
  refine ⟨hname, ⟨hplain, hwins _ hplain⟩, ⟨halias, ?_⟩, hother, ?_⟩
  · rw [hkept _ halias, if_pos (by decide)]
  · rw [hkept _ hother, if_neg (by decide)]

end SchemaDump.Registry
