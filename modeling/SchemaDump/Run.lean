/-
  SchemaDump/Run.lean
  ===================
  **A run of items that may break off.**

  Rows arriving from a database, lexemes found in a text and events on their way
  to a document share one shape: some items, in order, and then either the end
  or a failure.  The items before a failure are real: whoever consumes the run
  sees them first, so a fault of its own about one of them comes before the
  failure.
-/

namespace SchemaDump

/-- Items in order, then the failure that ended them early, if there was one. -/
structure Run (ε α : Type) where
  items : List α := []
  failure : Option ε := none
deriving DecidableEq, Repr

namespace Run

variable {ε α β : Type}

def ofList (items : List α) : Run ε α := ⟨items, none⟩

def broken (failure : ε) : Run ε α := ⟨[], some failure⟩

def cons (item : α) (run : Run ε α) : Run ε α := ⟨item :: run.items, run.failure⟩

/-- One run after another; the second never starts if the first fails. -/
def append (first second : Run ε α) : Run ε α :=
  match first.failure with
  | none => ⟨first.items ++ second.items, second.failure⟩
  | some _ => first

/-- Runs one after another, up to the first failure. -/
def concat (runs : List (Run ε α)) : Run ε α := runs.foldr append (ofList [])

/-- A step that either gives items or fails. -/
def ofExcept : Except ε (List α) → Run ε α
  | .ok items => ofList items
  | .error failure => broken failure

/-- Every item replaced by a list of items, the failure by another. -/
def flatMap {ε' : Type} (f : α → List β) (g : ε → ε') (run : Run ε α) : Run ε' β :=
  ⟨run.items.flatMap f, run.failure.map g⟩

/-- All items, if the run reaches its end. -/
def all (run : Run ε α) : Except ε (List α) :=
  match run.failure with
  | none => .ok run.items
  | some failure => .error failure

@[simp] theorem all_ofList (items : List α) : (ofList items : Run ε α).all = .ok items := rfl

@[simp] theorem ofList_append (items : List α) (run : Run ε α) :
    append (ofList items) run = ⟨items ++ run.items, run.failure⟩ := rfl

@[simp] theorem all_append (first second : Run ε α) :
    (append first second).all
      = first.all.bind fun xs => second.all.map fun ys => xs ++ ys := by
  rcases first with ⟨xs, _ | e⟩
  · rcases second with ⟨ys, _ | e⟩ <;> rfl
  · rfl

@[simp] theorem all_ofExcept (step : Except ε (List α)) : (ofExcept step).all = step := by
  cases step <;> rfl

theorem append_assoc (a b c : Run ε α) : append (append a b) c = append a (append b c) := by
  rcases a with ⟨xs, _ | e⟩
  · rcases b with ⟨ys, _ | e⟩ <;> simp [append]
  · rfl

end Run
end SchemaDump
