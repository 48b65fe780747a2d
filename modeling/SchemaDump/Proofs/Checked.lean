/-
  SchemaDump/Proofs/Checked.lean
  ==============================
  **Steps that may fail, one after another.**

  Readers and formatters are made of steps that give a value or a reason.  What
  such a chain gives is known once it is known what each step gave.
-/
import Mathlib.Algebra.GroupWithZero.Nat
import Mathlib.Data.List.Forall2

namespace SchemaDump.Checked

variable {ε ε' α β γ δ : Type}

@[simp] theorem bind_ok (a : α) (f : α → Except ε β) : (Except.ok a).bind f = f a := rfl

@[simp] theorem bind_error (cause : ε) (f : α → Except ε β) :
    (Except.error cause).bind f = .error cause := rfl

theorem bind_eq_ok_iff {x : Except ε α} {f : α → Except ε β} {b : β} :
    x.bind f = .ok b ↔ ∃ a, x = .ok a ∧ f a = .ok b := by
  cases x <;> simp

theorem map_eq_ok_iff {x : Except ε α} {f : α → β} {b : β} :
    x.map f = .ok b ↔ ∃ a, x = .ok a ∧ f a = b := by
  cases x <;> simp [Except.map]

theorem mapError_eq_ok_iff {x : Except ε α} {reason : ε → ε'} {a : α} :
    x.mapError reason = .ok a ↔ x = .ok a := by
  cases x <;> simp [Except.mapError]

theorem exists_of_isOk {x : Except ε α} (h : x.isOk = true) : ∃ a, x = .ok a := by
  cases x with
  | error cause => cases h
  | ok a => exact ⟨a, rfl⟩

/-- A check before the next step. -/
theorem check_eq_ok_iff {fails : Bool} {cause : ε} {next : PUnit → Except ε β} {b : β} :
    (if fails then (throw cause : Except ε PUnit) >>= next else next ⟨⟩) = .ok b
      ↔ fails = false ∧ next ⟨⟩ = .ok b := by
  cases fails with
  | true => exact ⟨fun h => (nomatch h), fun h => (nomatch h.1)⟩
  | false => exact ⟨fun h => ⟨rfl, h⟩, fun h => h.2⟩

/-- A step for each item of a list. -/
theorem mapM_eq_ok_iff {f : α → Except ε β} {xs : List α} {ys : List β} :
    xs.mapM f = .ok ys ↔ List.Forall₂ (fun x y => f x = .ok y) xs ys := by
  induction xs generalizing ys with
  | nil =>
    rw [List.mapM_nil, List.forall₂_nil_left_iff]
    exact ⟨fun h => (Except.ok.inj h).symm, fun h => h ▸ rfl⟩
  | cons x xs ih =>
    rw [List.mapM_cons, List.forall₂_cons_left_iff]
    constructor
    · intro h
      obtain ⟨y, hy, h⟩ := bind_eq_ok_iff.1 h
      obtain ⟨rest, hrest, h⟩ := bind_eq_ok_iff.1 h
      exact ⟨y, rest, hy, ih.1 hrest, (Except.ok.inj h).symm⟩
    · rintro ⟨y, rest, hy, hrest, rfl⟩
      exact bind_eq_ok_iff.2 ⟨y, hy, bind_eq_ok_iff.2 ⟨rest, ih.2 hrest, rfl⟩⟩

/-- Items that look alike give the same results, if nothing but the look of an item counts. -/
theorem mapM_eq_mapM {look : α → γ} {lookAt : β → γ} {f : α → Except ε δ} {g : β → Except ε δ}
    {xs : List α} {ys : List β} (h : xs.map look = ys.map lookAt)
    (hstep : ∀ x ∈ xs, ∀ y ∈ ys, look x = lookAt y → f x = g y) : xs.mapM f = ys.mapM g := by
  induction xs generalizing ys with
  | nil =>
    rw [List.map_eq_nil_iff.1 h.symm, List.mapM_nil, List.mapM_nil]
  | cons x xs ih =>
    cases ys with
    | nil => cases h
    | cons y ys =>
      rw [List.map_cons, List.map_cons, List.cons.injEq] at h
      have hrest : xs.mapM f = ys.mapM g := ih h.2 fun x hx y hy =>
        hstep x (List.mem_cons_of_mem _ hx) y (List.mem_cons_of_mem _ hy)
      rw [List.mapM_cons, List.mapM_cons, hrest,
        hstep x List.mem_cons_self y List.mem_cons_self h.1]

theorem mapM_congr {f g : α → Except ε β} {xs : List α} (h : ∀ x ∈ xs, f x = g x) :
    xs.mapM f = xs.mapM g := by
  refine mapM_eq_mapM (rfl : xs.map id = xs.map id) ?_
  rintro x hx _ - rfl
  exact h x hx

/-- Results and reasons may be changed after each step or after the last one. -/
theorem mapM_map_mapError (f : α → Except ε β) (g : β → γ) (reason : ε → ε') (xs : List α) :
    xs.mapM (fun x => ((f x).map g).mapError reason)
      = ((xs.mapM f).map (List.map g)).mapError reason := by
  induction xs with
  | nil => rfl
  | cons x xs ih =>
    rw [List.mapM_cons, List.mapM_cons, ih]
    cases f x with
    | error cause => rfl
    | ok y => cases xs.mapM f <;> rfl

theorem exists_of_mem_right {R : α → β → Prop} {xs : List α} {ys : List β}
    (h : List.Forall₂ R xs ys) {y : β} (hmem : y ∈ ys) : ∃ x ∈ xs, R x y := by
  induction h with
  | nil => cases hmem
  | cons hfirst _ ih =>
    rcases List.mem_cons.1 hmem with rfl | hmem
    · exact ⟨_, List.mem_cons_self, hfirst⟩
    · obtain ⟨x, hx, hxy⟩ := ih hmem
      exact ⟨x, List.mem_cons_of_mem _ hx, hxy⟩

theorem exists_of_mem_mapM {f : α → Except ε β} {xs : List α} {ys : List β}
    (h : xs.mapM f = .ok ys) {y : β} (hmem : y ∈ ys) : ∃ x ∈ xs, f x = .ok y :=
  exists_of_mem_right (mapM_eq_ok_iff.1 h) hmem

/-- What is counted of each result adds up to what is counted of each item. -/
theorem sum_map_of_mapM {f : α → Except ε β} {size : β → Nat} {count : α → Nat} {xs : List α}
    {ys : List β} (h : xs.mapM f = .ok ys) (hsize : ∀ x y, f x = .ok y → size y = count x) :
    (ys.map size).sum = (xs.map count).sum := by
  rw [mapM_eq_ok_iff] at h
  induction h with
  | nil => rfl
  | cons hfirst _ ih => rw [List.map_cons, List.map_cons, List.sum_cons, List.sum_cons, ih,
      hsize _ _ hfirst]

/-- What is read from each result, put together, is what was to be read for each item. -/
theorem flatMap_of_mapM {f : α → Except ε β} {g : β → List γ} {k : α → List γ} {xs : List α}
    {ys : List β} (h : xs.mapM f = .ok ys) (hstep : ∀ x y, f x = .ok y → g y = k x) :
    ys.flatMap g = xs.flatMap k := by
  rw [mapM_eq_ok_iff] at h
  induction h with
  | nil => rfl
  | cons hfirst _ ih => rw [List.flatMap_cons, List.flatMap_cons, ih, hstep _ _ hfirst]

theorem mapM_eq_ok_map {f : α → Except ε β} {g : α → β} {xs : List α}
    (h : ∀ x ∈ xs, f x = .ok (g x)) : xs.mapM f = .ok (xs.map g) := by
  rw [mapM_eq_ok_iff, List.forall₂_map_right_iff, List.forall₂_same]
  exact h

theorem exists_mapM_eq_ok {f : α → Except ε β} {xs : List α}
    (h : ∀ x ∈ xs, ∃ y, f x = .ok y) : ∃ ys, xs.mapM f = .ok ys := by
  induction xs with
  | nil => exact ⟨[], rfl⟩
  | cons x xs ih =>
    rw [List.forall_mem_cons] at h
    obtain ⟨y, hy⟩ := h.1
    obtain ⟨ys, hys⟩ := ih h.2
    refine ⟨y :: ys, ?_⟩
    rw [List.mapM_cons, hy, hys]
    rfl

/-- A list fails for the reason of one of its steps. -/
theorem exists_of_mapM_eq_error {f : α → Except ε β} {cause : ε} {xs : List α}
    (h : xs.mapM f = .error cause) : ∃ x ∈ xs, f x = .error cause := by
  induction xs with
  | nil => cases h
  | cons x xs ih =>
    rw [List.mapM_cons] at h
    cases hx : f x with
    | error reason =>
      rw [hx] at h
      obtain rfl := Except.error.inj h
      exact ⟨x, List.mem_cons_self, hx⟩
    | ok y =>
      have hrest : xs.mapM f = .error cause := by
        rw [hx] at h
        cases hys : xs.mapM f with
        | error reason =>
          rw [hys] at h
          rw [Except.error.inj h]
        | ok ys =>
          rw [hys] at h
          cases h
      obtain ⟨other, hmem, hother⟩ := ih hrest
      exact ⟨other, List.mem_cons_of_mem x hmem, hother⟩

/-- A step that has only one reason to fail fails a list for that reason. -/
theorem mapM_eq_error {f : α → Except ε β} {cause : ε} {xs : List α}
    (h : ∀ x ∈ xs, f x ≠ .error cause → ∃ y, f x = .ok y)
    (hfails : ∃ x ∈ xs, f x = .error cause) : xs.mapM f = .error cause := by
  induction xs with
  | nil =>
    obtain ⟨x, hmem, -⟩ := hfails
    cases hmem
  | cons x xs ih =>
    rw [List.forall_mem_cons] at h
    rw [List.mapM_cons]
    by_cases hx : f x = .error cause
    · rw [hx]
      rfl
    · obtain ⟨y, hy⟩ := h.1 hx
      have hrest : ∃ x ∈ xs, f x = .error cause := by
        obtain ⟨other, hmem, hother⟩ := hfails
        rcases List.mem_cons.1 hmem with rfl | hmem
        · exact absurd hother hx
        · exact ⟨other, hmem, hother⟩
      rw [hy, ih h.2 hrest]
      rfl

/-- A step for each item of a list, without reasons. -/
theorem mapM_eq_some_iff {f : α → Option β} {xs : List α} {ys : List β} :
    xs.mapM f = some ys ↔ List.Forall₂ (fun x y => f x = some y) xs ys := by
  induction xs generalizing ys with
  | nil =>
    rw [List.mapM_nil, List.forall₂_nil_left_iff]
    exact ⟨fun h => (Option.some.inj h).symm, fun h => h ▸ rfl⟩
  | cons x xs ih =>
    rw [List.mapM_cons, List.forall₂_cons_left_iff]
    constructor
    · intro h
      obtain ⟨y, hy, h⟩ := Option.bind_eq_some_iff.1 h
      obtain ⟨rest, hrest, h⟩ := Option.bind_eq_some_iff.1 h
      exact ⟨y, rest, hy, ih.1 hrest, (Option.some.inj h).symm⟩
    · rintro ⟨y, rest, hy, hrest, rfl⟩
      exact Option.bind_eq_some_iff.2
        ⟨y, hy, Option.bind_eq_some_iff.2 ⟨rest, ih.2 hrest, rfl⟩⟩

/-- All items have results exactly if leaving out those without leaves out nothing. -/
theorem mapM_eq_some_iff_filterMap {f : α → Option β} {xs : List α} {ys : List β} :
    xs.mapM f = some ys ↔ (∀ x ∈ xs, (f x).isSome = true) ∧ xs.filterMap f = ys := by
  rw [mapM_eq_some_iff]
  constructor
  · intro h
    induction h with
    | nil => exact ⟨List.forall_mem_nil _, rfl⟩
    | cons hx _ ih =>
      refine ⟨List.forall_mem_cons.2 ⟨?_, ih.1⟩, ?_⟩
      · rw [hx, Option.isSome_some]
      · rw [List.filterMap_cons_some hx, ih.2]
  · rintro ⟨hall, rfl⟩
    induction xs with
    | nil => exact .nil
    | cons x xs ih =>
      rw [List.forall_mem_cons] at hall
      obtain ⟨y, hy⟩ := Option.isSome_iff_exists.1 hall.1
      rw [List.filterMap_cons_some hy]
      exact .cons hy (ih hall.2)

/-! ### Steps that succeed -/

/-- A step that gives a value. -/
def Succeeds (x : Except ε α) : Prop := ∃ a, x = .ok a

@[simp] theorem succeeds_ok (a : α) : Succeeds (.ok a : Except ε α) := ⟨a, rfl⟩

@[simp] theorem succeeds_pure (a : α) : Succeeds (pure a : Except ε α) := succeeds_ok a

@[simp] theorem not_succeeds_error (cause : ε) : ¬Succeeds (.error cause : Except ε α) := by
  rintro ⟨a, h⟩
  cases h

@[simp] theorem not_succeeds_throw (cause : ε) : ¬Succeeds (throw cause : Except ε α) :=
  not_succeeds_error cause

theorem succeeds_iff_isOk {x : Except ε α} : Succeeds x ↔ x.isOk = true := by
  cases x <;> simp [Except.isOk, Except.toBool]

theorem succeeds_bind_iff {x : Except ε α} {f : α → Except ε β} :
    Succeeds (x >>= f) ↔ ∃ a, x = .ok a ∧ Succeeds (f a) := by
  constructor
  · rintro ⟨b, h⟩
    obtain ⟨a, ha, hb⟩ := bind_eq_ok_iff.1 h
    exact ⟨a, ha, b, hb⟩
  · rintro ⟨a, ha, b, hb⟩
    exact ⟨b, bind_eq_ok_iff.2 ⟨a, ha, hb⟩⟩

/-- A step that what comes after it does not depend on. -/
theorem succeeds_bind_and_iff {x : Except ε α} {f : α → Except ε β} {rest : Prop}
    (h : ∀ a, Succeeds (f a) ↔ rest) : Succeeds (x >>= f) ↔ Succeeds x ∧ rest := by
  rw [succeeds_bind_iff]
  constructor
  · rintro ⟨a, ha, hf⟩
    exact ⟨⟨a, ha⟩, (h a).1 hf⟩
  · rintro ⟨⟨a, ha⟩, hrest⟩
    exact ⟨a, ha, (h a).2 hrest⟩

/-- A step after which nothing can fail. -/
theorem succeeds_bind_pure_iff {x : Except ε α} {f : α → β} :
    Succeeds (x >>= fun a => pure (f a)) ↔ Succeeds x := by
  rw [succeeds_bind_and_iff fun a => iff_true_intro (succeeds_pure (f a)), and_true]

@[simp] theorem succeeds_map_iff {x : Except ε α} {f : α → β} :
    Succeeds (x.map f) ↔ Succeeds x := by
  cases x with
  | error cause => exact iff_of_false (not_succeeds_error cause) (not_succeeds_error cause)
  | ok a => exact iff_of_true (succeeds_ok (f a)) (succeeds_ok a)

/-- A check before the next step. -/
theorem succeeds_check_iff {fails : Bool} {cause : ε} {next : PUnit → Except ε β} :
    Succeeds (if fails then (throw cause : Except ε PUnit) >>= next else next ⟨⟩)
      ↔ fails = false ∧ Succeeds (next ⟨⟩) := by
  cases fails with
  | true => exact iff_of_false (not_succeeds_error cause) fun h => Bool.noConfusion h.1
  | false => exact ⟨fun h => ⟨rfl, h⟩, fun h => h.2⟩

theorem succeeds_mapM_iff {f : α → Except ε β} {xs : List α} :
    Succeeds (xs.mapM f) ↔ ∀ x ∈ xs, Succeeds (f x) := by
  refine ⟨?_, exists_mapM_eq_ok⟩
  rintro ⟨ys, h⟩ x hx
  obtain ⟨y, -, hy⟩ := exists_of_mem_right (mapM_eq_ok_iff.1 h).flip hx
  exact ⟨y, hy⟩

end SchemaDump.Checked

/-! ### Where a chain stops -/

namespace SchemaDump

open Checked (Succeeds)

/-- Why a step gives nothing, if it does not. -/
def failureOf {ε α : Type} : Except ε α → Option ε
  | .ok _ => none
  | .error cause => some cause

@[simp] theorem failureOf_eq_some_iff {ε α : Type} {step : Except ε α} {cause : ε} :
    failureOf step = some cause ↔ step = .error cause := by
  cases step <;> simp [failureOf]

theorem failureOf_eq_none_iff {ε α : Type} {step : Except ε α} :
    failureOf step = none ↔ Succeeds step := by
  cases step <;> simp [failureOf]

namespace Checked

variable {ε α β ρ : Type} {refusal? : ρ → Option ε}

/-- Whether a step fails exactly if one of the requests that are put for it is refused, with the
    reason of the first refusal. -/
def IsStoppedBy (refusal? : ρ → Option ε) (requests : List ρ) (step : Except ε α) : Prop :=
  failureOf step = requests.findSome? refusal?

theorem isStoppedBy_pure (refusal? : ρ → Option ε) (a : α) :
    IsStoppedBy refusal? [] (pure a : Except ε α) := rfl

theorem isStoppedBy_singleton {request : ρ} {step : Except ε α}
    (h : failureOf step = refusal? request) : IsStoppedBy refusal? [request] step := by
  rw [IsStoppedBy, List.findSome?_singleton, h]

namespace IsStoppedBy

/-- The requests of one step come before those of the next. -/
theorem bind {step : Except ε α} {next : α → Except ε β} {first second : List ρ}
    (hstep : IsStoppedBy refusal? first step) (hnext : ∀ a, IsStoppedBy refusal? second (next a)) :
    IsStoppedBy refusal? (first ++ second) (step >>= next) := by
  unfold IsStoppedBy at hstep ⊢
  rw [List.findSome?_append, ← hstep]
  cases step with
  | error cause => rfl
  | ok a => exact hnext a

theorem map {requests : List ρ} {step : Except ε α} (h : IsStoppedBy refusal? requests step)
    (f : α → β) : IsStoppedBy refusal? requests (step.map f) := by
  rw [IsStoppedBy, ← h]
  cases step <;> rfl

theorem mapM {items : List α} {step : α → Except ε β} {requests : α → List ρ}
    (h : ∀ item ∈ items, IsStoppedBy refusal? (requests item) (step item)) :
    IsStoppedBy refusal? (items.flatMap requests) (items.mapM step) := by
  induction items with
  | nil => rfl
  | cons item items ih =>
    rw [List.forall_mem_cons] at h
    rw [List.mapM_cons, List.flatMap_cons]
    apply h.1.bind
    intro first
    exact (ih h.2).map fun rest => first :: rest

theorem eq_error_iff {requests : List ρ} {step : Except ε α}
    (h : IsStoppedBy refusal? requests step) {cause : ε} :
    step = .error cause ↔ requests.findSome? refusal? = some cause := by
  rw [← h, failureOf_eq_some_iff]

theorem succeeds_iff {requests : List ρ} {step : Except ε α}
    (h : IsStoppedBy refusal? requests step) :
    Succeeds step ↔ ∀ request ∈ requests, refusal? request = none := by
  rw [← failureOf_eq_none_iff, h, List.findSome?_eq_none_iff]

end IsStoppedBy
end Checked
end SchemaDump
