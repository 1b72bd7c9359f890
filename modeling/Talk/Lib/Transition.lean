import Mathlib.Data.List.Basic

/-!
# Runs of a deterministic transition function

A component is a function from a state and an action to the next state. The rules here carry a
property of single steps over whole runs: an invariant that every step keeps holds in every
state of a run, and so does one that is only kept by the steps that meet a condition, as long
as every step of the run meets it in the state it is taken in.
-/

namespace Talk.Transition

variable {σ α : Type} (step : σ → α → σ)

/-- The state after a list of actions. -/
def run (state : σ) (actions : List α) : σ := actions.foldl step state

/-- Every action of a run meets a condition in the state it is taken in. -/
def Guarded (condition : σ → α → Prop) : σ → List α → Prop
  | _, [] => True
  | state, action :: actions =>
    condition state action ∧ Guarded condition (step state action) actions

/-- A condition that can be decided can be decided along a run. -/
instance Guarded.decidable (condition : σ → α → Prop)
    [∀ state action, Decidable (condition state action)] :
    ∀ state actions, Decidable (Guarded step condition state actions)
  | _, [] => inferInstanceAs (Decidable True)
  | state, action :: actions =>
    have := Guarded.decidable condition (step state action) actions
    inferInstanceAs (Decidable (condition state action ∧ _))

/-- A run of no action leaves the state. -/
@[simp] theorem run_nil (state : σ) : run step state [] = state := rfl

/-- The first action is taken first. -/
@[simp] theorem run_cons (state : σ) (action : α) (actions : List α) :
    run step state (action :: actions) = run step (step state action) actions := rfl

/-- A run can be cut in two. -/
theorem run_append (state : σ) (before after : List α) :
    run step state (before ++ after) = run step (run step state before) after :=
  List.foldl_append

variable {step}

/-- An invariant kept by the steps that meet a condition holds after every guarded run. -/
theorem guarded_invariant {condition : σ → α → Prop} {invariant : σ → Prop}
    (kept : ∀ state action, invariant state → condition state action →
      invariant (step state action))
    {state : σ} (start : invariant state) {actions : List α}
    (guarded : Guarded step condition state actions) : invariant (run step state actions) := by
  induction actions generalizing state with
  | nil => exact start
  | cons action actions ih => exact ih (kept state action start guarded.1) guarded.2

/-- An invariant kept by every step holds after every run. -/
theorem run_invariant {invariant : σ → Prop}
    (kept : ∀ state action, invariant state → invariant (step state action))
    {state : σ} (start : invariant state) (actions : List α) :
    invariant (run step state actions) := by
  induction actions generalizing state with
  | nil => exact start
  | cons action actions ih => exact ih (kept state action start)

/-- Where a condition keeps an invariant and implies another condition with it, the runs it guards
are guarded by the other too. -/
theorem guarded_implies {condition other : σ → α → Prop} {invariant : σ → Prop}
    (kept : ∀ state action, invariant state → condition state action →
      invariant (step state action))
    (implies : ∀ state action, invariant state → condition state action → other state action)
    {state : σ} (start : invariant state) {actions : List α}
    (guarded : Guarded step condition state actions) : Guarded step other state actions := by
  induction actions generalizing state with
  | nil => trivial
  | cons action actions ih =>
    exact ⟨implies state action start guarded.1, ih (kept state action start guarded.1) guarded.2⟩

/-- A condition that an invariant implies guards every run. -/
theorem guarded_of_invariant {condition : σ → α → Prop} {invariant : σ → Prop}
    (kept : ∀ state action, invariant state → invariant (step state action))
    (implies : ∀ state action, invariant state → condition state action)
    {state : σ} (start : invariant state) (actions : List α) :
    Guarded step condition state actions := by
  induction actions generalizing state with
  | nil => trivial
  | cons action actions ih => exact ⟨implies state action start, ih (kept state action start)⟩

/-- Two conditions that agree where an invariant holds, which the first one keeps, guard the same
runs. -/
theorem guarded_iff {condition other : σ → α → Prop} {invariant : σ → Prop}
    (kept : ∀ state action, invariant state → condition state action →
      invariant (step state action))
    (same : ∀ state action, invariant state → (condition state action ↔ other state action))
    {state : σ} (start : invariant state) (actions : List α) :
    Guarded step condition state actions ↔ Guarded step other state actions := by
  induction actions generalizing state with
  | nil => exact Iff.rfl
  | cons action actions ih =>
    constructor
    · rintro ⟨met, rest⟩
      exact ⟨(same state action start).mp met, (ih (kept state action start met)).mp rest⟩
    · rintro ⟨met, rest⟩
      have first := (same state action start).mpr met
      exact ⟨first, (ih (kept state action start first)).mpr rest⟩

/-- Where every step of a run is allowed, an invariant holds all along it exactly if the run is
guarded by the condition under which an allowed step keeps the invariant. -/
theorem allowed_along_iff {allowed condition : σ → α → Prop} {base invariant : σ → Prop}
    (based : ∀ state action, base state → base (step state action))
    (same : ∀ state action, base state → allowed state action → invariant state →
      (invariant (step state action) ↔ condition state action))
    {state : σ} (start : base state) (holds : invariant state) {actions : List α}
    (permitted : Guarded step allowed state actions) :
    (∀ reached, reached <+: actions → invariant (run step state reached)) ↔
      Guarded step condition state actions := by
  induction actions generalizing state with
  | nil =>
    refine iff_of_true (fun reached inside => ?_) trivial
    rw [List.prefix_nil.mp inside]
    exact holds
  | cons action actions ih =>
    have first := same state action start permitted.1 holds
    constructor
    · intro all
      have after : invariant (step state action) := all [action] ⟨actions, rfl⟩
      refine ⟨first.mp after,
        (ih (based state action start) after permitted.2).mp fun reached inside => ?_⟩
      exact all (action :: reached) (List.cons_prefix_cons.mpr ⟨rfl, inside⟩)
    · rintro ⟨met, rest⟩ reached inside
      have after := first.mpr met
      cases reached with
      | nil => exact holds
      | cons taken reached =>
        obtain ⟨rfl, shorter⟩ := List.cons_prefix_cons.mp inside
        exact (ih (based state taken start) after permitted.2).mpr rest reached shorter

/-- An invariant holds all along a run exactly if the run is guarded by the condition under which a
step keeps it. -/
theorem along_iff {condition : σ → α → Prop} {invariant : σ → Prop}
    (same : ∀ state action, invariant state →
      (invariant (step state action) ↔ condition state action))
    {state : σ} (holds : invariant state) (actions : List α) :
    (∀ reached, reached <+: actions → invariant (run step state reached)) ↔
      Guarded step condition state actions :=
  @allowed_along_iff _ _ step (fun _ _ => True) condition (fun _ => True) invariant
    (fun _ _ _ => trivial) (fun state action _ _ => same state action) state trivial holds actions
    (@guarded_of_invariant _ _ step (fun _ _ => True) (fun _ => True) (fun _ _ _ => trivial)
      (fun _ _ _ => trivial) state trivial actions)

end Talk.Transition
