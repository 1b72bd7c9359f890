import Mathlib.Data.List.Basic

/-!
# Statements that may fail

A script is a list of labelled statements on a state. Each statement leaves a new state or is
refused, and a choice of labels says which ones fail on top of that. A script stops at the first
statement that fails, and the state stays as the ones before it have left it: nothing is undone.
-/

namespace Talk.Script

variable {σ ι : Type}

/-- A statement: the state it leaves, or none when it is refused. -/
abbrev Statement (σ : Type) := σ → Option σ

/-- Run statements until one fails: whether all have succeeded, and the state that is left. -/
def execute (fails : ι → Bool) : List (ι × Statement σ) → σ → Bool × σ
  | [], state => (true, state)
  | (label, statement) :: rest, state =>
    if fails label then (false, state)
    else match statement state with
    | none => (false, state)
    | some next => execute fails rest next

/-- No statement is refused when none fails. -/
def Accepted : List (ι × Statement σ) → σ → Prop
  | [], _ => True
  | (_, statement) :: rest, state => ∃ next, statement state = some next ∧ Accepted rest next

/-- A statement fails before any has changed the state. -/
def StopsUnchanged (fails : ι → Bool) : List (ι × Statement σ) → σ → Prop
  | [], _ => False
  | (label, statement) :: rest, state => fails label = true ∨ statement state = none ∨
      (statement state = some state ∧ StopsUnchanged fails rest state)

/-- One statement and those after it. -/
theorem execute_cons (fails : ι → Bool) (label : ι) (statement : Statement σ)
    (rest : List (ι × Statement σ)) (state : σ) :
    ((fails label = true ∨ statement state = none) ∧
      execute fails ((label, statement) :: rest) state = (false, state)) ∨
    ∃ next, fails label = false ∧ statement state = some next ∧
      execute fails ((label, statement) :: rest) state = execute fails rest next := by
  rw [execute]
  cases chosen : fails label with
  | true => exact .inl ⟨.inl rfl, if_pos rfl⟩
  | false =>
    rw [if_neg Bool.false_ne_true]
    cases done : statement state with
    | none => exact .inl ⟨.inr rfl, rfl⟩
    | some next => exact .inr ⟨next, rfl, rfl, rfl⟩

/-- Statements that are not refused all succeed exactly if none is chosen to fail. -/
theorem execute_succeeds_iff {fails : ι → Bool} {script : List (ι × Statement σ)} {state : σ}
    (accepted : Accepted script state) :
    (execute fails script state).1 = true ↔ ∀ step ∈ script, fails step.1 = false := by
  induction script generalizing state with
  | nil => exact iff_of_true rfl nofun
  | cons head rest ih =>
    obtain ⟨label, statement⟩ := head
    obtain ⟨next, done, more⟩ := accepted
    rw [List.forall_mem_cons]
    rcases execute_cons fails label statement rest state with
      ⟨failed | refused, stopped⟩ | ⟨other, passes, otherDone, same⟩
    · rw [stopped, failed]
      exact iff_of_false Bool.false_ne_true fun all => nomatch all.1
    · rw [done] at refused
      cases refused
    · obtain rfl : next = other := Option.some.inj (done.symm.trans otherDone)
      rw [same, ih more]
      exact ⟨fun all => ⟨passes, all⟩, fun all => all.2⟩

/-- A measure that no statement lowers is not lowered by a script. -/
theorem measure_execute (fails : ι → Bool) {measure : σ → Nat} {script : List (ι × Statement σ)}
    (rises : ∀ step ∈ script, ∀ state next, step.2 state = some next →
      measure state ≤ measure next) (state : σ) :
    measure state ≤ measure (execute fails script state).2 := by
  induction script generalizing state with
  | nil => exact Nat.le_refl _
  | cons head rest ih =>
    obtain ⟨label, statement⟩ := head
    rcases execute_cons fails label statement rest state with
      ⟨-, stopped⟩ | ⟨next, -, done, same⟩
    · have kept : measure (execute fails ((label, statement) :: rest) state).2 = measure state := by
        rw [stopped]
      exact Nat.le_of_eq kept.symm
    · rw [same]
      exact Nat.le_trans (rises _ List.mem_cons_self state next done)
        (ih (fun step member => rises step (List.mem_cons_of_mem _ member)) next)

/-- A script whose first statement raises a measure that none lowers, and whose others are not
refused, leaves the state as it was whenever it fails exactly if its first statement fails or no
other does. -/
theorem execute_atomic_iff (fails : ι → Bool) {measure : σ → Nat} {label : ι}
    {first : Statement σ} {rest : List (ι × Statement σ)} {state : σ}
    (strict : ∀ next, first state = some next → measure state < measure next)
    (rises : ∀ step ∈ rest, ∀ state next, step.2 state = some next →
      measure state ≤ measure next)
    (accepted : ∀ next, first state = some next → Accepted rest next) :
    ((execute fails ((label, first) :: rest) state).1 = false →
      (execute fails ((label, first) :: rest) state).2 = state) ↔
      fails label = true ∨ first state = none ∨ ∀ step ∈ rest, fails step.1 = false := by
  rcases execute_cons fails label first rest state with
    ⟨stops, stopped⟩ | ⟨next, passes, done, same⟩
  · rw [stopped]
    refine iff_of_true (fun _ => rfl) ?_
    rcases stops with failed | refused
    · exact .inl failed
    · exact .inr (.inl refused)
  · have changed : (execute fails rest next).2 ≠ state := by
      intro unchanged
      have low := strict next done
      have high := measure_execute fails rises next
      rw [unchanged] at high
      omega
    rw [same, ← execute_succeeds_iff (accepted next done), passes, done]
    simp [changed]

/-- A script of statements that leave the state or lower a measure leaves it as it was, when it
fails, exactly if it fails before any statement has changed the state. -/
theorem execute_stops_iff (fails : ι → Bool) {measure : σ → Nat} {script : List (ι × Statement σ)}
    (falls : ∀ step ∈ script, ∀ state next, step.2 state = some next →
      next = state ∨ measure next < measure state) {state : σ}
    (failed : (execute fails script state).1 = false) :
    (execute fails script state).2 = state ↔ StopsUnchanged fails script state := by
  have lowers : ∀ (script : List (ι × Statement σ)), (∀ step ∈ script, ∀ state next,
      step.2 state = some next → next = state ∨ measure next < measure state) → ∀ state,
      measure (execute fails script state).2 ≤ measure state := by
    intro script falls
    induction script with
    | nil => exact fun state => Nat.le_refl _
    | cons head rest ih =>
      intro state
      obtain ⟨label, statement⟩ := head
      rcases execute_cons fails label statement rest state with
        ⟨-, stopped⟩ | ⟨next, -, done, same⟩
      · have kept : measure (execute fails ((label, statement) :: rest) state).2 =
            measure state := by
          rw [stopped]
        exact Nat.le_of_eq kept
      · rw [same]
        have later := ih (fun step member => falls step (List.mem_cons_of_mem _ member)) next
        rcases falls _ List.mem_cons_self state next done with rfl | less
        · exact later
        · omega
  induction script with
  | nil => cases failed
  | cons head rest ih =>
    obtain ⟨label, statement⟩ := head
    have restFalls := fun step member => falls step (List.mem_cons_of_mem _ member)
    rcases execute_cons fails label statement rest state with
      ⟨stops, stopped⟩ | ⟨next, passes, done, same⟩
    · rw [stopped]
      refine iff_of_true rfl ?_
      rcases stops with chosen | refused
      · exact .inl chosen
      · exact .inr (.inl refused)
    · rw [same] at failed ⊢
      rw [StopsUnchanged, passes, done]
      rcases falls _ List.mem_cons_self state next done with rfl | less
      · simp [ih restFalls failed]
      · have later := lowers rest restFalls next
        refine iff_of_false (fun unchanged => ?_) ?_
        · rw [unchanged] at later
          omega
        · rintro (chosen | refused | ⟨kept, -⟩)
          · cases chosen
          · cases refused
          · rw [Option.some.inj kept] at less
            omega

end Talk.Script
