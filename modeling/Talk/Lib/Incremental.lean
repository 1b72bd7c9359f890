import Mathlib.Data.Nat.Init

/-!
# Readers of a growing input

A reader holds the input that it has not used yet, and its steps emit events. A step that the input
allows stays the same when more input arrives. So what is read of an input does not depend on when
its parts arrive: every way of reading it that comes to rest emits the same events and comes to rest
in the same state.
-/

namespace Talk.Incremental

variable {σ ε : Type} (step : σ → Option (List ε × σ))

/-! ## Steps -/

/-- Steps lead from one state to another and emit these events. -/
inductive Reads : σ → List ε → σ → Prop where
  /-- No step is made. -/
  | refl (state : σ) : Reads state [] state
  /-- A first step is made. -/
  | next {state after last : σ} {now later : List ε} (goes : step state = some (now, after))
      (rest : Reads after later last) : Reads state (now ++ later) last

/-- No step can be made. -/
def Rests (state : σ) : Prop := step state = none

/-- What is emitted in so many steps, and the state after them. -/
def read : Nat → σ → List ε × σ
  | 0, state => ([], state)
  | steps + 1, state =>
    match step state with
    | none => ([], state)
    | some (now, after) =>
      let (later, last) := read steps after
      (now ++ later, last)

variable {step}

/-- One step is a reading. -/
theorem Reads.single {state after : σ} {events : List ε}
    (goes : step state = some (events, after)) :
    Reads step state events after := by
  have one := Reads.next goes (.refl after)
  rwa [List.append_nil] at one

/-- More steps can be made at the end. -/
theorem Reads.trans {first second third : σ} {before after : List ε}
    (front : Reads step first before second) (back : Reads step second after third) :
    Reads step first (before ++ after) third := by
  induction front with
  | refl => exact back
  | next goes _ ih =>
    rw [List.append_assoc]
    exact .next goes (ih back)

/-- The steps to a state of rest go through every state that steps lead to. -/
theorem Reads.residue {state last middle : σ} {events before : List ε}
    (whole : Reads step state events last) (rests : Rests step last)
    (part : Reads step state before middle) :
    ∃ after, events = before ++ after ∧ Reads step middle after last := by
  induction part generalizing events with
  | refl => exact ⟨events, rfl, whole⟩
  | next goes _ ih =>
    cases whole with
    | refl =>
      rw [Rests, goes] at rests
      cases rests
    | next also rest =>
      obtain ⟨rfl, rfl⟩ := Prod.mk.inj (Option.some.inj (goes.symm.trans also))
      obtain ⟨after, rfl, reads⟩ := ih rest
      exact ⟨after, (List.append_assoc ..).symm, reads⟩

/-- From a state of rest no step leads. -/
theorem Reads.of_rests {state last : σ} {events : List ε} (reads : Reads step state events last)
    (rests : Rests step state) : events = [] ∧ last = state := by
  cases reads with
  | refl => exact ⟨rfl, rfl⟩
  | next goes =>
    rw [Rests, goes] at rests
    cases rests

/-- All ways to come to rest emit the same events and lead to the same state. -/
theorem Reads.unique {state one other : σ} {first second : List ε}
    (here : Reads step state first one) (rests : Rests step one)
    (there : Reads step state second other) (also : Rests step other) :
    first = second ∧ one = other := by
  obtain ⟨after, rfl, reads⟩ := here.residue rests there
  obtain ⟨rfl, rfl⟩ := reads.of_rests also
  exact ⟨List.append_nil second, rfl⟩

/-- What is read in a number of steps. -/
theorem reads_read (steps : Nat) (state : σ) :
    Reads step state (read step steps state).1 (read step steps state).2 := by
  induction steps generalizing state with
  | zero => exact .refl state
  | succ steps ih =>
    rw [read]
    cases goes : step state with
    | none => exact .refl state
    | some pair => exact .next goes (ih pair.2)

/-! ## Coming to rest -/

section

variable (measure : σ → Nat)
  (decreases : ∀ state now after, step state = some (now, after) → measure after < measure state)
include decreases

/-- Steps lessen what can be read. -/
theorem Reads.measure_le {state last : σ} {events : List ε}
    (reads : Reads step state events last) : measure last ≤ measure state := by
  induction reads with
  | refl => exact Nat.le_refl _
  | next goes _ ih => exact Nat.le_trans ih (Nat.le_of_lt (decreases _ _ _ goes))

/-- Steps that lead back to their state are none. -/
theorem Reads.eq_nil {state : σ} {events : List ε} (reads : Reads step state events state) :
    events = [] := by
  cases reads with
  | refl => rfl
  | next goes rest =>
    have less := decreases _ _ _ goes
    have least := rest.measure_le measure decreases
    omega

/-- With enough steps, reading comes to rest. -/
theorem rests_read {steps : Nat} {state : σ} (enough : measure state ≤ steps) :
    Rests step (read step steps state).2 := by
  induction steps generalizing state with
  | zero =>
    rw [read, Rests]
    cases goes : step state with
    | none => rfl
    | some pair =>
      have less := decreases _ _ _ goes
      omega
  | succ steps ih =>
    rw [read]
    cases goes : step state with
    | none => exact goes
    | some pair =>
      have less := decreases _ _ _ goes
      exact ih (by omega)

end

/-! ## More input -/

/-- More input can be added to a state, and leaves the steps that it can make. -/
structure Growing {δ : Type} (step : σ → Option (List ε × σ)) (more : σ → List δ → σ) : Prop where
  /-- No input changes nothing. -/
  nil : ∀ state, more state [] = state
  /-- Input can be added in parts. -/
  append : ∀ state first second, more state (first ++ second) = more (more state first) second
  /-- A step that can be made stays the same. -/
  stable : ∀ state now after data, step state = some (now, after) →
    step (more state data) = some (now, more after data)

/-- What is read is read with more input too. -/
theorem Reads.more {δ : Type} {more : σ → List δ → σ} (growing : Growing step more) {state last : σ}
    {events : List ε} (reads : Reads step state events last) (data : List δ) :
    Reads step (more state data) events (more last data) := by
  induction reads with
  | refl => exact .refl _
  | next goes _ ih => exact .next (growing.stable _ _ _ data goes) ih

end Talk.Incremental
