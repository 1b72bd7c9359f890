import Mathlib.Data.Nat.Init
import Talk.Lib.ByteStream

/-!
# Loops that need not end

A loop is one pass: a function from the state before the pass to the state after it, or to the
result with which the loop is left. A loop ends when finitely many passes lead to a result. The
rules relate the passes to the result, and show that a loop does not end by states that the passes
never leave.

A program that repeats its turns over a state runs on fuel. Where a measure bounds the turns, the
fuel the measure gives is enough, and the program is unfolded one turn at a time.
-/

namespace Talk.Loop

/-- What one pass of a loop comes to. -/
inductive Pass (σ α : Type) where
  /-- The loop goes on. -/
  | next (state : σ)
  /-- The loop is left. -/
  | exit (result : α)
  deriving DecidableEq

variable {σ α : Type} (pass : σ → Pass σ α)

/-- Finitely many passes lead to a result. -/
inductive Exits : σ → α → Prop where
  /-- The loop is left in this pass. -/
  | now {state : σ} {result : α} (left : pass state = .exit result) : Exits state result
  /-- The loop is left in a later pass. -/
  | later {state after : σ} {result : α} (goes : pass state = .next after)
      (rest : Exits after result) : Exits state result

/-- The loop ends. -/
def Ends (state : σ) : Prop := ∃ result, Exits pass state result

/-- Passes lead from one state to another. -/
inductive Reaches : σ → σ → Prop where
  /-- No pass is made. -/
  | refl (state : σ) : Reaches state state
  /-- A first pass is made. -/
  | step {state after last : σ} (goes : pass state = .next after) (rest : Reaches after last) :
      Reaches state last

variable {pass}

/-- A pass that goes on leads to the same results. -/
theorem exits_next {state after : σ} {result : α} (goes : pass state = .next after) :
    Exits pass state result ↔ Exits pass after result := by
  constructor
  · intro exits
    cases exits with
    | now left => exact absurd (goes.symm.trans left) (by simp)
    | later other rest =>
      have same := Pass.next.inj (goes.symm.trans other)
      exact same ▸ rest
  · exact .later goes

/-- A pass that goes on does not change whether the loop ends. -/
theorem ends_next {state after : σ} (goes : pass state = .next after) :
    Ends pass state ↔ Ends pass after :=
  exists_congr fun _ => exits_next goes

/-- A loop has one result. -/
theorem Exits.unique {state : σ} {one other : α} (first : Exits pass state one)
    (second : Exits pass state other) : one = other := by
  induction first with
  | now left =>
    cases second with
    | now again => exact Pass.exit.inj (left.symm.trans again)
    | later goes => exact absurd (left.symm.trans goes) (by simp)
  | later goes _ ih => exact ih ((exits_next goes).mp second)

/-- The results are those of a state that passes lead to. -/
theorem Reaches.exits_iff {state last : σ} {result : α} (reaches : Reaches pass state last) :
    Exits pass state result ↔ Exits pass last result := by
  induction reaches with
  | refl => exact Iff.rfl
  | step goes _ ih => exact (exits_next goes).trans ih

/-- Passes on the way do not change whether the loop ends. -/
theorem Reaches.ends_iff {state last : σ} (reaches : Reaches pass state last) :
    Ends pass state ↔ Ends pass last :=
  exists_congr fun _ => reaches.exits_iff

/-- More passes can be made at the end. -/
theorem Reaches.trans {first second third : σ} (before : Reaches pass first second)
    (after : Reaches pass second third) : Reaches pass first third := by
  induction before with
  | refl => exact after
  | step goes _ ih => exact .step goes (ih after)

/-- A loop that is left comes to a state in which it is. -/
theorem Exits.reaches {state : σ} {result : α} (exits : Exits pass state result) :
    ∃ last, Reaches pass state last ∧ pass last = .exit result := by
  induction exits with
  | now left => exact ⟨_, .refl _, left⟩
  | later goes _ ih =>
    obtain ⟨last, reaches, left⟩ := ih
    exact ⟨last, .step goes reaches, left⟩

/-- The passes of an inner loop are passes of the loop around it. -/
theorem Reaches.within {τ β : Type} {outer : τ → Pass τ β} (place : σ → τ)
    (inner : ∀ state after, pass state = .next after → outer (place state) = .next (place after))
    {state last : σ} (reaches : Reaches pass state last) :
    Reaches outer (place state) (place last) := by
  induction reaches with
  | refl => exact .refl _
  | step goes _ ih => exact .step (inner _ _ goes) ih

/-- A loop does not end in states where every pass goes on to another of them. -/
theorem not_ends_of_closed {stuck : σ → Prop}
    (closed : ∀ state, stuck state → ∃ after, pass state = .next after ∧ stuck after)
    {state : σ} (start : stuck state) : ¬Ends pass state := by
  rintro ⟨result, exits⟩
  induction exits with
  | @now state _ left =>
    obtain ⟨after, goes, _⟩ := closed state start
    exact absurd (goes.symm.trans left) (by simp)
  | @later state next _ goes _ ih =>
    obtain ⟨after, again, still⟩ := closed state start
    have same : after = next := Pass.next.inj (again.symm.trans goes)
    exact ih (same ▸ still)

/-- What every pass keeps holds in every state that passes lead to. -/
theorem Reaches.invariant {invariant : σ → Prop}
    (kept : ∀ state after, invariant state → pass state = .next after → invariant after)
    {state last : σ} (start : invariant state) (reaches : Reaches pass state last) :
    invariant last := by
  induction reaches with
  | refl => exact start
  | step goes _ ih => exact ih (kept _ _ start goes)

/-! ## Programs on fuel -/

section Fuel

variable {ε σ : Type}

/-- Repeat a turn while it returns `true`, for at most `fuel` turns. -/
def repeatWhile (turn : EStateM ε σ Bool) : Nat → EStateM ε σ Unit
  | 0 => pure ()
  | fuel + 1 => do
    match ← turn with
    | false => pure ()
    | true => repeatWhile turn fuel

/-- Every turn that goes on lowers the measure. -/
def Lowers (measure : σ → Nat) (turn : EStateM ε σ Bool) : Prop :=
  ∀ state after, turn.run state = .ok true after → measure after < measure state

/-- The loop with the fuel that its measure gives. -/
def drain (measure : σ → Nat) (turn : EStateM ε σ Bool) (state : σ) : EStateM.Result ε σ Unit :=
  (repeatWhile turn (measure state + 1)).run state

variable {measure : σ → Nat} {turn : EStateM ε σ Bool} {state after : σ}

/-- Fuel above the measure does not change the loop. -/
theorem repeatWhile_enough (lowers : Lowers measure turn) {fuel other : Nat}
    (enough : measure state < fuel) (enoughOther : measure state < other) :
    (repeatWhile turn fuel).run state = (repeatWhile turn other).run state := by
  induction fuel generalizing other state with
  | zero => exact absurd enough (Nat.not_lt_zero _)
  | succ fuel ih =>
    cases other with
    | zero => exact absurd enoughOther (Nat.not_lt_zero _)
    | succ other =>
      simp only [repeatWhile, EStateM.run_bind]
      cases done : turn.run state with
      | error error after => rfl
      | ok goesOn after =>
        cases goesOn with
        | false => rfl
        | true =>
          have lower := lowers state after done
          exact ih (by omega) (by omega)

/-- A turn that goes on is followed by the loop. -/
theorem drain_turn (lowers : Lowers measure turn) (done : turn.run state = .ok true after) :
    drain measure turn state = drain measure turn after := by
  have lower := lowers state after done
  unfold drain
  rw [repeatWhile, EStateM.run_bind, done]
  exact repeatWhile_enough lowers (by omega) (by omega)

/-- A turn that does not go on ends the loop. -/
theorem drain_stop (done : turn.run state = .ok false after) :
    drain measure turn state = .ok () after := by
  simp only [drain, repeatWhile, EStateM.run_bind, done, EStateM.run_pure]

/-- A turn that fails ends the loop. -/
theorem drain_error {error : ε} (failed : turn.run state = .error error after) :
    drain measure turn state = .error error after := by
  simp only [drain, repeatWhile, EStateM.run_bind, failed]

/-- A relation that every turn respects is respected by the loop. -/
theorem repeatWhile_related {related : σ → σ → Prop} (refl : ∀ state, related state state)
    (trans : ∀ {first second third}, related first second → related second third →
      related first third)
    (step : ∀ state, related state (ByteStream.final (turn.run state))) (fuel : Nat) (state : σ) :
    related state (ByteStream.final ((repeatWhile turn fuel).run state)) := by
  induction fuel generalizing state with
  | zero => exact refl state
  | succ fuel ih =>
    have first := step state
    rw [repeatWhile, EStateM.run_bind]
    cases done : turn.run state with
    | error error after =>
      rw [done] at first
      exact first
    | ok goesOn after =>
      rw [done] at first
      cases goesOn with
      | false => exact first
      | true => exact trans first (ih after)

end Fuel

end Talk.Loop
