import Talk.Lib.Interleaving

/-!
# Programs of atomic operations

A program asks a shared state for one atomic operation after another and goes on with the answers.
Alone it runs to its end. In a pool the operations of others come between its own: what the rules
allow anybody to do is all it can rely on there, and it keeps to them if each of its operations is
one it may do.
-/

namespace Talk

variable {Op : Type} {Answer : Op → Type} {σ α β : Type}

/-- A program with a result. -/
inductive Program (Answer : Op → Type) (α : Type) where
  /-- It has ended. -/
  | done (value : α)
  /-- It asks for an operation, and goes on with the answer. -/
  | ask (op : Op) (next : Answer op → Program Answer α)

namespace Program

/-- One program after the other. -/
def bind : Program Answer α → (α → Program Answer β) → Program Answer β
  | .done value, more => more value
  | .ask op next, more => .ask op fun answer => (next answer).bind more

instance : Monad (Program Answer) where
  pure := .done
  bind := bind

/-- A single operation. -/
def one (op : Op) : Program Answer (Answer op) := .ask op .done

/-! ## Alone -/

variable (exec : (op : Op) → σ → Answer op × σ)

/-- The result of a program that nobody disturbs, and the state after it. -/
def alone : Program Answer α → σ → α × σ
  | .done value, state => (value, state)
  | .ask op next, state => (next (exec op state).1).alone (exec op state).2

/-- Alone, programs run one after the other. -/
@[simp] theorem alone_bind (program : Program Answer α) (more : α → Program Answer β) (state : σ) :
    alone exec (program >>= more) state =
      alone exec (more (alone exec program state).1) (alone exec program state).2 := by
  induction program generalizing state with
  | done value => rfl
  | ask op next ih => exact ih (exec op state).1 (exec op state).2

/-- Alone, a change of the result is one. -/
@[simp] theorem alone_map (change : α → β) (program : Program Answer α) (state : σ) :
    alone exec (change <$> program) state =
      (change (alone exec program state).1, (alone exec program state).2) :=
  alone_bind exec program _ state

/-- Alone, the branch that is taken runs. -/
@[simp] theorem alone_ite (condition : Prop) [Decidable condition] (yes no : Program Answer α)
    (state : σ) : alone exec (if condition then yes else no) state =
      if condition then alone exec yes state else alone exec no state := by
  split
  · rfl
  · rfl

/-- A program takes its next operation. -/
def step (state : σ) : Program Answer α → σ × Program Answer α
  | .done value => (state, .done value)
  | .ask op next => ((exec op state).2, next (exec op state).1)

/-! ## Among others -/

/-- What holds at all times, and what anybody may have done since. -/
structure Rules (σ : Type) where
  /-- The states there are. -/
  sound : σ → Prop
  /-- A state may come after another. -/
  later : σ → σ → Prop
  /-- Nothing may have happened. -/
  refl : ∀ state, later state state
  /-- Much may have happened. -/
  trans : ∀ {first second third}, later first second → later second third → later first third

variable (rules : Rules σ) (allowed : σ → Op → Prop)

/-- A program that is at a state keeps to the operations it is allowed, whatever others do between
them, and ends with a result that is as promised in every state that may come after. -/
def Keeps (promise : α → σ → Prop) : Program Answer α → σ → Prop
  | .done value, state => ∀ after, rules.later state after → rules.sound after →
      promise value after
  | .ask op next, state => ∀ after, rules.later state after → rules.sound after →
      allowed after op ∧ (next (exec op after).1).Keeps promise (exec op after).2

/-- The operations that are allowed keep the rules. -/
structure Rules.Lawful (rules : Rules σ) (exec : (op : Op) → σ → Answer op × σ)
    (allowed : σ → Op → Prop) : Prop where
  /-- The state stays sound. -/
  sound : ∀ {state op}, rules.sound state → allowed state op → rules.sound (exec op state).2
  /-- It may come after. -/
  later : ∀ {state op}, rules.sound state → allowed state op →
    rules.later state (exec op state).2

variable {exec rules allowed} {promise : α → σ → Prop}

/-- Others do not make a program break its promise. -/
theorem Keeps.stable {program : Program Answer α} {state after : σ}
    (keeps : program.Keeps exec rules allowed promise state) (later : rules.later state after) :
    program.Keeps exec rules allowed promise after := by
  cases program with
  | done value => exact fun last reached sound => keeps last (rules.trans later reached) sound
  | ask op next => exact fun last reached sound => keeps last (rules.trans later reached) sound

/-- A promise that is met here and stays met is kept without an operation. -/
theorem keeps_pure {value : α} {state : σ}
    (met : ∀ after, rules.later state after → rules.sound after → promise value after) :
    (pure value : Program Answer α).Keeps exec rules allowed promise state := met

/-- A single operation that is allowed. -/
theorem keeps_one {op : Op} {promise : Answer op → σ → Prop} {state : σ}
    (meets : ∀ after, rules.later state after → rules.sound after →
      allowed after op ∧ ∀ last, rules.later (exec op after).2 last →
        rules.sound last → promise (exec op after).1 last) :
    (one op : Program Answer (Answer op)).Keeps exec rules allowed promise state := meets

/-- Programs that keep to the rules do so one after the other: the second relies on what the first
one promises. -/
theorem Keeps.bind (lawful : rules.Lawful exec allowed) {program : Program Answer α}
    {more : α → Program Answer β} {last : β → σ → Prop} {state : σ} (sound : rules.sound state)
    (first : program.Keeps exec rules allowed promise state)
    (second : ∀ value after, rules.sound after → promise value after →
      (more value).Keeps exec rules allowed last after) :
    (program >>= more).Keeps exec rules allowed last state := by
  induction program generalizing state with
  | done value => exact second value state sound (first state (rules.refl state) sound)
  | ask op next ih =>
    intro after later soundAfter
    obtain ⟨granted, rest⟩ := first after later soundAfter
    exact ⟨granted, ih _ (lawful.sound soundAfter granted) rest⟩

/-! ## Two states -/

/-- Operations that are allowed return the same from states that look alike, and leave states that
do. -/
def Blind (exec : (op : Op) → σ → Answer op × σ) (sound : σ → Prop) (allowed : σ → Op → Prop)
    (alike : σ → σ → Prop) : Prop :=
  ∀ {left right op}, sound left → allowed left op → alike left right →
    (exec op right).1 = (exec op left).1 ∧ alike (exec op left).2 (exec op right).2

/-- From states that look alike a program goes on the same way. -/
theorem Keeps.step_alike {alike : σ → σ → Prop} (blind : Blind exec rules.sound allowed alike)
    {program : Program Answer α} {left right : σ}
    (keeps : program.Keeps exec rules allowed promise left) (sound : rules.sound left)
    (same : alike left right) : (program.step exec right).2 = (program.step exec left).2 := by
  cases program with
  | done value => rfl
  | ask op next =>
    have granted := (keeps left (rules.refl left) sound).1
    exact congrArg next (blind sound granted same).1

end Program

end Talk
