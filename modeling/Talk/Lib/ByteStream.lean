import Mathlib.Data.List.Infix
import Talk.Lib.Utf8

/-!
# Programs over a byte stream

One end of a connection is the list of bytes still to be read from the peer, after which the
stream ends, and the list of bytes written so far. A program over it is an `EStateM`
computation, so that a failing program keeps the bytes it has consumed and written. The lemmas
say what reading up to a delimiter returns: on a list that holds a delimiter, and on a list that
ends before one.
-/

namespace Talk.ByteStream

/-- One end of a connection. -/
structure Conn where
  /-- Bytes not yet read; after the last one the peer has closed the stream. -/
  input : List UInt8
  /-- Bytes written so far. -/
  output : List UInt8
  deriving DecidableEq

/-- Append bytes to the output. -/
def Conn.write (conn : Conn) (data : List UInt8) : Conn :=
  { conn with output := conn.output ++ data }

/-- Writing leaves the input alone. -/
@[simp] theorem Conn.write_input (conn : Conn) (data : List UInt8) :
    (conn.write data).input = conn.input := rfl

/-- Writing appends to the output. -/
@[simp] theorem Conn.write_output (conn : Conn) (data : List UInt8) :
    (conn.write data).output = conn.output ++ data := rfl

/-- The state a computation ends in, whether it returns or fails. -/
def final {ε σ α : Type} : EStateM.Result ε σ α → σ
  | .ok _ state => state
  | .error _ state => state

/-- A returned result ends in its state. -/
@[simp] theorem final_ok {ε σ α : Type} (value : α) (state : σ) :
    final (.ok value state : EStateM.Result ε σ α) = state := rfl

/-- A failure ends in its state. -/
@[simp] theorem final_error {ε σ α : Type} (error : ε) (state : σ) :
    final (.error error state : EStateM.Result ε σ α) = state := rfl

/-- Failing leaves the state as it is. -/
@[simp] theorem run_throw {ε σ α : Type} (error : ε) (state : σ) :
    EStateM.run (throw error : EStateM ε σ α) state = .error error state := rfl

/-- A sequence returns when its first part returns and the second one returns from there. -/
theorem run_bind_ok {ε σ α β : Type} {first : EStateM ε σ α} {second : α → EStateM ε σ β}
    {state after : σ} {result : β} :
    (first >>= second).run state = .ok result after ↔
      ∃ value middle, first.run state = .ok value middle ∧
        (second value).run middle = .ok result after := by
  rw [EStateM.run_bind]
  cases first.run state <;> simp

/-- A first part that returns is followed by the second. -/
theorem run_bind_of_ok {ε σ α β : Type} {first : EStateM ε σ α} {second : α → EStateM ε σ β}
    {state middle : σ} {value : α} (done : first.run state = .ok value middle) :
    (first >>= second).run state = (second value).run middle := by
  rw [EStateM.run_bind, done]

/-- A first part that fails ends the sequence. -/
theorem run_bind_of_error {ε σ α β : Type} {first : EStateM ε σ α} {second : α → EStateM ε σ β}
    {state after : σ} {error : ε} (failed : first.run state = .error error after) :
    (first >>= second).run state = .error error after := by
  rw [EStateM.run_bind, failed]

/-- The bytes up to and including the first delimiter, and the rest; all bytes when no
delimiter follows. -/
def readUntil (delim : UInt8) : List UInt8 → List UInt8 × List UInt8
  | [] => ([], [])
  | byte :: rest =>
    if byte = delim then ([byte], rest)
    else (byte :: (readUntil delim rest).1, (readUntil delim rest).2)

/-- What is read up to a delimiter, and what is left, are the input. -/
theorem readUntil_append (delim : UInt8) (input : List UInt8) :
    (readUntil delim input).1 ++ (readUntil delim input).2 = input := by
  induction input with
  | nil => rfl
  | cons byte rest ih =>
    rw [readUntil]
    split
    · rfl
    · simp [ih]

/-- A delimiter that follows a delimiter-free list ends the read there. -/
theorem readUntil_delim {delim : UInt8} {line : List UInt8} (free : delim ∉ line)
    (rest : List UInt8) : readUntil delim (line ++ delim :: rest) = (line ++ [delim], rest) := by
  induction line with
  | nil => simp [readUntil]
  | cons byte line ih =>
    simp only [List.mem_cons, not_or] at free
    simp [readUntil, Ne.symm free.1, ih free.2]

/-- Without a delimiter the read takes everything. -/
theorem readUntil_free {delim : UInt8} {input : List UInt8} (free : delim ∉ input) :
    readUntil delim input = (input, []) := by
  induction input with
  | nil => rfl
  | cons byte input ih =>
    simp only [List.mem_cons, not_or] at free
    simp [readUntil, Ne.symm free.1, ih free.2]

/-! ## Programs that only go forward

A program over a state that holds one end of a connection never puts bytes back into its input
and never takes back what it has written. -/

section Forward

variable {ε σ α β : Type} {view : σ → Conn}

/-- The program consumes from the front of the input and appends to the output. -/
def Forward (view : σ → Conn) (program : EStateM ε σ α) : Prop :=
  ∀ state, (view (final (program.run state))).input <:+ (view state).input ∧
    (view state).output <+: (view (final (program.run state))).output

/-- Returning a value goes forward: it reads nothing. -/
theorem forward_pure (value : α) : Forward view (pure value : EStateM ε σ α) :=
  fun _ => ⟨List.suffix_rfl, List.prefix_rfl⟩

/-- Failing goes forward: it reads nothing. -/
theorem forward_throw (error : ε) : Forward view (throw error : EStateM ε σ α) :=
  fun _ => ⟨List.suffix_rfl, List.prefix_rfl⟩

/-- Looking at the state goes nowhere. -/
theorem forward_get : Forward view (get : EStateM ε σ σ) :=
  fun _ => ⟨List.suffix_rfl, List.prefix_rfl⟩

/-- Changing the rest of the state goes nowhere. -/
theorem forward_modify {change : σ → σ} (same : ∀ state, view (change state) = view state) :
    Forward view (modify change : EStateM ε σ Unit) := by
  intro state
  change (view (change state)).input <:+ _ ∧ _ <+: (view (change state)).output
  rw [same]
  exact ⟨List.suffix_rfl, List.prefix_rfl⟩

/-- Going forward twice goes forward. -/
theorem forward_bind {first : EStateM ε σ α} {second : α → EStateM ε σ β}
    (one : Forward view first) (two : ∀ value, Forward view (second value)) :
    Forward view (first >>= second) := by
  intro state
  have step := one state
  rw [EStateM.run_bind]
  cases done : first.run state with
  | error error after => simpa only [done, final_error] using step
  | ok value middle =>
    rw [done, final_ok] at step
    have next := two value middle
    exact ⟨next.1.trans step.1, step.2.trans next.2⟩

/-- What the first part of a sequence has written stays written. -/
theorem forward_extends {first : EStateM ε σ α} {second : α → EStateM ε σ β}
    (two : ∀ value, Forward view (second value)) (state : σ) :
    (view (final (first.run state))).output <+:
      (view (final ((first >>= second).run state))).output := by
  rw [EStateM.run_bind]
  cases first.run state with
  | error error after => exact List.prefix_rfl
  | ok value middle => exact (two value middle).2

/-- A program that goes forward leaves no more input than it found. -/
theorem input_le_of_forward {program : EStateM ε σ α} (forward : Forward view program)
    {state after : σ} {value : α} (done : program.run state = .ok value after) :
    (view after).input.length ≤ (view state).input.length := by
  have step := (forward state).1.length_le
  rw [done] at step
  exact step

/-- A choice between two programs that go forward. -/
theorem forward_ite {condition : Prop} [Decidable condition] {yes no : EStateM ε σ α}
    (one : Forward view yes) (two : Forward view no) :
    Forward view (if condition then yes else no) := by
  split
  · exact one
  · exact two

end Forward

/-! ## Programs that do not look at the end

A program that returns has read what it needs: it returns the same when more bytes follow. -/

/-- More input. -/
def Conn.extend (conn : Conn) (more : List UInt8) : Conn :=
  { conn with input := conn.input ++ more }

section Stable

variable {ε σ α β : Type} {extend : σ → List UInt8 → σ}

/-- What the program returns does not depend on what follows. -/
def Stable (extend : σ → List UInt8 → σ) (program : EStateM ε σ α) : Prop :=
  ∀ state after value, program.run state = .ok value after →
    ∀ more, program.run (extend state more) = .ok value (extend after more)

/-- Returning reads nothing. -/
theorem stable_pure (value : α) : Stable extend (pure value : EStateM ε σ α) := by
  intro state after result done more
  cases done
  rfl

/-- A failure is stable, since it does not return. -/
theorem stable_throw (error : ε) : Stable extend (throw error : EStateM ε σ α) := by
  intro state after result done
  cases done

/-- Changing the rest of the state reads nothing. -/
theorem stable_modify {change : σ → σ}
    (same : ∀ state more, change (extend state more) = extend (change state) more) :
    Stable extend (modify change : EStateM ε σ Unit) := by
  intro state after result done more
  obtain ⟨rfl, rfl⟩ := EStateM.Result.ok.inj done
  exact congrArg (EStateM.Result.ok ()) (same state more)

/-- A sequence does not depend on what follows if its parts do not. -/
theorem stable_bind {first : EStateM ε σ α} {second : α → EStateM ε σ β}
    (one : Stable extend first) (two : ∀ value, Stable extend (second value)) :
    Stable extend (first >>= second) := by
  intro state after result done more
  obtain ⟨value, middle, before, rest⟩ := run_bind_ok.mp done
  exact run_bind_ok.mpr ⟨value, _, one _ _ _ before more, two value _ _ _ rest more⟩

/-- A program that looks at the state, but not at the rest of the input. -/
theorem stable_get_bind {second : σ → EStateM ε σ β}
    (same : ∀ state more, second (extend state more) = second state)
    (two : ∀ state, Stable extend (second state)) :
    Stable extend ((get : EStateM ε σ σ) >>= second) := by
  intro state after result done more
  have rest : (second state).run state = .ok result after := done
  change (second (extend state more)).run (extend state more) = _
  rw [same]
  exact two state _ _ _ rest more

/-- A choice between two stable programs is stable. -/
theorem stable_ite {condition : Prop} [Decidable condition] {yes no : EStateM ε σ α}
    (one : Stable extend yes) (two : Stable extend no) :
    Stable extend (if condition then yes else no) := by
  split
  · exact one
  · exact two

end Stable

/-! ## Programs that only read

A program that writes nothing and only takes from the front of its input leaves the rest of the
state as it was. -/

/-- The connection with other bytes to read. -/
def Conn.withInput (conn : Conn) (input : List UInt8) : Conn := { conn with input := input }

section Reads

variable {ε σ α β : Type} {put : σ → List UInt8 → σ}

/-- The program leaves the state, but for the input. -/
def Reads (put : σ → List UInt8 → σ) (program : EStateM ε σ α) : Prop :=
  ∀ state, ∃ input, final (program.run state) = put state input

/-- Returning reads nothing. -/
theorem reads_pure (same : ∀ state, ∃ input, state = put state input) (value : α) :
    Reads put (pure value : EStateM ε σ α) := same

/-- Failing reads nothing. -/
theorem reads_throw (same : ∀ state, ∃ input, state = put state input) (error : ε) :
    Reads put (throw error : EStateM ε σ α) := same

/-- Reading twice is reading. -/
theorem reads_bind (last : ∀ state first second, put (put state first) second = put state second)
    {first : EStateM ε σ α} {second : α → EStateM ε σ β} (one : Reads put first)
    (two : ∀ value, Reads put (second value)) : Reads put (first >>= second) := by
  intro state
  obtain ⟨input, step⟩ := one state
  rw [EStateM.run_bind]
  cases done : first.run state with
  | error error after =>
    rw [done, final_error] at step
    exact ⟨input, step⟩
  | ok value middle =>
    rw [done, final_ok] at step
    obtain ⟨rest, next⟩ := two value middle
    refine ⟨rest, next.trans ?_⟩
    rw [step, last]

end Reads

end Talk.ByteStream
