import Talk.Lib.Transition

/-!
# Threads over a shared state

A pool is a shared state with threads, each of which takes its steps one at a time, in any order,
while others disturb the state between them. What a thread knows is kept by everybody else if it is
stable under what anybody may do; and where each thread appends to a log once, the log of a run
lists the threads in the order in which they did.
-/

namespace Talk.Interleaving

open Transition

variable {σ τ ε β : Type}

/-- A shared state and the threads over it. -/
structure Pool (σ τ : Type) where
  /-- The shared state. -/
  shared : σ
  /-- Where each thread is. -/
  threads : List τ

/-- What happens next. -/
inductive Event (ε : Type) where
  /-- A thread takes its next step. -/
  | turn (thread : Nat)
  /-- Somebody else changes the shared state. -/
  | other (event : ε)
  deriving DecidableEq

variable (step : σ → τ → σ × τ) (disturb : σ → ε → σ)

/-- The pool after an event. -/
def Pool.take (pool : Pool σ τ) : Event ε → Pool σ τ
  | .turn thread =>
    match pool.threads[thread]? with
    | none => pool
    | some place =>
      ⟨(step pool.shared place).1, pool.threads.set thread (step pool.shared place).2⟩
  | .other event => { pool with shared := disturb pool.shared event }

/-- What can happen: a thread takes a step, the state is disturbed, or there is no such thread. -/
theorem take_cases (pool : Pool σ τ) (event : Event ε) :
    (∃ thread place, pool.threads[thread]? = some place ∧ event = .turn thread ∧
      pool.take step disturb event =
        ⟨(step pool.shared place).1, pool.threads.set thread (step pool.shared place).2⟩) ∨
    (∃ change, event = .other change ∧
      pool.take step disturb event = { pool with shared := disturb pool.shared change }) ∨
    pool.take step disturb event = pool := by
  cases event with
  | turn thread =>
    cases found : pool.threads[thread]? with
    | none => exact .inr (.inr (by rw [Pool.take, found]))
    | some place => exact .inl ⟨thread, place, found, rfl, by rw [Pool.take, found]⟩
  | other change => exact .inr (.inl ⟨change, rfl, rfl⟩)

/-- Threads are neither started nor removed. -/
theorem length_run (pool : Pool σ τ) (events : List (Event ε)) :
    (run (Pool.take step disturb) pool events).threads.length = pool.threads.length := by
  induction events generalizing pool with
  | nil => rfl
  | cons event events ih =>
    rw [run_cons, ih]
    rcases take_cases step disturb pool event with
      ⟨thread, place, -, -, after⟩ | ⟨change, -, after⟩ | after
    · rw [after]
      exact List.length_set
    · rw [after]
    · rw [after]

/-! ## Single threads -/

/-- An event is a turn of a thread. -/
def Event.isTurn (thread : Nat) : Event ε → Bool
  | .turn taken => taken == thread
  | .other _ => false

/-- What an event does to one thread: its step, or nothing. -/
theorem take_thread {pool : Pool σ τ} {thread : Nat} {place : τ}
    (found : pool.threads[thread]? = some place) (event : Event ε) :
    (event.isTurn thread = true ∧
      (pool.take step disturb event).threads[thread]? = some (step pool.shared place).2) ∨
    (event.isTurn thread = false ∧
      (pool.take step disturb event).threads[thread]? = some place) := by
  cases event with
  | other change => exact .inr ⟨rfl, found⟩
  | turn other =>
    by_cases same : other = thread
    · obtain rfl := same
      have inside : other < pool.threads.length := (List.getElem?_eq_some_iff.mp found).1
      refine .inl ⟨beq_self_eq_true other, ?_⟩
      rw [Pool.take, found]
      exact List.getElem?_set_self inside
    · refine .inr ⟨beq_false_of_ne same, ?_⟩
      rw [Pool.take]
      cases pool.threads[other]? with
      | none => exact found
      | some elsewhere => exact (List.getElem?_set_ne same).trans found

/-- The steps of one thread, each in some shared state, lead from one place to another. -/
inductive Leads (step : σ → τ → σ × τ) : Nat → τ → τ → Prop where
  /-- No step is taken. -/
  | refl (place : τ) : Leads step 0 place place
  /-- A first step is taken. -/
  | step (state : σ) {place last : τ} {steps : Nat}
      (rest : Leads step steps (step state place).2 last) : Leads step (steps + 1) place last

/-- In a run each thread takes as many steps as it has turns. -/
theorem leads_run {pool : Pool σ τ} {thread : Nat} {place : τ}
    (found : pool.threads[thread]? = some place) (events : List (Event ε)) :
    ∃ last, (run (Pool.take step disturb) pool events).threads[thread]? = some last ∧
      Leads step (events.countP (Event.isTurn thread)) place last := by
  induction events generalizing pool place with
  | nil => exact ⟨place, found, .refl place⟩
  | cons event events ih =>
    rw [run_cons, List.countP_cons]
    rcases take_thread step disturb found event with ⟨turn, after⟩ | ⟨turn, after⟩
    · obtain ⟨last, there, leads⟩ := ih after
      rw [turn]
      exact ⟨last, there, .step pool.shared leads⟩
    · obtain ⟨last, there, leads⟩ := ih after
      rw [turn]
      exact ⟨last, there, leads⟩

/-- The shared states in which a thread takes its turns. -/
def statesAt (thread : Nat) : Pool σ τ → List (Event ε) → List σ
  | _, [] => []
  | pool, event :: events =>
    let rest := statesAt thread (pool.take step disturb event) events
    if event.isTurn thread then pool.shared :: rest else rest

/-- Where a thread is after a run follows from where it was and the states at its turns. -/
theorem run_thread {pool : Pool σ τ} {thread : Nat} {place : τ}
    (found : pool.threads[thread]? = some place) (events : List (Event ε)) :
    (run (Pool.take step disturb) pool events).threads[thread]? =
      some (run (fun place state => (step state place).2) place
        (statesAt step disturb thread pool events)) := by
  induction events generalizing pool place with
  | nil => exact found
  | cons event events ih =>
    rw [run_cons, statesAt]
    rcases take_thread step disturb found event with ⟨turn, after⟩ | ⟨turn, after⟩
    · rw [if_pos turn, run_cons]
      exact ih after
    · rw [turn, if_neg Bool.false_ne_true]
      exact ih after

variable {step}

/-- What a step keeps of a place, all steps keep. -/
theorem Leads.kept (rel : τ → τ → Prop) (refl : ∀ place, rel place place)
    (trans : ∀ {first second third}, rel first second → rel second third → rel first third)
    (one : ∀ state place, rel place (step state place).2) {steps : Nat} {place last : τ}
    (leads : Leads step steps place last) : rel place last := by
  induction leads with
  | refl place => exact refl place
  | step state rest ih => exact trans (one state _) ih

/-- A thread that comes nearer to its end in each step is there after enough of them. -/
theorem Leads.rank_le (rank : τ → Nat)
    (nearer : ∀ state place, rank (step state place).2 ≤ rank place - 1) {steps : Nat}
    {place last : τ} (leads : Leads step steps place last) : rank last ≤ rank place - steps := by
  induction leads with
  | refl place => exact Nat.le_refl _
  | @step state place last steps rest ih =>
    have one := nearer state place
    omega

/-! ## Knowledge -/

variable (step) in
/-- What a thread knows is so after its own step, and after what anybody else does. -/
structure Discipline (sound : σ → Prop) (later : σ → σ → Prop) (good : σ → τ → Prop) : Prop where
  /-- A step of a thread that knows its place. -/
  stepped : ∀ {state place}, sound state → good state place →
    sound (step state place).1 ∧ later state (step state place).1 ∧
      good (step state place).1 (step state place).2
  /-- A disturbance. -/
  disturbed : ∀ {state} change, sound state →
    sound (disturb state change) ∧ later state (disturb state change)
  /-- Nobody takes away what another one knows. -/
  stable : ∀ {state after place}, later state after → good state place → good after place

variable {disturb} {sound : σ → Prop} {later : σ → σ → Prop} {good : σ → τ → Prop}

/-- The shared state is sound and every thread knows its place. -/
def Pool.Good (sound : σ → Prop) (good : σ → τ → Prop) (pool : Pool σ τ) : Prop :=
  sound pool.shared ∧ ∀ place ∈ pool.threads, good pool.shared place

/-- An event keeps what is known. -/
theorem Discipline.take (discipline : Discipline step disturb sound later good)
    {pool : Pool σ τ} (known : pool.Good sound good) (event : Event ε) :
    (pool.take step disturb event).Good sound good := by
  rcases take_cases step disturb pool event with
    ⟨thread, place, found, -, after⟩ | ⟨change, -, after⟩ | after
  · obtain ⟨kept, changed, reached⟩ :=
      discipline.stepped known.1 (known.2 place (List.mem_of_getElem? found))
    rw [after]
    refine ⟨kept, fun other member => ?_⟩
    rcases List.mem_or_eq_of_mem_set member with old | rfl
    · exact discipline.stable changed (known.2 other old)
    · exact reached
  · obtain ⟨kept, changed⟩ := discipline.disturbed change known.1
    rw [after]
    exact ⟨kept, fun other member => discipline.stable changed (known.2 other member)⟩
  · rw [after]
    exact known

/-- A run keeps what is known. -/
theorem Discipline.run (discipline : Discipline step disturb sound later good)
    {pool : Pool σ τ} (known : pool.Good sound good) (events : List (Event ε)) :
    (Transition.run (Pool.take step disturb) pool events).Good sound good := by
  have kept : ∀ (pool : Pool σ τ) (event : Event ε), pool.Good sound good →
      (pool.take step disturb event).Good sound good :=
    fun _ event known => discipline.take known event
  exact run_invariant kept known events

/-- Along the states at its turns a thread is at a sound state and knows its place. -/
def Met (step : σ → τ → σ × τ) (sound : σ → Prop) (good : σ → τ → Prop) : τ → List σ → Prop
  | _, [] => True
  | place, state :: rest =>
    sound state ∧ good state place ∧ Met step sound good (step state place).2 rest

/-- In a run every turn of a thread is met where it knows its place. -/
theorem Discipline.met (discipline : Discipline step disturb sound later good)
    {pool : Pool σ τ} (known : pool.Good sound good) {thread : Nat} {place : τ}
    (found : pool.threads[thread]? = some place) (events : List (Event ε)) :
    Met step sound good place (statesAt step disturb thread pool events) := by
  induction events generalizing pool place with
  | nil => trivial
  | cons event events ih =>
    have kept := discipline.take known event
    rw [statesAt]
    rcases take_thread step disturb found event with ⟨turn, after⟩ | ⟨turn, after⟩
    · rw [if_pos turn]
      exact ⟨known.1, known.2 place (List.mem_of_getElem? found), ih kept after⟩
    · rw [turn, if_neg Bool.false_ne_true]
      exact ih kept after

/-! ## Logs -/

variable (step disturb sound good) in
/-- Each thread appends its entry to a log, once: when it commits. -/
structure Logging (log : σ → List β) (committed : τ → Bool) (entry : τ → β) : Prop where
  /-- A step commits with an entry, or leaves the log. -/
  stepped : ∀ {state place}, sound state → good state place →
    (committed (step state place).2 = committed place ∧ log (step state place).1 = log state) ∨
    (committed place = false ∧ committed (step state place).2 = true ∧
      log (step state place).1 = log state ++ [entry (step state place).2])
  /-- A thread that has committed stays so, with its entry. -/
  stays : ∀ state {place}, committed place = true → committed (step state place).2 = true ∧
    entry (step state place).2 = entry place
  /-- Nobody else appends. -/
  disturbed : ∀ state change, log (disturb state change) = log state

/-- A thread has committed. -/
def Pool.Committed (committed : τ → Bool) (pool : Pool σ τ) (thread : Nat) : Prop :=
  ∃ place, pool.threads[thread]? = some place ∧ committed place = true

/-- The entry of a thread. -/
def Pool.entryOf (entry : τ → β) (pool : Pool σ τ) (thread : Nat) : Option β :=
  pool.threads[thread]?.map entry

variable {log : σ → List β} {committed : τ → Bool} {entry : τ → β}

/-- A thread that has committed stays so, with its entry, in a run. -/
theorem Logging.run_committed (logging : Logging step disturb sound good log committed entry)
    {pool : Pool σ τ} {thread : Nat} {place : τ} (found : pool.threads[thread]? = some place)
    (done : committed place = true) (events : List (Event ε)) :
    ∃ last, (Transition.run (Pool.take step disturb) pool events).threads[thread]? = some last ∧
      committed last = true ∧ entry last = entry place := by
  obtain ⟨last, there, leads⟩ := leads_run step disturb found events
  have kept := leads.kept
    (fun first second => committed first = true →
      committed second = true ∧ entry second = entry first)
    (fun _ held => ⟨held, rfl⟩)
    (fun one two held => ⟨(two (one held).1).1, ((two (one held).1).2).trans (one held).2⟩)
    (fun state _ held => logging.stays state held)
  exact ⟨last, there, kept done⟩

/-- After an event the log has the entry of the thread that has committed with it, if there is
one. -/
theorem Logging.take_cases (logging : Logging step disturb sound good log committed entry)
    {pool : Pool σ τ} (known : pool.Good sound good) (event : Event ε) :
    (log (pool.take step disturb event).shared = log pool.shared ∧
      ∀ thread, (pool.take step disturb event).Committed committed thread ↔
        pool.Committed committed thread) ∨
    ∃ thread place, ¬ pool.Committed committed thread ∧
      (pool.take step disturb event).threads[thread]? = some place ∧ committed place = true ∧
      log (pool.take step disturb event).shared = log pool.shared ++ [entry place] ∧
      ∀ other, other ≠ thread → ((pool.take step disturb event).Committed committed other ↔
        pool.Committed committed other) := by
  rcases Interleaving.take_cases step disturb pool event with
    ⟨thread, place, found, -, after⟩ | ⟨change, -, after⟩ | after
  · have inside : thread < pool.threads.length := (List.getElem?_eq_some_iff.mp found).1
    have here : (pool.threads.set thread (step pool.shared place).2)[thread]? =
        some (step pool.shared place).2 := List.getElem?_set_self inside
    have elsewhere : ∀ other, other ≠ thread →
        ((⟨(step pool.shared place).1, pool.threads.set thread (step pool.shared place).2⟩ :
          Pool σ τ).Committed committed other ↔ pool.Committed committed other) := by
      intro other differs
      rw [Pool.Committed, Pool.Committed, List.getElem?_set_ne (Ne.symm differs)]
    rw [after]
    rcases logging.stepped known.1 (known.2 place (List.mem_of_getElem? found)) with
      ⟨same, quiet⟩ | ⟨before, done, appended⟩
    · refine .inl ⟨quiet, fun other => ?_⟩
      by_cases own : other = thread
      · obtain rfl := own
        rw [Pool.Committed, Pool.Committed, here, found]
        simp only [Option.some.injEq, exists_eq_left', same]
      · exact elsewhere other own
    · refine .inr ⟨thread, _, ?_, here, done, appended, elsewhere⟩
      rintro ⟨other, there, committed⟩
      obtain rfl := Option.some.inj (found.symm.trans there)
      rw [before] at committed
      cases committed
  · rw [after]
    exact .inl ⟨logging.disturbed _ change, fun _ => Iff.rfl⟩
  · rw [after]
    exact .inl ⟨rfl, fun _ => Iff.rfl⟩

/-- The log of a run is the one it started from, with the entry of each thread that has committed,
once, in the order of the commits. -/
theorem Logging.run (discipline : Discipline step disturb sound later good)
    (logging : Logging step disturb sound good log committed entry) {pool : Pool σ τ}
    (known : pool.Good sound good) (events : List (Event ε)) :
    ∃ order : List Nat, order.Nodup ∧
      (∀ thread, thread ∈ order ↔
        (Transition.run (Pool.take step disturb) pool events).Committed committed thread ∧
          ¬ pool.Committed committed thread) ∧
      log (Transition.run (Pool.take step disturb) pool events).shared = log pool.shared ++
        order.filterMap
          ((Transition.run (Pool.take step disturb) pool events).entryOf entry) := by
  induction events generalizing pool with
  | nil => exact ⟨[], List.nodup_nil, fun _ => by simp, (List.append_nil _).symm⟩
  | cons event events ih =>
    obtain ⟨order, nodup, members, logged⟩ := ih (discipline.take known event)
    rw [run_cons]
    rcases logging.take_cases known event with
      ⟨quiet, same⟩ | ⟨thread, place, before, there, done, appended, others⟩
    · refine ⟨order, nodup, fun other => ?_, by rw [logged, quiet]⟩
      rw [members, same]
    · obtain ⟨last, found, stays, kept⟩ := logging.run_committed there done events
      have now : (pool.take step disturb event).Committed committed thread := ⟨place, there, done⟩
      refine ⟨thread :: order, List.nodup_cons.mpr ⟨fun member => ?_, nodup⟩, fun other => ?_, ?_⟩
      · exact ((members thread).mp member).2 now
      · rw [List.mem_cons, members]
        by_cases own : other = thread
        · obtain rfl := own
          exact iff_of_true (.inl rfl) ⟨⟨last, found, stays⟩, before⟩
        · rw [others other own]
          exact or_iff_right own
      · have first : (Transition.run (Pool.take step disturb) (pool.take step disturb event)
            events).entryOf entry thread = some (entry place) := by
          rw [Pool.entryOf, found, ← kept]
          rfl
        rw [logged, appended, List.filterMap_cons, first, List.append_assoc]
        rfl

end Talk.Interleaving
