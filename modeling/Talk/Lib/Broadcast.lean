import Mathlib.Data.List.Basic

/-!
# Broadcast channels of bounded capacity

Everybody who sends appends to one log, and each receiver has its own position in it. The channel
keeps the last entries only: a receiver that has fallen behind them is told so, once, and goes on
at the oldest entry that is kept. So a receiver passes an entry either by receiving it or when as
many later ones have been sent as the channel keeps.
-/

namespace Talk.Broadcast

variable {α : Type}

/-- What a receiver gets. -/
inductive Received (α : Type) where
  /-- The next entry. -/
  | value (value : α)
  /-- It has missed so many entries. -/
  | lagged (missed : Nat)
  /-- There is no entry yet. -/
  | empty
  deriving DecidableEq

/-- A receiver at a position asks for the next entry. -/
def receive (capacity : Nat) (log : List α) (position : Nat) : Received α × Nat :=
  if position + capacity < log.length then
    (.lagged (log.length - capacity - position), log.length - capacity)
  else match log[position]? with
  | none => (.empty, position)
  | some value => (.value value, position + 1)

/-- A receiver gets the entry at its position, or passes entries that have at least as many behind
them as the channel keeps, or stays where it is. -/
theorem receive_cases (capacity : Nat) (log : List α) (position : Nat) :
    (∃ value, log[position]? = some value ∧
      receive capacity log position = (.value value, position + 1)) ∨
    (position + capacity < log.length ∧ receive capacity log position =
      (.lagged (log.length - capacity - position), log.length - capacity)) ∨
    receive capacity log position = (.empty, position) := by
  unfold receive
  by_cases behind : position + capacity < log.length
  · rw [if_pos behind]
    exact .inr (.inl ⟨behind, rfl⟩)
  · rw [if_neg behind]
    cases found : log[position]? with
    | none => exact .inr (.inr rfl)
    | some value => exact .inl ⟨value, rfl, rfl⟩

/-- An entry is ahead of a receiver, with so many entries from it to the end of the log. -/
structure Ahead (log : List α) (position : Nat) (value : α) (depth : Nat) : Prop where
  /-- It is in the log, not before the position and within the depth of the end. -/
  placed : ∃ index, log[index]? = some value ∧ position ≤ index ∧ log.length ≤ index + depth

/-- What is sent is ahead of everybody. -/
theorem ahead_sent {log : List α} {position : Nat} (inside : position ≤ log.length) (value : α) :
    Ahead (log ++ [value]) position value 1 := by
  refine ⟨log.length, ?_, inside, ?_⟩
  · rw [List.getElem?_append_right (Nat.le_refl _), Nat.sub_self]
    rfl
  · rw [List.length_append]
    exact Nat.le_refl _

/-- What is near the end is near it in a wider sense. -/
theorem Ahead.deepen {log : List α} {position depth wider : Nat} {value : α}
    (ahead : Ahead log position value depth) (more : depth ≤ wider) :
    Ahead log position value wider := by
  obtain ⟨index, found, after, near⟩ := ahead
  exact ⟨index, found, after, by omega⟩

/-- What is ahead stays ahead when another entry is sent. -/
theorem Ahead.send {log : List α} {position depth : Nat} {value : α}
    (ahead : Ahead log position value depth) (other : α) :
    Ahead (log ++ [other]) position value (depth + 1) := by
  obtain ⟨index, found, after, near⟩ := ahead
  have inside : index < log.length := (List.getElem?_eq_some_iff.mp found).1
  refine ⟨index, (List.getElem?_append_left inside).trans found, after, ?_⟩
  rw [List.length_append, List.length_singleton]
  omega

/-- A receiver that asks gets an entry that is ahead, or it stays ahead, or at least as many later
ones have been sent as the channel keeps. -/
theorem Ahead.receive {log : List α} {position depth : Nat} {value : α}
    (ahead : Ahead log position value depth) (capacity : Nat) :
    (receive capacity log position).1 = .value value ∨
      Ahead log (receive capacity log position).2 value depth ∨ capacity < depth := by
  obtain ⟨index, found, after, near⟩ := ahead
  have inside : index < log.length := (List.getElem?_eq_some_iff.mp found).1
  rcases receive_cases capacity log position with ⟨next, here, got⟩ | ⟨behind, got⟩ | got
  · rw [got]
    by_cases same : index = position
    · obtain rfl := same
      obtain rfl := Option.some.inj (found.symm.trans here)
      exact .inl rfl
    · exact .inr (.inl ⟨index, found, by omega, near⟩)
  · rw [got]
    by_cases kept : log.length - capacity ≤ index
    · exact .inr (.inl ⟨index, found, kept, near⟩)
    · exact .inr (.inr (by omega))
  · rw [got]
    exact .inr (.inl ⟨index, found, after, near⟩)

end Talk.Broadcast
