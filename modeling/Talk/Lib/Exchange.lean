import Mathlib.Data.List.Infix

/-!
# Two programs joined by a duplex stream

Each end is a function from everything it will ever hear to everything it emits. Joining two ends
is a fixed point: a pair of streams that each end produces from the other. When the connection
can break, each stream may be cut short before it is heard. What an end emits after hearing a
part of its input does not depend on what follows, and from such facts the two streams are built
up in turn.
-/

namespace Talk.Exchange

variable {β : Type}

/-- Both streams are heard in full. -/
structure Complete (left right : List β → List β) (toLeft toRight : List β) : Prop where
  /-- The left end hears what the right end emits. -/
  fromRight : toLeft = right toRight
  /-- The right end hears what the left end emits. -/
  fromLeft : toRight = left toLeft

/-- Each stream may be cut short. -/
structure Lossy (left right : List β → List β) (toLeft toRight : List β) : Prop where
  /-- The left end hears a beginning of what the right end emits. -/
  fromRight : toLeft <+: right toRight
  /-- The right end hears a beginning of what the left end emits. -/
  fromLeft : toRight <+: left toLeft

/-- Having heard `heard`, the end has emitted `emitted`, whatever follows. -/
def Emits (program : List β → List β) (heard emitted : List β) : Prop :=
  ∀ more, emitted <+: program (heard ++ more)

variable {left right : List β → List β} {toLeft toRight heard emitted : List β}

/-- The two ends play the same part. -/
theorem Complete.symm (complete : Complete left right toLeft toRight) :
    Complete right left toRight toLeft :=
  ⟨complete.fromLeft, complete.fromRight⟩

/-- The two ends play the same part. -/
theorem Lossy.symm (lossy : Lossy left right toLeft toRight) : Lossy right left toRight toLeft :=
  ⟨lossy.fromLeft, lossy.fromRight⟩

/-- What the left end has emitted is heard. -/
theorem Complete.hears (complete : Complete left right toLeft toRight)
    (emits : Emits left heard emitted) (start : heard <+: toLeft) : emitted <+: toRight := by
  obtain ⟨more, rfl⟩ := start
  exact complete.fromLeft ▸ emits more

/-- What the left end has emitted is heard, or the connection broke on the way. -/
theorem Lossy.hears (lossy : Lossy left right toLeft toRight) (emits : Emits left heard emitted)
    (start : heard <+: toLeft) :
    emitted <+: toRight ∨ (toRight <+: emitted ∧ toRight ≠ emitted) := by
  obtain ⟨more, rfl⟩ := start
  rcases List.prefix_or_prefix_of_prefix (emits more) lossy.fromLeft with whole | cut
  · exact .inl whole
  · by_cases same : toRight = emitted
    · exact .inl (same ▸ List.prefix_rfl)
    · exact .inr ⟨cut, same⟩

end Talk.Exchange
