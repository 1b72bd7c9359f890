import Mathlib.Data.List.Basic

/-!
# Numbered entries

A journal numbers its entries in the order in which they come, from a counter that only goes up.
Entries can be revised and discarded, but a number is given once: what has a number keeps it, and
a number whose entry is gone stays without one.
-/

namespace Talk

variable {α : Type}

/-- Entries with ascending numbers below a counter. -/
structure Journal (α : Type) where
  /-- The next number. -/
  next : Nat
  /-- The entries with their numbers, oldest first. -/
  entries : List (Nat × α)
  /-- The numbers ascend. -/
  ascending : entries.Pairwise fun older newer => older.1 < newer.1
  /-- They are below the next one. -/
  below : ∀ entry ∈ entries, entry.1 < next

namespace Journal

/-- Journals are the same when the counters and the entries are. -/
@[ext] theorem ext {left right : Journal α} (next : left.next = right.next)
    (entries : left.entries = right.entries) : left = right := by
  cases left
  cases right
  cases next
  cases entries
  rfl

/-- A journal without entries. -/
def fresh (first : Nat) : Journal α := ⟨first, [], .nil, nofun⟩

/-- A new entry under the next number. -/
def append (journal : Journal α) (value : α) : Journal α where
  next := journal.next + 1
  entries := journal.entries ++ [(journal.next, value)]
  ascending := List.pairwise_append.mpr ⟨journal.ascending, List.pairwise_singleton _ _,
    fun older member newer added => by
      rw [List.mem_singleton.mp added]
      exact journal.below older member⟩
  below := fun entry member => by
    rcases List.mem_append.mp member with old | new
    · exact Nat.lt_succ_of_lt (journal.below entry old)
    · rw [List.mem_singleton.mp new]
      exact Nat.lt_succ_self _

/-- Every entry is changed where it stands. -/
def revise (journal : Journal α) (change : α → α) : Journal α where
  next := journal.next
  entries := journal.entries.map fun entry => (entry.1, change entry.2)
  ascending := List.pairwise_map.mpr journal.ascending
  below := fun entry member => by
    obtain ⟨old, found, rfl⟩ := List.mem_map.mp member
    exact journal.below old found

/-- Some entries are discarded. -/
def discard (journal : Journal α) (keeps : α → Bool) : Journal α where
  next := journal.next
  entries := journal.entries.filter fun entry => keeps entry.2
  ascending := journal.ascending.filter _
  below := fun entry member => journal.below entry (List.mem_of_mem_filter member)

@[simp] theorem append_next (journal : Journal α) (value : α) :
    (journal.append value).next = journal.next + 1 := rfl

@[simp] theorem append_entries (journal : Journal α) (value : α) :
    (journal.append value).entries = journal.entries ++ [(journal.next, value)] := rfl

@[simp] theorem revise_next (journal : Journal α) (change : α → α) :
    (journal.revise change).next = journal.next := rfl

@[simp] theorem revise_entries (journal : Journal α) (change : α → α) :
    (journal.revise change).entries =
      journal.entries.map fun entry => (entry.1, change entry.2) := rfl

@[simp] theorem discard_next (journal : Journal α) (keeps : α → Bool) :
    (journal.discard keeps).next = journal.next := rfl

@[simp] theorem discard_entries (journal : Journal α) (keeps : α → Bool) :
    (journal.discard keeps).entries = journal.entries.filter fun entry => keeps entry.2 := rfl

/-! ## Steps -/

variable {kept : α → α → Prop}

/-- A journal follows another one: the counter does not go back, and what has a number from below
the old counter was there under it, and is kept by what it is now. -/
structure Follows (kept : α → α → Prop) (before after : Journal α) : Prop where
  /-- The counter does not go back. -/
  next : before.next ≤ after.next
  /-- Entries below the old counter are old ones. -/
  old : ∀ entry ∈ after.entries, entry.1 < before.next →
    ∃ earlier ∈ before.entries, earlier.1 = entry.1 ∧ kept earlier.2 entry.2

/-- Journals follow one another. -/
theorem Follows.trans {before middle after : Journal α}
    (trans : ∀ first second third, kept first second → kept second third → kept first third)
    (first : Follows kept before middle) (second : Follows kept middle after) :
    Follows kept before after := by
  refine ⟨Nat.le_trans first.next second.next, fun entry member low => ?_⟩
  obtain ⟨inner, found, same, later⟩ :=
    second.old entry member (Nat.lt_of_lt_of_le low first.next)
  rw [← same] at low
  obtain ⟨earlier, inside, equal, sooner⟩ := first.old inner found low
  exact ⟨earlier, inside, equal.trans same, trans _ _ _ sooner later⟩

end Journal

end Talk
