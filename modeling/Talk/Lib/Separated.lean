import Mathlib.Data.List.Basic

/-!
# Fields joined by a separator

Fields written one after the other with a separator between them can be read back when no field
holds the separator, even from among fields that may: their number decides. A separator inside a
field can be taken for the one beside it, so then the fields can be read in another way.
-/

namespace Talk.Separated

variable {α : Type}

/-- The separators in joined fields: those between the fields, and those inside. -/
theorem count_intercalate [DecidableEq α] (sep : α) (field : List α) (fields : List (List α)) :
    (List.intercalate [sep] (field :: fields)).count sep =
      fields.length + (field :: fields).flatten.count sep := by
  induction fields generalizing field with
  | nil => simp
  | cons next fields ih =>
    rw [List.intercalate_cons_cons, List.count_append, List.count_append, ih,
      List.count_singleton_self, List.length_cons]
    have first : (field :: next :: fields).flatten.count sep =
        field.count sep + (next :: fields).flatten.count sep := by
      rw [List.flatten_cons, List.count_append]
    omega

/-- Fields without the separator are read back, from among all ways to join so many fields. -/
theorem intercalate_inj [DecidableEq α] {sep : α} {fields others : List (List α)}
    (free : ∀ field ∈ fields, sep ∉ field) (length : others.length = fields.length)
    (same : List.intercalate [sep] others = List.intercalate [sep] fields) : others = fields := by
  match fields, others, length with
  | [], [], _ => rfl
  | field :: fields, other :: others, length =>
    have counts := congrArg (List.count sep) same
    have none : (field :: fields).flatten.count sep = 0 :=
      List.count_eq_zero.mpr fun inside => by
        obtain ⟨chosen, member, found⟩ := List.mem_flatten.mp inside
        exact free chosen member found
    rw [count_intercalate, count_intercalate, none] at counts
    have otherFree : (other :: others).flatten.count sep = 0 := by
      rw [List.length_cons, List.length_cons] at length
      omega
    have read := List.splitOn_intercalate sep (fun chosen member found =>
      List.count_eq_zero.mp otherFree (List.mem_flatten.mpr ⟨chosen, member, found⟩))
      (List.cons_ne_nil other others)
    rw [same, List.splitOn_intercalate sep free (List.cons_ne_nil field fields)] at read
    exact read.symm

/-- Two fields of which one holds the separator can be cut elsewhere. -/
theorem exists_shift {sep : α} {left right : List α} (member : sep ∈ left ∨ sep ∈ right) :
    ∃ first second, first ≠ left ∧ first ++ sep :: second = left ++ sep :: right := by
  rcases member with member | member
  · obtain ⟨before, after, rfl⟩ := List.append_of_mem member
    refine ⟨before, after ++ sep :: right, fun same => ?_, by simp⟩
    simpa using congrArg List.length same
  · obtain ⟨before, after, rfl⟩ := List.append_of_mem member
    refine ⟨left ++ sep :: before, after, fun same => ?_, by simp⟩
    simpa using congrArg List.length same

end Talk.Separated
