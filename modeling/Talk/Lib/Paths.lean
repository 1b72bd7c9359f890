import Mathlib.Data.List.Basic
import Mathlib.Data.Prod.Basic

/-!
# Paths into nested tables

Values of which some are tables of named values, a lookup along a path of names, and an update at a
path whose every name is there. An update is refused exactly where the lookup is; what was put is
what is then found, and the lookup along every path that leaves the updated one gives what it gave
before, also where it is refused.
-/

namespace Talk.Paths

/-- Values of which some are tables. -/
class Nested (V : Type) where
  /-- The entries of a table. -/
  entries : V → Option (List (String × V))
  /-- The table of some entries. -/
  table : List (String × V) → V
  /-- A table has its entries. -/
  entries_table : ∀ fields, entries (table fields) = some fields

/-- Why a lookup stops. -/
inductive Stop where
  /-- At a name, the value is no table. -/
  | notTable (name : String)
  /-- The table has no such name. -/
  | missing
  deriving DecidableEq

variable {V : Type}

/-- Put a value under a name: in the place of what is there, or at the end. -/
def insert (name : String) (value : V) : List (String × V) → List (String × V)
  | [] => [(name, value)]
  | entry :: fields =>
    if name == entry.1 then (name, value) :: fields else entry :: insert name value fields

/-- What was put under a name is there. -/
theorem lookup_insert_self (name : String) (value : V) (fields : List (String × V)) :
    (insert name value fields).lookup name = some value := by
  induction fields with
  | nil => simp [insert]
  | cons entry fields ih =>
    rw [insert]
    by_cases same : (name == entry.1) = true
    · rw [if_pos same, List.lookup_cons, beq_self_eq_true]
    · rw [if_neg same, List.lookup_cons, Bool.eq_false_iff.mpr same]
      exact ih

/-- Under every other name is what was there. -/
theorem lookup_insert_other {name other : String} (different : other ≠ name) (value : V)
    (fields : List (String × V)) :
    (insert name value fields).lookup other = fields.lookup other := by
  have apart : (other == name) = false := beq_false_of_ne different
  induction fields with
  | nil => simp [insert, List.lookup_cons, apart]
  | cons entry fields ih =>
    rw [insert]
    by_cases same : (name == entry.1) = true
    · rw [if_pos same, List.lookup_cons, apart, List.lookup_cons, ← beq_iff_eq.mp same, apart]
    · rw [if_neg same, List.lookup_cons, List.lookup_cons, ih]

variable [Nested V]

open Nested

/-- Look up a path. -/
def getAt : V → List String → Except Stop V
  | value, [] => .ok value
  | value, name :: names =>
    match entries value with
    | none => .error (.notTable name)
    | some fields =>
      match fields.lookup name with
      | none => .error .missing
      | some child => getAt child names

/-- Put a value at a path that is there. -/
def setAt (new : V) : V → List String → Except Stop V
  | _, [] => .ok new
  | value, name :: names =>
    match entries value with
    | none => .error (.notTable name)
    | some fields =>
      match fields.lookup name with
      | none => .error .missing
      | some child =>
        match setAt new child names with
        | .error stop => .error stop
        | .ok child => .ok (table (insert name child fields))

/-- An update at a path goes through the entry of its first name. -/
theorem setAt_cons {new value after : V} {name : String} {names : List String}
    (updated : setAt new value (name :: names) = .ok after) :
    ∃ fields child inner, entries value = some fields ∧ fields.lookup name = some child ∧
      setAt new child names = .ok inner ∧ after = table (insert name inner fields) := by
  rw [setAt] at updated
  cases shape : entries value with
  | none =>
    rw [shape] at updated
    cases updated
  | some fields =>
    rw [shape] at updated
    dsimp only at updated
    cases found : fields.lookup name with
    | none =>
      rw [found] at updated
      cases updated
    | some child =>
      rw [found] at updated
      dsimp only at updated
      cases deeper : setAt new child names with
      | error stop =>
        rw [deeper] at updated
        cases updated
      | ok inner =>
        rw [deeper] at updated
        exact ⟨fields, child, inner, rfl, found, deeper, (Except.ok.inj updated).symm⟩

/-- What was put at a path is found there. -/
theorem getAt_setAt {new value after : V} {names : List String}
    (updated : setAt new value names = .ok after) : getAt after names = .ok new := by
  induction names generalizing value after with
  | nil =>
    rw [← Except.ok.inj updated]
    rfl
  | cons name names ih =>
    obtain ⟨fields, child, inner, -, -, deeper, rfl⟩ := setAt_cons updated
    rw [getAt, entries_table]
    dsimp only
    rw [lookup_insert_self]
    exact ih deeper

/-- A path that leaves the updated one is looked up as before. -/
theorem getAt_setAt_other {new value after : V} {names other : List String}
    (updated : setAt new value names = .ok after) (shorter : ¬other <+: names)
    (longer : ¬names <+: other) : getAt after other = getAt value other := by
  induction names generalizing value after other with
  | nil => exact absurd List.nil_prefix longer
  | cons name names ih =>
    obtain ⟨fields, child, inner, shape, found, deeper, rfl⟩ := setAt_cons updated
    cases other with
    | nil => exact absurd List.nil_prefix shorter
    | cons first other =>
      rw [getAt, entries_table, getAt, shape]
      dsimp only
      by_cases same : first = name
      · rw [same, lookup_insert_self, found]
        rw [same] at shorter longer
        refine ih deeper (fun ends => shorter ?_) fun ends => longer ?_
        · exact (List.prefix_cons_inj name).mpr ends
        · exact (List.prefix_cons_inj name).mpr ends
      · rw [lookup_insert_other same]

end Talk.Paths
