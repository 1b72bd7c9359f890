import Mathlib.Algebra.Order.Ring.Nat
import Mathlib.Data.List.Nodup
import Mathlib.Data.List.Sort

/-!
# Tables of rows

A table is a list of rows. Keys are functions of a row, and a key is unique when no two rows share
its value. The lemmas say which statements keep a key unique: inserting a row whose key is new,
updating rows without touching the key, and deleting. A row id that is not a counter of its own
is one more than the largest in use, so a deleted row's id can come back.
-/

namespace Talk.Table

variable {ρ κ σ : Type}

/-- No two rows share a key. -/
def Unique (key : ρ → κ) (rows : List ρ) : Prop := (rows.map key).Nodup

instance [DecidableEq κ] (key : ρ → κ) (rows : List ρ) : Decidable (Unique key rows) :=
  inferInstanceAs (Decidable (List.Nodup _))

/-- The id of a new row: one more than the largest in use. -/
def nextId (id : ρ → Nat) (rows : List ρ) : Nat := (rows.map id).max?.getD 0 + 1

/-- Change the rows a condition selects. -/
def update (selects : ρ → Bool) (change : ρ → ρ) (rows : List ρ) : List ρ :=
  rows.map fun row => if selects row then change row else row

/-- Every left row with each right row that matches it, or alone when none does. -/
def leftJoin (on : ρ → σ → Bool) (left : List ρ) (right : List σ) : List (ρ × Option σ) :=
  left.flatMap fun row =>
    match right.filter (on row) with
    | [] => [(row, none)]
    | found => found.map fun other => (row, some other)

/-! ## Keys -/

/-- An empty table has unique keys. -/
@[simp] theorem unique_nil (key : ρ → κ) : Unique key [] := List.nodup_nil

/-- A row with a new key keeps the key unique. -/
theorem unique_insert {key : ρ → κ} {rows : List ρ} (unique : Unique key rows) {row : ρ}
    (fresh : ∀ other ∈ rows, key other ≠ key row) : Unique key (rows ++ [row]) := by
  unfold Unique at *
  rw [List.map_append, List.map_singleton, List.nodup_append]
  refine ⟨unique, List.nodup_singleton _, fun value found other same => ?_⟩
  obtain ⟨old, member, rfl⟩ := List.mem_map.mp found
  rw [List.mem_singleton.mp same]
  exact fresh old member

/-- An update that leaves the key alone leaves the keys. -/
theorem map_update {key : ρ → κ} {change : ρ → ρ} (same : ∀ row, key (change row) = key row)
    (selects : ρ → Bool) (rows : List ρ) :
    (update selects change rows).map key = rows.map key := by
  rw [update, List.map_map]
  refine List.map_congr_left fun row _ => ?_
  simp only [Function.comp_apply]
  split
  · exact same row
  · rfl

/-- An update that leaves the key alone keeps it unique. -/
theorem unique_update {key : ρ → κ} {rows : List ρ} (unique : Unique key rows)
    (selects : ρ → Bool) {change : ρ → ρ} (same : ∀ row, key (change row) = key row) :
    Unique key (update selects change rows) := by
  rw [Unique, map_update same]
  exact unique

/-- Deleting rows keeps a key unique. -/
theorem unique_filter {key : ρ → κ} {rows : List ρ} (unique : Unique key rows)
    (keeps : ρ → Bool) : Unique key (rows.filter keeps) :=
  unique.sublist (List.filter_sublist.map key)

/-- Rows with one key are one row. -/
theorem eq_of_unique {key : ρ → κ} {rows : List ρ} (unique : Unique key rows) {left right : ρ}
    (leftMember : left ∈ rows) (rightMember : right ∈ rows) (same : key left = key right) :
    left = right :=
  List.inj_on_of_nodup_map unique leftMember rightMember same

/-- A row found by its key is the row with this key. -/
theorem find_eq_some_iff [DecidableEq κ] {key : ρ → κ} {rows : List ρ} (unique : Unique key rows)
    {value : κ} {row : ρ} :
    rows.find? (fun row => decide (key row = value)) = some row ↔ row ∈ rows ∧ key row = value := by
  constructor
  · intro found
    exact ⟨List.mem_of_find?_eq_some found, by simpa using List.find?_some found⟩
  · rintro ⟨member, rfl⟩
    cases found : rows.find? fun other => decide (key other = key row) with
    | none => simpa using List.find?_eq_none.mp found row member
    | some other =>
      have same : key other = key row := by simpa using List.find?_some found
      rw [eq_of_unique unique (List.mem_of_find?_eq_some found) member same]

/-- A table whose rows are all one has at most one row. -/
theorem length_le_one {rows : List ρ} (nodup : rows.Nodup)
    (same : ∀ left ∈ rows, ∀ right ∈ rows, left = right) : rows.length ≤ 1 := by
  match rows, nodup, same with
  | [], _, _ => exact Nat.zero_le _
  | [_], _, _ => exact Nat.le_refl _
  | left :: right :: _, nodup, same =>
    have equal := same left (by simp) right (by simp)
    simp [equal] at nodup

/-- The rows of a table with at most one row are all one. -/
theorem eq_of_length_le_one {rows : List ρ} (short : rows.length ≤ 1) {left right : ρ}
    (leftMember : left ∈ rows) (rightMember : right ∈ rows) : left = right := by
  match rows, short, leftMember, rightMember with
  | [_], _, leftMember, rightMember =>
    exact (List.mem_singleton.mp leftMember).trans (List.mem_singleton.mp rightMember).symm

/-! ## Row ids -/

/-- Every id in use is below the next one. -/
theorem lt_nextId {id : ρ → Nat} {rows : List ρ} {row : ρ} (member : row ∈ rows) :
    id row < nextId id rows :=
  Nat.lt_succ_of_le (List.le_max?_getD_of_mem (List.mem_map_of_mem member))

/-- The next id is not in use. -/
theorem nextId_fresh (id : ρ → Nat) (rows : List ρ) : ∀ row ∈ rows, id row ≠ nextId id rows :=
  fun _ member => Nat.ne_of_lt (lt_nextId member)

/-! ## Updates -/

/-- The rows of an updated table. -/
theorem mem_update {selects : ρ → Bool} {change : ρ → ρ} {rows : List ρ} {row : ρ} :
    row ∈ update selects change rows ↔
      ∃ old ∈ rows, row = if selects old then change old else old := by
  simp only [update, List.mem_map, eq_comm]

/-- Rows are selected from an updated table as before, when the change does not bear on it. -/
theorem filter_update {selects keeps : ρ → Bool} {change : ρ → ρ}
    (same : ∀ row, keeps (change row) = keeps row) (rows : List ρ) :
    (update selects change rows).filter keeps = update selects change (rows.filter keeps) := by
  rw [update, List.filter_map, update]
  congr 1
  refine List.filter_congr fun row _ => ?_
  rw [Function.comp_apply]
  split
  · exact same row
  · rfl

/-- An update that selects no row changes nothing. -/
theorem update_eq_self {selects : ρ → Bool} {rows : List ρ}
    (none : ∀ row ∈ rows, selects row = false) (change : ρ → ρ) :
    update selects change rows = rows := by
  refine (List.map_congr_left fun row member => ?_).trans (List.map_id rows)
  rw [none row member, if_neg Bool.false_ne_true, id_eq]

/-- The same change made to the rows one condition selects and then to those another does is made
once to the rows either selects. -/
theorem update_update {selects also : ρ → Bool} {change : ρ → ρ}
    (idempotent : ∀ row, change (change row) = change row)
    (same : ∀ row, also (change row) = also row) (rows : List ρ) :
    update also change (update selects change rows) =
      update (fun row => selects row || also row) change rows := by
  rw [update, update, List.map_map, update]
  refine List.map_congr_left fun row _ => ?_
  rw [Function.comp_apply]
  cases first : selects row with
  | false => simp
  | true =>
    rw [if_pos rfl, same, Bool.true_or, if_pos rfl]
    split
    · exact idempotent row
    · rfl

/-- One change made to different rows has the same outcome exactly when it leaves these rows as they
are. -/
theorem update_eq_update_iff {left right : ρ → Bool}
    (apart : ∀ row, left row = true → right row = false) {change : ρ → ρ} {rows : List ρ} :
    update left change rows = update right change rows ↔
      ∀ row ∈ rows, left row = true ∨ right row = true → change row = row := by
  rw [update, update, List.map_inj_left]
  refine forall₂_congr fun row _ => ?_
  cases first : left row with
  | true => simp [apart row first]
  | false => cases right row with
    | true => simpa using eq_comm
    | false => simp

/-- Changing the row that was just inserted. -/
theorem update_insert {id : ρ → Nat} {rows : List ρ} {row : ρ} (new : id row = nextId id rows)
    (change : ρ → ρ) :
    update (fun other => decide (id other = nextId id rows)) change (rows ++ [row]) =
      rows ++ [change row] := by
  rw [update, List.map_append, List.map_singleton, if_pos (decide_eq_true new)]
  congr 1
  refine (List.map_congr_left fun other member => ?_).trans (List.map_id _)
  rw [if_neg (by simpa using nextId_fresh id rows other member), id_eq]

/-! ## Rows that change or go -/

/-- A statement that changes some rows and deletes others leaves the table just when it keeps every
row as it is. -/
theorem filterMap_eq_self {fate : ρ → Option ρ} {rows : List ρ} :
    rows.filterMap fate = rows ↔ ∀ row ∈ rows, fate row = some row := by
  induction rows with
  | nil => simp
  | cons row rows ih =>
    constructor
    · intro same
      cases kept : fate row with
      | none =>
        rw [List.filterMap_cons_none kept] at same
        have short := List.length_filterMap_le fate rows
        rw [same, List.length_cons] at short
        omega
      | some after =>
        rw [List.filterMap_cons_some kept] at same
        obtain ⟨rfl, rest⟩ := List.cons.inj same
        exact List.forall_mem_cons.mpr ⟨kept, ih.mp rest⟩
    · intro kept
      obtain ⟨first, rest⟩ := List.forall_mem_cons.mp kept
      rw [List.filterMap_cons_some first, ih.mpr rest]

/-- Rows that such a statement keeps as they are can be selected after it as before, when it leaves
what selects them. -/
theorem filter_filterMap {fate : ρ → Option ρ} {keeps : ρ → Bool} {rows : List ρ}
    (kept : ∀ row ∈ rows, keeps row = true → fate row = some row)
    (same : ∀ row ∈ rows, ∀ after, fate row = some after → keeps after = keeps row) :
    (rows.filterMap fate).filter keeps = rows.filter keeps := by
  induction rows with
  | nil => rfl
  | cons row rows ih =>
    have rest := ih (fun other member => kept other (List.mem_cons_of_mem row member))
      (fun other member => same other (List.mem_cons_of_mem row member))
    have first := kept row List.mem_cons_self
    cases selected : keeps row with
    | true => rw [List.filterMap_cons_some (first selected), List.filter_cons_of_pos selected, rest,
        List.filter_cons_of_pos selected]
    | false =>
      rw [List.filter_cons_of_neg (by simp [selected])]
      cases changed : fate row with
      | none => rw [List.filterMap_cons_none changed, rest]
      | some after =>
        have unselected := same row List.mem_cons_self after changed
        rw [List.filterMap_cons_some changed,
          List.filter_cons_of_neg (by simp [unselected, selected]), rest]

/-! ## Joins -/

/-- The join has the left rows and no others. -/
theorem exists_mem_leftJoin {on : ρ → σ → Bool} {left : List ρ} {right : List σ} {row : ρ} :
    (∃ other, (row, other) ∈ leftJoin on left right) ↔ row ∈ left := by
  constructor
  · rintro ⟨other, pair⟩
    rw [leftJoin, List.mem_flatMap] at pair
    obtain ⟨source, member, pair⟩ := pair
    have same : source = row := by
      split at pair
      · exact (congrArg Prod.fst (List.mem_singleton.mp pair)).symm
      · obtain ⟨_, -, same⟩ := List.mem_map.mp pair
        exact congrArg Prod.fst same
    rw [← same]
    exact member
  · intro member
    cases matched : right.filter (on row) with
    | nil =>
      refine ⟨none, List.mem_flatMap.mpr ⟨row, member, ?_⟩⟩
      rw [matched]
      exact List.mem_singleton_self _
    | cons other more =>
      refine ⟨some other, List.mem_flatMap.mpr ⟨row, member, ?_⟩⟩
      rw [matched]
      exact List.mem_map_of_mem List.mem_cons_self

/-- When every left row matches at most one right row, the join has every left row once. -/
theorem map_fst_leftJoin {on : ρ → σ → Bool} {left : List ρ} {right : List σ}
    (single : ∀ row ∈ left, (right.filter (on row)).length ≤ 1) :
    (leftJoin on left right).map Prod.fst = left := by
  induction left with
  | nil => rfl
  | cons row left ih =>
    have one := single row List.mem_cons_self
    have rest := ih fun other member => single other (List.mem_cons_of_mem row member)
    rw [leftJoin, List.flatMap_cons, List.map_append, ← leftJoin, rest]
    cases matched : right.filter (on row) with
    | nil => rfl
    | cons other more =>
      rw [matched, List.length_cons] at one
      obtain rfl : more = [] := List.length_eq_zero_iff.mp (by omega)
      rfl

/-- The join has every left row once for each right row that matches it, and once if none does. -/
theorem length_leftJoin (on : ρ → σ → Bool) (left : List ρ) (right : List σ) :
    (leftJoin on left right).length =
      (left.map fun row => max 1 (right.filter (on row)).length).sum := by
  induction left with
  | nil => rfl
  | cons row left ih =>
    rw [leftJoin, List.flatMap_cons, List.length_append, ← leftJoin, ih, List.map_cons,
      List.sum_cons]
    congr 1
    cases matched : right.filter (on row) with
    | nil => rfl
    | cons other more =>
      dsimp only
      rw [List.length_map, List.length_cons]
      omega

/-- The join has every left row at least once. -/
theorem length_le_leftJoin (on : ρ → σ → Bool) (left : List ρ) (right : List σ) :
    left.length ≤ (leftJoin on left right).length := by
  rw [length_leftJoin]
  induction left with
  | nil => exact Nat.le_refl _
  | cons row left ih =>
    rw [List.map_cons, List.sum_cons, List.length_cons]
    omega

/-- When the join has no more rows than the left table, every left row matches at most one right
row. -/
theorem single_of_length_leftJoin {on : ρ → σ → Bool} {left : List ρ} {right : List σ}
    (short : (leftJoin on left right).length ≤ left.length) :
    ∀ row ∈ left, (right.filter (on row)).length ≤ 1 := by
  induction left with
  | nil => nofun
  | cons row left ih =>
    have rest := length_le_leftJoin on left right
    rw [length_leftJoin] at short rest
    rw [List.map_cons, List.sum_cons, List.length_cons] at short
    refine List.forall_mem_cons.mpr ⟨by omega, ih ?_⟩
    rw [length_leftJoin]
    omega

/-- Two predicates keep the same rows just when they agree on every row. -/
theorem filter_eq_filter_iff {first second : ρ → Bool} {rows : List ρ} :
    rows.filter first = rows.filter second ↔ ∀ row ∈ rows, first row = second row := by
  constructor
  · intro same row member
    have found := congrArg (row ∈ ·) same
    simp only [List.mem_filter, member, true_and, eq_iff_iff] at found
    exact Bool.eq_iff_iff.mpr found
  · exact fun same => List.filter_congr same

/-- What is kept of a join by its left rows is the join of the left rows that are kept. -/
theorem filter_leftJoin (on : ρ → σ → Bool) (keeps : ρ → Bool) (left : List ρ) (right : List σ) :
    (leftJoin on left right).filter (fun pair => keeps pair.1) =
      leftJoin on (left.filter keeps) right := by
  induction left with
  | nil => rfl
  | cons row left ih =>
    have pairs : ∀ pair ∈ leftJoin on [row] right, pair.1 = row := by
      intro pair member
      exact List.mem_singleton.mp (exists_mem_leftJoin.mp ⟨pair.2, member⟩)
    have cut (rows : List ρ) : leftJoin on (row :: rows) right =
        leftJoin on [row] right ++ leftJoin on rows right := by
      rw [leftJoin, leftJoin, leftJoin, List.flatMap_cons, List.flatMap_singleton]
    have same : ∀ pair ∈ leftJoin on [row] right, keeps pair.1 = keeps row := by
      intro pair member
      rw [pairs pair member]
    rw [cut left, List.filter_append, ih, List.filter_congr same, List.filter_cons]
    by_cases kept : keeps row = true
    · rw [if_pos kept, cut (left.filter keeps), kept, List.filter_true]
    · rw [if_neg kept, Bool.eq_false_iff.mpr kept, List.filter_false, List.nil_append]

/-- A join has just some of its left rows, once each, when these are all and no left row matches
two right rows. -/
theorem perm_leftJoin_iff {κ : Type} {on : ρ → σ → Bool} {wanted left : List ρ} {right : List σ}
    (number : ρ → κ) (part : wanted.Sublist left) :
    ((leftJoin on left right).map fun pair => number pair.1).Perm (wanted.map number) ↔
      wanted = left ∧ ∀ row ∈ left, (right.filter (on row)).length ≤ 1 := by
  constructor
  · intro same
    have length := same.length_eq
    rw [List.length_map, List.length_map] at length
    have least := length_le_leftJoin on left right
    have most := part.length_le
    exact ⟨part.eq_of_length (by omega), single_of_length_leftJoin (by omega)⟩
  · rintro ⟨rfl, single⟩
    have once := congrArg (List.map number) (map_fst_leftJoin single)
    rw [List.map_map] at once
    exact List.Perm.of_eq once

/-- The rows of the join with a right part pair the rows that match. -/
theorem mem_leftJoin {on : ρ → σ → Bool} {left : List ρ} {right : List σ} {row : ρ} {other : σ} :
    (row, some other) ∈ leftJoin on left right ↔
      row ∈ left ∧ other ∈ right ∧ on row other = true := by
  rw [leftJoin, List.mem_flatMap]
  constructor
  · rintro ⟨source, found, pair⟩
    cases matched : right.filter (on source) with
    | nil => simp [matched] at pair
    | cons first more =>
      rw [matched] at pair
      obtain ⟨match', inside, same⟩ := List.mem_map.mp pair
      obtain ⟨rfl, rfl⟩ : source = row ∧ match' = other := by simpa using same
      rw [← matched, List.mem_filter] at inside
      exact ⟨found, inside.1, inside.2⟩
  · rintro ⟨found, inside, matches'⟩
    refine ⟨row, found, ?_⟩
    have selected : other ∈ right.filter (on row) := List.mem_filter.mpr ⟨inside, matches'⟩
    cases matched : right.filter (on row) with
    | nil =>
      rw [matched] at selected
      cases selected
    | cons first more =>
      rw [matched] at selected
      exact List.mem_map.mpr ⟨other, selected, rfl⟩

/-! ## Sorting -/

/-- A row is inserted after the rows it does not come before, and before those it does. -/
theorem orderedInsert_between {before : ρ → ρ → Prop} [DecidableRel before] {row : ρ}
    {earlier later : List ρ} (after : ∀ other ∈ earlier, ¬ before row other)
    (first : ∀ other ∈ later, before row other) :
    (earlier ++ later).orderedInsert before row = earlier ++ row :: later := by
  induction earlier with
  | nil =>
    cases later with
    | nil => rfl
    | cons other later => exact if_pos (first other List.mem_cons_self)
  | cons other earlier ih =>
    rw [List.cons_append, List.orderedInsert_cons, if_neg (after other List.mem_cons_self),
      ih fun row member => after row (List.mem_cons_of_mem other member), List.cons_append]

/-- Groups of rows, each of which comes after those that follow it, are sorted by taking the groups
in reverse; rows of one group keep their order. -/
theorem insertionSort_groups {before : σ → σ → Prop} [DecidableRel before] {group : ρ → List σ}
    {rows : List ρ}
    (within : ∀ row ∈ rows, ∀ left ∈ group row, ∀ right ∈ group row, before left right)
    (across : rows.Pairwise fun older newer => ∀ left ∈ group older, ∀ right ∈ group newer,
      ¬ before left right) :
    (rows.flatMap group).insertionSort before = rows.reverse.flatMap group := by
  induction rows with
  | nil => rfl
  | cons row rows ih =>
    obtain ⟨first, rest⟩ := List.pairwise_cons.mp across
    have sorted := ih (fun other member => within other (List.mem_cons_of_mem row member)) rest
    have own := within row List.mem_cons_self
    have others : ∀ left ∈ group row, ∀ right ∈ rows.reverse.flatMap group,
        ¬ before left right := by
      intro left leftMember right rightMember
      obtain ⟨other, inside, found⟩ := List.mem_flatMap.mp rightMember
      exact first other (List.mem_reverse.mp inside) left leftMember right found
    rw [List.flatMap_cons, List.reverse_cons, List.flatMap_append, List.flatMap_singleton]
    -- The group is inserted from its last row on.
    generalize rows.reverse.flatMap group = done at sorted others
    generalize group row = items at own others
    induction items with
    | nil => rw [List.nil_append, sorted, List.append_nil]
    | cons item items insert =>
      have inside {other : σ} (member : other ∈ items) : other ∈ item :: items :=
        List.mem_cons_of_mem item member
      rw [List.cons_append, List.insertionSort_cons,
        insert (fun left leftMember right rightMember =>
          own left (inside leftMember) right (inside rightMember))
          (fun left member => others left (inside member)),
        orderedInsert_between (others item List.mem_cons_self)
          fun other member => own item List.mem_cons_self other (inside member)]

end Talk.Table
