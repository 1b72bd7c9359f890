import Mathlib.Data.List.Sort

/-!
# Removing by place

A list from which a reader removes items by their places, one number after the other, the first
place being 1. A number shifts the places behind it, so numbers that were taken from the list as it
was before do not fit the list that is left.
-/

namespace Talk.Removal

variable {α : Type}

/-- Remove the item at a place. A place that the list does not have removes nothing. -/
def removeAt : Nat → List α → List α
  | 0, items => items
  | place + 1, items => items.eraseIdx place

/-- Remove items by their numbers, one after the other. -/
def replay (numbers : List Nat) (items : List α) : List α :=
  numbers.foldl (fun left number => removeAt number left) items

/-- The item at a place, if it is one to be dropped. -/
def DropsAt (drops : α → Bool) (place : Nat) (items : List α) : Prop :=
  0 < place ∧ ∃ item, items[place - 1]? = some item ∧ drops item = true

/-- Each number is the place of an item to be dropped, when its turn comes. -/
def Names (drops : α → Bool) : List Nat → List α → Prop
  | [], _ => True
  | number :: numbers, items =>
    DropsAt drops number items ∧ Names drops numbers (removeAt number items)

/-! ## One removal -/

/-- A removal leaves part of the list. -/
theorem removeAt_sublist (place : Nat) (items : List α) : (removeAt place items).Sublist items := by
  cases place with
  | zero => exact List.Sublist.refl items
  | succ place => exact List.eraseIdx_sublist items place

/-- A removal takes one item at most. -/
theorem length_le_removeAt (place : Nat) (items : List α) :
    items.length ≤ (removeAt place items).length + 1 := by
  cases place with
  | zero => exact Nat.le_succ _
  | succ place =>
    have most := List.le_length_eraseIdx items place
    rw [removeAt]
    omega

/-- An item at a place is among those that a predicate counts, besides those that stay. -/
theorem countP_eraseIdx (counts : α → Bool) {place : Nat} {items : List α} {item : α}
    (there : items[place]? = some item) :
    items.countP counts = (items.eraseIdx place).countP counts + if counts item then 1 else 0 := by
  induction items generalizing place with
  | nil => cases there
  | cons first rest ih =>
    cases place with
    | zero =>
      have same : first = item := Option.some.inj there
      rw [List.countP_cons, List.eraseIdx_zero, List.tail_cons, same]
    | succ place =>
      rw [List.eraseIdx_cons_succ, List.countP_cons, List.countP_cons, ih there]
      omega

/-- Removing an item that is dropped anyway leaves the others. -/
theorem filter_removeAt {drops : α → Bool} {place : Nat} {items : List α}
    (named : DropsAt drops place items) :
    (removeAt place items).filter (fun item => !drops item) =
      items.filter fun item => !drops item := by
  cases place with
  | zero => exact absurd named.1 (Nat.lt_irrefl 0)
  | succ place =>
    obtain ⟨_, item, there, dropped⟩ := named
    have less : (items.eraseIdx place).countP (fun item => !drops item) =
        items.countP fun item => !drops item := by
      rw [countP_eraseIdx (fun item => !drops item) there, dropped]
      rfl
    refine ((List.eraseIdx_sublist items place).filter _).eq_of_length ?_
    rw [← List.countP_eq_length_filter, ← List.countP_eq_length_filter, less]

/-- Removing an item that is dropped leaves one less of these. -/
theorem countP_removeAt {drops : α → Bool} {place : Nat} {items : List α}
    (named : DropsAt drops place items) :
    items.countP drops = (removeAt place items).countP drops + 1 := by
  cases place with
  | zero => exact absurd named.1 (Nat.lt_irrefl 0)
  | succ place =>
    obtain ⟨_, item, there, dropped⟩ := named
    rw [countP_eraseIdx drops there, if_pos dropped]
    rfl

/-! ## Every removal -/

/-- The numbers leave part of the list. -/
theorem replay_sublist (numbers : List Nat) (items : List α) :
    (replay numbers items).Sublist items := by
  induction numbers generalizing items with
  | nil => exact List.Sublist.refl items
  | cons number numbers ih => exact (ih _).trans (removeAt_sublist number items)

/-- The numbers remove one item each at most. -/
theorem length_le_replay (numbers : List Nat) (items : List α) :
    items.length ≤ (replay numbers items).length + numbers.length := by
  induction numbers generalizing items with
  | nil => exact Nat.le_refl _
  | cons number numbers ih =>
    have one := length_le_removeAt number items
    have rest := ih (removeAt number items)
    rw [List.length_cons]
    change _ ≤ (replay numbers (removeAt number items)).length + _
    omega

/-- As many numbers as there are items to be dropped leave the others just when each number is the
place of one to be dropped. -/
theorem replay_eq_filter_iff {drops : α → Bool} {numbers : List Nat} {items : List α}
    (count : numbers.length = items.countP drops) :
    replay numbers items = items.filter (fun item => !drops item) ↔ Names drops numbers items := by
  induction numbers generalizing items with
  | nil =>
    have none : items.countP drops = 0 := count.symm
    refine iff_of_true (List.filter_eq_self.mpr fun item member => ?_).symm trivial
    rw [Bool.not_eq_true']
    exact Bool.eq_false_iff.mpr (List.countP_eq_zero.mp none item member)
  | cons number numbers ih =>
    change replay numbers (removeAt number items) = _ ↔ _
    rw [List.length_cons] at count
    by_cases named : DropsAt drops number items
    · have fewer := countP_removeAt named
      rw [← filter_removeAt named, ih (by omega)]
      exact (and_iff_right named).symm
    · refine iff_of_false (fun same => ?_) fun names => named names.1
      -- A number that names none removes an item that stays, or nothing at all.
      have total : items.length =
          items.countP drops + (items.filter fun item => !drops item).length := by
        rw [← List.countP_eq_length_filter, List.length_eq_countP_add_countP drops]
        simp only [Bool.not_eq_true, Bool.decide_eq_false]
      have rest := length_le_replay numbers (removeAt number items)
      rw [same] at rest
      have shorter : (removeAt number items).length + 1 = items.length := by
        have most := length_le_removeAt number items
        omega
      cases number with
      | zero =>
        rw [removeAt] at shorter
        omega
      | succ place =>
        have inside : place < items.length := by
          by_contra outside
          rw [removeAt, List.eraseIdx_of_length_le (Nat.le_of_not_lt outside)] at shorter
          omega
        have there := List.getElem?_eq_getElem inside
        have stays : drops items[place] = false := by
          by_contra dropped
          exact named ⟨Nat.succ_pos place, _, there, Bool.eq_true_of_not_eq_false dropped⟩
        have kept := countP_eraseIdx (fun item => !drops item) there
        have left := ((replay_sublist numbers (items.eraseIdx place)).filter
          fun item => !drops item).length_le
        change replay numbers (items.eraseIdx place) = _ at same
        rw [same, List.filter_filter, ← List.countP_eq_length_filter,
          ← List.countP_eq_length_filter] at left
        simp only [Bool.and_self, stays, Bool.not_false, if_true] at left kept
        omega

/-! ## Numbers that do not shift -/

/-- The keys behind a place are at least so far above their places. -/
def Ahead (key : α → Nat) (place gap : Nat) (items : List α) : Prop :=
  ∀ index item, items[index]? = some item → place ≤ index + 1 → index + 1 + gap ≤ key item

/-- A removal brings the items behind it one place closer to the front. -/
theorem ahead_removeAt {key : α → Nat} {place gap : Nat} {items : List α}
    (ahead : Ahead key place gap items) (positive : 0 < place) :
    Ahead key place (gap + 1) (removeAt place items) := by
  cases place with
  | zero => exact absurd positive (Nat.lt_irrefl 0)
  | succ place =>
    intro index item there behind
    have moved : items[index + 1]? = some item := by
      rw [removeAt, List.getElem?_eraseIdx, if_neg (by omega)] at there
      exact there
    have above := ahead (index + 1) item moved (by omega)
    omega

/-- Ascending numbers that come up to every key do not name the places of items whose keys are
further ahead. -/
theorem not_names_of_ahead {drops : α → Bool} {key : α → Nat} {number : Nat}
    {numbers : List Nat} {items : List α} (ascending : (number :: numbers).Pairwise (· < ·))
    (bounded : ∀ item ∈ items, drops item = true → ∃ most ∈ number :: numbers, key item ≤ most)
    {gap : Nat} (positive : 0 < gap) (ahead : Ahead key number gap items) :
    ¬Names drops (number :: numbers) items := by
  induction numbers generalizing number items gap with
  | nil =>
    rintro ⟨⟨_, item, there, dropped⟩, -⟩
    obtain ⟨most, member, below⟩ := bounded item (List.mem_of_getElem? there) dropped
    rw [List.mem_singleton] at member
    have above := ahead _ item there (by omega)
    omega
  | cons next numbers ih =>
    rintro ⟨named, names⟩
    have later : number < next := (List.pairwise_cons.mp ascending).1 next List.mem_cons_self
    have kept : ∀ item ∈ removeAt number items, drops item = true →
        ∃ most ∈ next :: numbers, key item ≤ most := by
      intro item member dropped
      obtain ⟨most, among, below⟩ :=
        bounded item ((removeAt_sublist number items).subset member) dropped
      by_cases same : most = number
      · exact ⟨next, List.mem_cons_self, by omega⟩
      · exact ⟨most, List.mem_of_ne_of_mem same among, below⟩
    refine ih (List.pairwise_cons.mp ascending).2 kept (Nat.succ_pos gap) ?_ names
    intro index item there behind
    exact ahead_removeAt ahead named.1 index item there (by omega)

/-- A positive key is at least the place of its item, among ascending keys. -/
theorem ahead_of_ascending {key : α → Nat} {items : List α} {first : Nat}
    (ascending : (items.map key).Pairwise (· < ·)) (least : ∀ item ∈ items, first < key item)
    {index : Nat} {item : α} (there : items[index]? = some item) :
    first + index + 1 ≤ key item := by
  induction items generalizing index first with
  | nil => cases there
  | cons head rest ih =>
    rw [List.map_cons, List.pairwise_cons] at ascending
    have low := least head List.mem_cons_self
    cases index with
    | zero =>
      have same : head = item := Option.some.inj there
      rw [← same]
      omega
    | succ index =>
      have above := ih ascending.2 (fun other member =>
        Nat.lt_of_le_of_lt (Nat.succ_le_of_lt low)
          (ascending.1 _ (List.mem_map_of_mem member))) there
      omega

/-- Where the numbers are the ascending keys of the items to be dropped themselves, they name the
places just when there is none, or one whose key is its place. -/
theorem names_keys_iff {drops : α → Bool} {key : α → Nat} {items : List α}
    (ascending : (items.map key).Pairwise (· < ·)) (positive : ∀ item ∈ items, 0 < key item) :
    Names drops ((items.filter drops).map key) items ↔
      items.filter drops = [] ∨
        ∃ item, items.filter drops = [item] ∧ items[key item - 1]? = some item := by
  have dropped {item : α} (member : item ∈ items.filter drops) : item ∈ items ∧ drops item = true :=
    List.mem_filter.mp member
  have inOrder : ((items.filter drops).map key).Pairwise (· < ·) :=
    ascending.sublist (List.filter_sublist.map key)
  cases gone : items.filter drops with
  | nil => exact iff_of_true trivial (.inl rfl)
  | cons item more =>
    have one := dropped (gone ▸ List.mem_cons_self)
    cases more with
    | nil =>
      constructor
      · rintro ⟨⟨_, other, there, also⟩, -⟩
        have member : other ∈ items.filter drops :=
          List.mem_filter.mpr ⟨List.mem_of_getElem? there, also⟩
        rw [gone, List.mem_singleton] at member
        exact .inr ⟨item, rfl, member ▸ there⟩
      · rintro (none | ⟨other, same, there⟩)
        · cases none
        · obtain rfl : item = other := (List.cons.inj same).1
          exact ⟨⟨positive item one.1, item, there, one.2⟩, trivial⟩
    | cons next more =>
      refine iff_of_false (fun names => ?_) ?_
      · rw [gone, List.map_cons, List.map_cons] at inOrder
        obtain ⟨named, names⟩ := names
        have later : key item < key next :=
          (List.pairwise_cons.mp inOrder).1 _ List.mem_cons_self
        have start : Ahead key (key item) 0 items := fun index other there _ => by
          have above := ahead_of_ascending ascending positive there
          omega
        have after := ahead_removeAt start named.1
        refine not_names_of_ahead (List.pairwise_cons.mp inOrder).2 (fun other member also => ?_)
          Nat.one_pos (fun index other there behind => after index other there (by omega)) names
        have found : other ∈ items.filter drops :=
          List.mem_filter.mpr ⟨(removeAt_sublist _ items).subset member, also⟩
        rw [gone, List.mem_cons] at found
        by_cases first : other = item
        · exact ⟨key next, List.mem_cons_self, by rw [first]; omega⟩
        · exact ⟨key other, List.mem_map_of_mem (found.resolve_left first), Nat.le_refl _⟩
      · rintro (none | ⟨other, same, _⟩)
        · cases none
        · cases same

end Talk.Removal
