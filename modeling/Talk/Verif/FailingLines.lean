import Talk.Verif.Chunking

/-!
# Lines that do not parse

A feed that comes upon a line that does not parse returns its error, and with it goes every command
that the feed has come upon before. The reader goes on behind the line. So a command is lost exactly
if a later line does not parse and falls to the same feed, and that follows from the lengths of the
chunks: an event falls to the feed that brings its last byte, or to the one after the feed that has
stopped before it.
-/

namespace Talk.Verif.FailingLines

open Imap Incremental ReaderSteps Chunking
open Pipelining (roundsFor)

/-! ## Feeds that go on -/

/-- The chunks are fed, one after the other, also after a feed that fails: the commands that are
returned. -/
def returned : CommandReader → List (List UInt8) → List ParsedCommand
  | _, [] => []
  | reader, chunk :: chunks =>
    match reader.feed chunk with
    | (.ok now, after) => now ++ returned after chunks
    | (.failed _, after) => returned after chunks
    | (.diverges, _) => []

/-! ## Places in a stream -/

/-- A step, with the number of bytes that are left after an event. -/
def place (reader : CommandReader) : Option (List (Event × Nat) × CommandReader) :=
  (move reader).map fun (now, after) => (now.map (·, after.buf.length), after)

/-- What a reader comes upon in a stream, and what it keeps at the end. -/
def drain (stream : List UInt8) : List (Event × Nat) × CommandReader :=
  read place (2 * stream.length) { buf := stream }

/-- A step with places is a step. -/
theorem place_eq_some_iff {reader after : CommandReader} {items : List (Event × Nat)} :
    place reader = some (items, after) ↔
      ∃ now, Moves reader now after ∧ items = now.map (·, after.buf.length) := by
  unfold place
  constructor
  · intro goes
    obtain ⟨⟨now, end'⟩, moved, same⟩ := Option.map_eq_some_iff.mp goes
    obtain ⟨rfl, rfl⟩ := Prod.mk.inj same
    exact ⟨now, move_iff.mp moved, rfl⟩
  · rintro ⟨now, moves, rfl⟩
    rw [move_iff.mpr moves]
    rfl

/-- Where no step can be made, none with places can. -/
theorem rests_place {reader : CommandReader} : Rests place reader ↔ Rests move reader :=
  Option.map_eq_none_iff

/-- A step lengthens no buffer. -/
theorem moves_buf_le {reader after : CommandReader} {now : List Event}
    (moves : Moves reader now after) : after.buf.length ≤ reader.buf.length := by
  cases moves with
  | byte | finish => simp
  | marker | command | failure =>
    simp
    omega

/-- Steps can be made with places, which are not before the end of the steps. -/
theorem reads_place {reader last : CommandReader} {events : List Event}
    (reads : Reads move reader events last) :
    ∃ items, items.map Prod.fst = events ∧ Reads place reader items last ∧
      ∀ item ∈ items, last.buf.length ≤ item.2 := by
  have shorter {reader last : CommandReader} {events : List Event}
      (reads : Reads move reader events last) : last.buf.length ≤ reader.buf.length := by
    induction reads with
    | refl => exact Nat.le_refl _
    | next goes _ ih => exact Nat.le_trans ih (moves_buf_le (move_iff.mp goes))
  induction reads with
  | refl reader => exact ⟨[], rfl, .refl reader, nofun⟩
  | @next reader after last now later goes rest ih =>
    obtain ⟨items, same, placed, behind⟩ := ih
    have first : place reader = some (now.map (·, after.buf.length), after) :=
      place_eq_some_iff.mpr ⟨now, move_iff.mp goes, rfl⟩
    refine ⟨now.map (·, after.buf.length) ++ items, ?_, .next first placed, ?_⟩
    · have front : (now.map (·, after.buf.length)).map Prod.fst = now := by
        rw [List.map_map]
        exact List.map_id now
      rw [List.map_append, front, same]
    · intro item member
      rcases List.mem_append.mp member with now | later
      · obtain ⟨event, -, rfl⟩ := List.mem_map.mp now
        exact shorter rest
      · exact behind item later

/-- The places of the steps are in the buffer. -/
theorem place_le {reader last : CommandReader} {items : List (Event × Nat)}
    (reads : Reads place reader items last) : ∀ item ∈ items, item.2 ≤ reader.buf.length := by
  induction reads with
  | refl => nofun
  | next goes rest ih =>
    intro item member
    obtain ⟨now, moves, rfl⟩ := place_eq_some_iff.mp goes
    have shorter := moves_buf_le moves
    rcases List.mem_append.mp member with front | later
    · obtain ⟨event, -, rfl⟩ := List.mem_map.mp front
      exact shorter
    · exact Nat.le_trans (ih item later) shorter

/-- Where a reader has no step to make, and no literal is open, no line is left. -/
theorem free_of_rests {buf pending : List UInt8} (rests : Rests move ⟨buf, pending, none⟩)
    (sound : ¬Broken ⟨buf, pending, none⟩) : 10 ∉ buf := by
  intro ends
  have taken : nextLine buf =
      some (buf.takeWhile (· != 10), (buf.dropWhile (· != 10)).drop 1) := if_pos ends
  generalize buf.takeWhile (· != 10) = line at taken
  unfold Rests move at rests
  rw [taken] at rests
  dsimp only at rests
  by_cases ending : line ≠ [] ∧ line.getLast? ≠ some 13
  · exact sound ⟨rfl, line, _, taken, .inl ending⟩
  · rw [if_neg ending] at rests
    cases marked : literalCount line.dropLast with
    | some found =>
      rw [marked] at rests
      cases rests
    | none =>
      rw [marked] at rests
      dsimp only at rests
      cases parsed : parseLine (pending ++ line.dropLast) with
      | diverges => exact sound ⟨rfl, line, _, taken, .inr ⟨marked, parsed⟩⟩
      | failed =>
        rw [parsed] at rests
        cases rests
      | ok =>
        rw [parsed] at rests
        cases rests

/-- Where a reader has no step to make, the next one uses all that it has and more. -/
theorem moves_beyond {reader after : CommandReader} {future : List UInt8} {now : List Event}
    (moves : Moves (more reader future) now after) (rests : Rests move reader)
    (sound : ¬Broken reader) : after.buf.length < future.length := by
  obtain ⟨buf, pending, literal⟩ := reader
  generalize whole : more ⟨buf, pending, literal⟩ future = start at moves
  -- The end of a line is not in the buffer.
  have outside {line rest : List UInt8} (none : literal = none)
      (cut : buf ++ future = line ++ 10 :: rest) : rest.length < future.length := by
    subst none
    have free := free_of_rests rests sound
    by_contra long
    have lengths := congrArg List.length cut
    simp only [List.length_append, List.length_cons] at lengths
    have inside : line ++ [10] <+: buf :=
      List.prefix_of_prefix_length_le ⟨rest, by simp [cut]⟩ ⟨future, rfl⟩ (by simp; omega)
    exact free (inside.subset (by simp))
  cases moves with
  | byte byte rest pending' count =>
    obtain ⟨cut, rfl, rfl⟩ := CommandReader.mk.inj whole
    cases buf with
    | nil =>
      rw [List.nil_append] at cut
      simp [cut]
    | cons => cases rests
  | finish buf' pending' =>
    obtain ⟨cut, rfl, rfl⟩ := CommandReader.mk.inj whole
    cases rests
  | marker ended marked rest pending' =>
    obtain ⟨cut, rfl, none⟩ := CommandReader.mk.inj whole
    exact outside none cut
  | command ended last parsed rest =>
    obtain ⟨cut, rfl, none⟩ := CommandReader.mk.inj whole
    exact outside none cut
  | failure ended last failed rest =>
    obtain ⟨cut, rfl, none⟩ := CommandReader.mk.inj whole
    exact outside none cut

/-- Where a reader has no step to make, all events to come are places in what is to come. -/
theorem place_beyond {reader last : CommandReader} {future : List UInt8}
    {items : List (Event × Nat)} (reads : Reads place (more reader future) items last)
    (rests : Rests move reader) (sound : ¬Broken reader) :
    ∀ item ∈ items, item.2 < future.length := by
  cases reads with
  | refl => nofun
  | next goes rest =>
    intro item member
    obtain ⟨now, moves, rfl⟩ := place_eq_some_iff.mp goes
    have less := moves_beyond moves rests sound
    rcases List.mem_append.mp member with front | later
    · obtain ⟨event, -, rfl⟩ := List.mem_map.mp front
      exact less
    · exact Nat.lt_of_le_of_lt (place_le rest item later) less

/-! ## Turns -/

/-- The feed that brings the last byte before so many that are left. -/
def arrival : List (List UInt8) → Nat → Nat
  | [], _ => 0
  | _ :: chunks, left => if chunks.flatten.length ≤ left then 0 else arrival chunks left + 1

/-- A feed stops at an event. -/
def stops : Event → Bool
  | .command _ => false
  | .marker | .failure => true

/-- The feed that an event falls to: the one that brings its last byte, or the first that is due,
which is the one after a feed that has stopped. -/
def turns (chunks : List (List UInt8)) : Nat → List (Event × Nat) → List (Event × Nat)
  | _, [] => []
  | due, (event, left) :: later =>
    let turn := max due (arrival chunks left)
    (event, turn) :: turns chunks (if stops event then turn + 1 else turn) later

/-- An event falls to the feed after. -/
def postpone (item : Event × Nat) : Event × Nat := (item.1, item.2 + 1)

/-- The commands that so many feeds return: each that falls to one of them, unless a failure after
it falls to the same. -/
def kept (calls : Nat) : List (Event × Nat) → List ParsedCommand
  | [] => []
  | (.command cmd, turn) :: later =>
    if turn < calls ∧ (.failure, turn) ∉ later then cmd :: kept calls later else kept calls later
  | (.marker, _) :: later | (.failure, _) :: later => kept calls later

/-- An event is a command. -/
def isCommand : Event → Bool
  | .command _ => true
  | .marker | .failure => false

/-- No failure falls to the feed of a command before it. -/
def Spared (items : List (Event × Nat)) : Prop :=
  items.Pairwise fun earlier later => isCommand earlier.1 = true → later ≠ (.failure, earlier.2)

/-- Whether one does can be decided. -/
instance (items : List (Event × Nat)) : Decidable (Spared items) :=
  inferInstanceAs (Decidable (items.Pairwise _))

/-- All commands fall to so many feeds. -/
def InTime (calls : Nat) (items : List (Event × Nat)) : Prop :=
  ∀ item ∈ items, isCommand item.1 = true → item.2 < calls

/-- Behind a first feed, the turns are those of the other feeds, one later. -/
theorem turns_succ (chunk : List UInt8) (chunks : List (List UInt8)) (due : Nat)
    (items : List (Event × Nat)) :
    turns (chunk :: chunks) (due + 1) items = (turns chunks due items).map postpone := by
  have behind {left : Nat} (early : chunks.flatten.length ≤ left) : arrival chunks left = 0 := by
    cases chunks with
    | nil => rfl
    | cons first rest =>
      rw [arrival, if_pos]
      rw [List.flatten_cons, List.length_append] at early
      omega
  induction items generalizing due with
  | nil => rfl
  | cons item items ih =>
    obtain ⟨event, left⟩ := item
    have turn : max (due + 1) (arrival (chunk :: chunks) left) =
        max due (arrival chunks left) + 1 := by
      rw [arrival]
      by_cases early : chunks.flatten.length ≤ left
      · rw [if_pos early, behind early]
        omega
      · rw [if_neg early]
        omega
    have next : (if stops event then max due (arrival chunks left) + 1 + 1
        else max due (arrival chunks left) + 1) =
        (if stops event then max due (arrival chunks left) + 1
        else max due (arrival chunks left)) + 1 := by
      cases stops event <;> rfl
    rw [turns, turns, turn, next, ih]
    rfl

/-- What a first feed does not bring has its turn with the other feeds. -/
theorem turns_later (chunk : List UInt8) {chunks : List (List UInt8)} {items : List (Event × Nat)}
    (late : ∀ item ∈ items, item.2 < chunks.flatten.length) :
    turns (chunk :: chunks) 0 items = (turns chunks 0 items).map postpone := by
  cases items with
  | nil => rfl
  | cons item items =>
    obtain ⟨event, left⟩ := item
    have less : left < chunks.flatten.length := late _ (.head items)
    have next : (if stops event then arrival chunks left + 1 + 1 else arrival chunks left + 1) =
        (if stops event then arrival chunks left + 1 else arrival chunks left) + 1 := by
      cases stops event <;> rfl
    rw [turns, turns, arrival, if_neg (Nat.not_le.mpr less), Nat.zero_max, Nat.zero_max, next,
      turns_succ]
    rfl

/-- The commands that a first feed brings fall to it. -/
theorem turns_now (chunk : List UInt8) {chunks : List (List UInt8)} {cmds : List ParsedCommand}
    {now : List (Event × Nat)} (same : now.map Prod.fst = cmds.map Event.command)
    (early : ∀ item ∈ now, chunks.flatten.length ≤ item.2) (later : List (Event × Nat)) :
    turns (chunk :: chunks) 0 (now ++ later) =
      cmds.map (.command ·, 0) ++ turns (chunk :: chunks) 0 later := by
  induction cmds generalizing now with
  | nil =>
    rw [List.map_eq_nil_iff.mp same]
    rfl
  | cons cmd cmds ih =>
    cases now with
    | nil => cases same
    | cons item now =>
      obtain ⟨event, left⟩ := item
      have parts := List.cons.inj same
      have event : event = .command cmd := parts.1
      have first : chunks.flatten.length ≤ left := early _ (.head now)
      have rest := ih parts.2 fun item member => early item (.tail _ member)
      rw [List.cons_append, turns, arrival, if_pos first, event]
      exact congrArg ((Event.command cmd, 0) :: ·) rest

/-- The commands that a first feed brings before it stops fall to it, and what comes after has its
turn with the other feeds. -/
theorem turns_stop (chunk : List UInt8) {chunks : List (List UInt8)} {cmds : List ParsedCommand}
    {event : Event} (stop : stops event = true) {now : List (Event × Nat)}
    (same : now.map Prod.fst = cmds.map Event.command ++ [event])
    (early : ∀ item ∈ now, chunks.flatten.length ≤ item.2) (later : List (Event × Nat)) :
    turns (chunk :: chunks) 0 (now ++ later) =
      cmds.map (.command ·, 0) ++ (event, 0) :: (turns chunks 0 later).map postpone := by
  obtain ⟨front, back, rfl, commands, last⟩ := List.map_eq_append_iff.mp same
  obtain ⟨⟨other, left⟩, rfl, rfl⟩ := List.map_eq_singleton_iff.mp last
  have first : chunks.flatten.length ≤ left := early _ (List.mem_append_right front (.head []))
  rw [List.append_assoc,
    turns_now chunk commands (fun item member => early item (List.mem_append_left _ member))]
  dsimp only at stop
  rw [List.singleton_append, turns, arrival, if_pos first, stop]
  exact congrArg (fun rest => cmds.map (.command ·, 0) ++ (other, 0) :: rest)
    (turns_succ chunk chunks 0 later)

/-- The commands of the other feeds, one later. -/
theorem kept_postpone (calls : Nat) (items : List (Event × Nat)) :
    kept (calls + 1) (items.map postpone) = kept calls items := by
  induction items with
  | nil => rfl
  | cons item items ih =>
    obtain ⟨event, turn⟩ := item
    cases event with
    | marker | failure => exact ih
    | command cmd =>
      have same : (Event.failure, turn + 1) ∈ items.map postpone ↔ (.failure, turn) ∈ items := by
        constructor
        · intro member
          obtain ⟨⟨event, other⟩, inside, same⟩ := List.mem_map.mp member
          obtain ⟨rfl, turns⟩ := Prod.mk.inj same
          obtain rfl : other = turn := Nat.succ.inj turns
          exact inside
        · exact fun member => List.mem_map_of_mem member
      show kept (calls + 1) ((.command cmd, turn + 1) :: items.map postpone) = _
      rw [kept, kept, ih]
      simp only [Nat.add_lt_add_iff_right, same]

/-- The commands of a first feed are kept if nothing fails in it. -/
theorem kept_now (calls : Nat) (cmds : List ParsedCommand) (later : List (Event × Nat)) :
    kept (calls + 1) (cmds.map (.command ·, 0) ++ later) =
      (if (.failure, 0) ∈ later then [] else cmds) ++ kept (calls + 1) later := by
  induction cmds with
  | nil => simp
  | cons cmd cmds ih =>
    have same : (Event.failure, 0) ∈ cmds.map (Event.command ·, 0) ++ later ↔
        (.failure, 0) ∈ later := by
      simp
    rw [List.map_cons, List.cons_append, kept, ih]
    by_cases fails : (Event.failure, 0) ∈ later
    · rw [if_neg fun both => both.2 (same.mpr fails), if_pos fails, if_pos fails]
    · rw [if_pos ⟨Nat.succ_pos calls, fun member => fails (same.mp member)⟩, if_neg fails,
        if_neg fails]
      rfl

/-- Nothing is kept without a feed. -/
theorem kept_zero (items : List (Event × Nat)) : kept 0 items = [] := by
  induction items with
  | nil => rfl
  | cons item items ih =>
    obtain ⟨event, turn⟩ := item
    cases event with
    | marker | failure => exact ih
    | command cmd =>
      rw [kept, if_neg (fun both => Nat.not_lt_zero turn both.1)]
      exact ih

/-- What falls to the other feeds is no failure of the first. -/
theorem failure_not_postponed (items : List (Event × Nat)) :
    (Event.failure, 0) ∉ items.map postpone := by
  intro member
  obtain ⟨item, -, same⟩ := List.mem_map.mp member
  exact Nat.succ_ne_zero _ (congrArg Prod.snd same)

/-- A stream without a broken line: feeds return the commands that are kept by the turns. -/
theorem returned_eq_kept {reader last : CommandReader} {chunks : List (List UInt8)}
    {items : List (Event × Nat)} (reads : Reads place (more reader chunks.flatten) items last)
    (rests : Rests move last) (sound : ¬Broken last) :
    returned reader chunks = kept chunks.length (turns chunks 0 items) := by
  induction chunks generalizing reader items with
  | nil => exact (kept_zero _).symm
  | cons chunk chunks ih =>
    rw [returned, List.length_cons]
    rw [List.flatten_cons, growing.append] at reads
    -- The steps of the first feed are the first ones of the stream.
    have split {events : List Event} {middle : CommandReader}
        (front : Reads move (more reader chunk) events middle) :
        ∃ now later, items = now ++ later ∧ now.map Prod.fst = events ∧
          (∀ item ∈ now, chunks.flatten.length ≤ item.2) ∧
          Reads place (more middle chunks.flatten) later last := by
      obtain ⟨now, same, placed, behind⟩ := reads_place (front.more growing chunks.flatten)
      obtain ⟨later, whole, rest⟩ := reads.residue (rests_place.mpr rests) placed
      refine ⟨now, later, whole, same, fun item member => ?_, rest⟩
      have far := behind item member
      have length : (more middle chunks.flatten).buf.length =
          middle.buf.length + chunks.flatten.length := List.length_append
      omega
    have feeds := feed_feeds reader chunk
    generalize reader.feed chunk = fed at feeds
    cases feeds with
    | @whole cmds middle front still unbroken =>
      obtain ⟨now, later, rfl, same, early, rest⟩ := split front
      rw [turns_now chunk same early, turns_later chunk (place_beyond rest still unbroken),
        kept_now, if_neg (failure_not_postponed _), kept_postpone, ← ih rest]
    | @marker cmds middle front waits =>
      obtain ⟨now, later, rfl, same, early, rest⟩ := split front
      have others : (Event.failure, 0) ∉ (.marker, 0) :: (turns chunks 0 later).map postpone := by
        simp [failure_not_postponed]
      rw [turns_stop chunk rfl same early, kept_now, if_neg others, kept, kept_postpone, ← ih rest]
    | @failure cmds error middle front other =>
      obtain ⟨now, later, rfl, same, early, rest⟩ := split front
      rw [turns_stop chunk rfl same early, kept_now, if_pos (.head _), kept, kept_postpone,
        List.nil_append, ← ih rest]
    | broken front broken either less =>
      -- The steps do not go through a broken line.
      have onward := front.more growing chunks.flatten
      obtain ⟨placed, -, stuck, -⟩ := reads_place onward
      obtain ⟨later, -, rest⟩ := reads.residue (rests_place.mpr rests) stuck
      have still := broken.more chunks.flatten
      exact absurd ((rest.of_rests (rests_place.mpr still.rests)).2 ▸ still) sound

/-! ## Commands that are kept -/

/-- No more commands are kept than there are. -/
theorem kept_length_le (calls : Nat) (items : List (Event × Nat)) :
    (kept calls items).length ≤ (commandsOf (items.map Prod.fst)).length := by
  induction items with
  | nil => exact Nat.le_refl _
  | cons item items ih =>
    obtain ⟨event, turn⟩ := item
    cases event with
    | marker | failure => exact ih
    | command cmd =>
      have more : commandsOf (((Event.command cmd, turn) :: items).map Prod.fst) =
          cmd :: commandsOf (items.map Prod.fst) := rfl
      rw [kept, more, List.length_cons]
      by_cases both : turn < calls ∧ (Event.failure, turn) ∉ items
      · rw [if_pos both, List.length_cons]
        omega
      · rw [if_neg both]
        omega

/-- All commands are kept exactly if none falls to the feed of a later failure, and the feeds
suffice. -/
theorem kept_eq_iff (calls : Nat) (items : List (Event × Nat)) :
    kept calls items = commandsOf (items.map Prod.fst) ↔ Spared items ∧ InTime calls items := by
  induction items with
  | nil => exact iff_of_true rfl ⟨.nil, nofun⟩
  | cons item items ih =>
    obtain ⟨event, turn⟩ := item
    have others (no : isCommand event = false) :
        (Spared items ∧ InTime calls items ↔
          Spared ((event, turn) :: items) ∧ InTime calls ((event, turn) :: items)) := by
      unfold Spared InTime
      rw [List.pairwise_cons, List.forall_mem_cons]
      simp [no]
    cases event with
    | marker => exact ih.trans (others rfl)
    | failure => exact ih.trans (others rfl)
    | command cmd =>
      have more : commandsOf (((Event.command cmd, turn) :: items).map Prod.fst) =
          cmd :: commandsOf (items.map Prod.fst) := rfl
      have first : Spared ((.command cmd, turn) :: items) ↔
          (Event.failure, turn) ∉ items ∧ Spared items := by
        unfold Spared
        rw [List.pairwise_cons]
        refine and_congr ?_ Iff.rfl
        constructor
        · exact fun all member => all _ member rfl rfl
        · exact fun none item member _ same => none (same ▸ member)
      have soon : InTime calls ((.command cmd, turn) :: items) ↔
          turn < calls ∧ InTime calls items := by
        unfold InTime
        rw [List.forall_mem_cons]
        exact and_congr ⟨fun all => all rfl, fun less _ => less⟩ Iff.rfl
      rw [kept, more, first, soon]
      by_cases both : turn < calls ∧ (Event.failure, turn) ∉ items
      · rw [if_pos both, List.cons_inj_right, ih]
        exact ⟨fun rest => ⟨⟨both.2, rest.1⟩, both.1, rest.2⟩, fun all => ⟨all.1.2, all.2.2⟩⟩
      · rw [if_neg both]
        refine iff_of_false (fun same => ?_) fun all => both ⟨all.2.1, all.1.1⟩
        have fewer := kept_length_le calls items
        rw [same, List.length_cons] at fewer
        omega

/-- The turns are those of the events of a stream. -/
theorem map_fst_turns (chunks : List (List UInt8)) (due : Nat) (items : List (Event × Nat)) :
    (turns chunks due items).map Prod.fst = items.map Prod.fst := by
  induction items generalizing due with
  | nil => rfl
  | cons item items ih => exact congrArg (item.1 :: ·) (ih _)

/-- A place is in one of the chunks. -/
theorem arrival_le (chunks : List (List UInt8)) (left : Nat) :
    arrival chunks left ≤ chunks.length := by
  induction chunks with
  | nil => exact Nat.le_refl 0
  | cons chunk chunks ih =>
    rw [arrival, List.length_cons]
    split <;> omega

/-- Every event has a turn, with as many more feeds as there are events. -/
theorem turns_lt (chunks : List (List UInt8)) (due : Nat) (items : List (Event × Nat)) :
    ∀ item ∈ turns chunks due items, item.2 < max due chunks.length + items.length := by
  induction items generalizing due with
  | nil => nofun
  | cons item items ih =>
    obtain ⟨event, left⟩ := item
    have least := arrival_le chunks left
    intro item member
    rw [List.length_cons]
    rcases List.mem_cons.mp member with rfl | later
    · dsimp only
      omega
    · have less := ih _ item later
      split at less <;> omega

/-- Feeds without bytes bring nothing. -/
theorem arrival_append (chunks : List (List UInt8)) (count left : Nat) :
    arrival (chunks ++ List.replicate count []) left = arrival chunks left := by
  induction chunks with
  | nil =>
    cases count with
    | zero => rfl
    | succ count =>
      show arrival ([] :: List.replicate count []) left = 0
      rw [arrival, if_pos]
      simp
  | cons chunk chunks ih => simp [arrival, ih]

/-- Feeds without bytes change no turn. -/
theorem turns_append (chunks : List (List UInt8)) (count due : Nat) (items : List (Event × Nat)) :
    turns (chunks ++ List.replicate count []) due items = turns chunks due items := by
  induction items generalizing due with
  | nil => rfl
  | cons item items ih =>
    obtain ⟨event, left⟩ := item
    rw [turns, turns, arrival_append, ih]

/-- What a reader comes upon in a stream are steps, up to a state of rest. -/
theorem drain_reads (stream : List UInt8) :
    Reads place { buf := stream } (drain stream).1 (drain stream).2 ∧
      Rests place (drain stream).2 := by
  have decreases (reader : CommandReader) (items : List (Event × Nat)) (after : CommandReader)
      (goes : place reader = some (items, after)) : roundsFor after < roundsFor reader := by
    obtain ⟨now, moves, -⟩ := place_eq_some_iff.mp goes
    exact move_decreases _ now _ (move_iff.mpr moves)
  exact ⟨reads_read _ _, rests_read roundsFor decreases (Nat.le_refl _)⟩

/-- What feeds return of a stream without a broken line. -/
theorem returned_stream {chunks : List (List UInt8)} (sound : ¬Broken (drain chunks.flatten).2)
    (count : Nat) :
    returned {} (chunks ++ List.replicate count []) =
      kept (chunks.length + count) (turns chunks 0 (drain chunks.flatten).1) := by
  have whole := drain_reads chunks.flatten
  have bytes : more {} (chunks ++ List.replicate count []).flatten = { buf := chunks.flatten } := by
    simp [more]
  have reads : Reads place (more {} (chunks ++ List.replicate count []).flatten)
      (drain chunks.flatten).1 (drain chunks.flatten).2 := by
    rw [bytes]
    exact whole.1
  rw [returned_eq_kept reads (rests_place.mp whole.2) sound, turns_append, List.length_append,
    List.length_replicate]

/-- However the bytes of a stream without a broken line are cut into chunks: the commands of all its
lines that parse are returned, each once and in order, in these feeds and in more of them, exactly
if none falls to the feed of a later line that does not parse. These feeds alone return them exactly
if moreover no command falls to a feed after them. -/
theorem commands_kept_iff (chunks : List (List UInt8)) (sound : ¬Broken (drain chunks.flatten).2) :
    let all := commandsOf ((drain chunks.flatten).1.map Prod.fst)
    let items := turns chunks 0 (drain chunks.flatten).1
    ((∃ count, returned {} (chunks ++ List.replicate count []) = all) ↔ Spared items) ∧
      (returned {} chunks = all ↔ Spared items ∧ InTime chunks.length items) := by
  intro all items
  have same : all = commandsOf (items.map Prod.fst) := by rw [map_fst_turns]
  constructor
  · constructor
    · rintro ⟨count, whole⟩
      rw [returned_stream sound, same] at whole
      exact ((kept_eq_iff _ _).mp whole).1
    · intro spared
      refine ⟨(drain chunks.flatten).1.length, ?_⟩
      rw [returned_stream sound, same]
      refine (kept_eq_iff _ _).mpr ⟨spared, fun item member _ => ?_⟩
      have less := turns_lt chunks 0 _ item member
      rwa [Nat.zero_max] at less
  · have alone := returned_stream sound 0
    rw [List.replicate_zero, List.append_nil, Nat.add_zero] at alone
    rw [alone, same]
    exact kept_eq_iff _ _

/-! ## Lines -/

/-- A line, without its end, that parses or does not, and has no marker of a literal. -/
structure Complete (line : List UInt8) : Prop where
  /-- It is one line. -/
  oneLine : 10 ∉ line
  /-- No literal follows. -/
  last : literalCount line = none
  /-- The tokenizer returns. -/
  returns : parseLine line ≠ .diverges

/-- Lines as they are sent. -/
def wire (lines : List (List UInt8)) : List UInt8 := lines.flatMap (· ++ [13, 10])

/-- What a line is to the reader. -/
def lineEvent (line : List UInt8) : Event :=
  match parseLine line with
  | .ok cmd => .command cmd
  | .failed _ | .diverges => .failure

/-- Lines, with their places. -/
def linePlaces : List (List UInt8) → List (Event × Nat)
  | [] => []
  | line :: lines => (lineEvent line, (wire lines).length) :: linePlaces lines

/-- In complete lines, a reader comes upon each of them, and keeps nothing. -/
theorem drain_wire {lines : List (List UInt8)} (complete : ∀ line ∈ lines, Complete line) :
    drain (wire lines) = (linePlaces lines, {}) := by
  have reads : Reads place { buf := wire lines } (linePlaces lines) {} := by
    induction lines with
    | nil => exact .refl _
    | cons line lines ih =>
      have first : Complete line := complete line (.head lines)
      have bytes : wire (line :: lines) = (line ++ [13]) ++ 10 :: wire lines := by simp [wire]
      have ended : Ended (line ++ [13]) := ⟨by simp [first.oneLine], by simp⟩
      have last : literalCount (line ++ [13]).dropLast = none := by
        rw [List.dropLast_concat]
        exact first.last
      have moves : Moves { buf := wire (line :: lines) } [lineEvent line]
          { buf := wire lines } := by
        rw [bytes, lineEvent]
        cases parsed : parseLine line with
        | diverges => exact absurd parsed first.returns
        | failed => exact .failure ended last (by rwa [List.dropLast_concat]) (wire lines)
        | ok => exact .command ended last (by rwa [List.dropLast_concat]) (wire lines)
      have goes : place { buf := wire (line :: lines) } =
          some ([(lineEvent line, (wire lines).length)], { buf := wire lines }) :=
        place_eq_some_iff.mpr ⟨_, moves, rfl⟩
      exact .next goes (ih fun other member => complete other (.tail line member))
  have whole := drain_reads (wire lines)
  obtain ⟨items, last⟩ := whole.1.unique whole.2 reads (rests_place.mpr rests_empty.1)
  exact Prod.ext items last

/-- The commands of complete lines are those that the lines parse to. -/
theorem commandsOf_linePlaces (lines : List (List UInt8)) :
    commandsOf ((linePlaces lines).map Prod.fst) =
      lines.filterMap fun line =>
        match parseLine line with
        | .ok cmd => some cmd
        | .failed _ | .diverges => none := by
  induction lines with
  | nil => rfl
  | cons line lines ih =>
    rw [List.filterMap_cons, ← ih]
    show commandsOf (lineEvent line :: (linePlaces lines).map Prod.fst) = _
    rw [lineEvent]
    cases parseLine line with
    | diverges => rfl
    | failed => rfl
    | ok => rfl

/-- A quoted string that is not closed. -/
def badLine : List UInt8 := Utf8.bytes "A2 LIST \""

/-- A line that parses. -/
def goodLine : List UInt8 := Utf8.bytes "A1 NOOP"

/-- Both lines are complete. -/
theorem complete_lines : Complete badLine ∧ Complete goodLine :=
  ⟨⟨by decide +kernel, by decide +kernel, by decide +kernel⟩,
    ⟨by decide +kernel, by decide +kernel, by decide +kernel⟩⟩

/-- In one chunk, the line that parses is returned if it is the second one, with one more feed. -/
theorem good_after_bad_kept :
    (∃ count, returned {} ([wire [badLine, goodLine]] ++ List.replicate count []) =
      [⟨"A1", "NOOP", []⟩]) ∧ returned {} [wire [badLine, goodLine]] = [] := by
  have complete : ∀ line ∈ [badLine, goodLine], Complete line := by
    simp [complete_lines]
  have places : drain [wire [badLine, goodLine]].flatten =
      (linePlaces [badLine, goodLine], {}) := by
    rw [List.flatten_singleton]
    exact drain_wire complete
  have kept := commands_kept_iff [wire [badLine, goodLine]] (by
    rw [places]
    exact rests_empty.2)
  rw [places] at kept
  have all : commandsOf ((linePlaces [badLine, goodLine]).map Prod.fst) = [⟨"A1", "NOOP", []⟩] := by
    rw [commandsOf_linePlaces]
    decide +kernel
  rw [all] at kept
  exact ⟨kept.1.mpr (by decide +kernel), by decide +kernel⟩

/-- In one chunk, the line that parses is lost if it is the first one. -/
theorem good_before_bad_lost :
    Complete badLine ∧ Complete goodLine ∧ parseLine goodLine = .ok ⟨"A1", "NOOP", []⟩ ∧
      parseLine badLine = .failed .unclosedQuote ∧
      ∀ count, returned {} ([wire [goodLine, badLine]] ++ List.replicate count []) = [] := by
  refine ⟨complete_lines.1, complete_lines.2, by decide +kernel, by decide +kernel, fun count => ?_⟩
  have complete : ∀ line ∈ [goodLine, badLine], Complete line := by
    simp [complete_lines]
  have places : drain [wire [goodLine, badLine]].flatten =
      (linePlaces [goodLine, badLine], {}) := by
    rw [List.flatten_singleton]
    exact drain_wire complete
  have turned : turns [wire [goodLine, badLine]] 0 (linePlaces [goodLine, badLine]) =
      [(.command ⟨"A1", "NOOP", []⟩, 0), (.failure, 0)] := by
    decide +kernel
  rw [returned_stream (by rw [places]; exact rests_empty.2), places, turned]
  simp [kept]

end Talk.Verif.FailingLines
