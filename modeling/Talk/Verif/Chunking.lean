import Talk.Verif.ReaderSteps

/-!
# Chunks of a stream

The bytes of a connection arrive in chunks, cut anywhere. A feed stops at the marker of a literal
with bytes unused, so the readers of two cuts differ on the way. Once empty feeds no longer change
them they agree, in the commands that they have returned and in what they keep, as long as the lines
of the stream parse.
-/

namespace Talk.Verif.Chunking

open Imap Incremental ReaderSteps
open Pipelining (roundsFor)

/-! ## Feeds in a row -/

/-- The chunks are fed, one after the other, up to a feed that fails: the commands of all feeds, and
the reader after them. -/
def feeds : CommandReader → List (List UInt8) → Fed
  | reader, [] => (.ok [], reader)
  | reader, chunk :: chunks =>
    match reader.feed chunk with
    | (.ok now, reader) =>
      let fed := feeds reader chunks
      (fed.1.map (now ++ ·), fed.2)
    | stopped => stopped

/-- An empty feed does not change the reader. -/
def Settled (reader : CommandReader) : Prop := (reader.feed []).2 = reader

/-- Whether a reader has settled can be decided. -/
instance (reader : CommandReader) : Decidable (Settled reader) :=
  inferInstanceAs (Decidable (_ = _))

/-- The commands among what a reader comes upon. -/
def commandsOf (events : List Event) : List ParsedCommand :=
  events.filterMap fun
    | .command cmd => some cmd
    | .marker | .failure => none

/-- Commands are the commands among themselves. -/
theorem commandsOf_map (cmds : List ParsedCommand) (rest : List Event) :
    commandsOf (cmds.map .command ++ rest) = cmds ++ commandsOf rest := by
  induction cmds with
  | nil => rfl
  | cons cmd cmds ih => exact congrArg (cmd :: ·) ih

/-- Commands are no failures. -/
theorem failure_not_mem (cmds : List ParsedCommand) : Event.failure ∉ cmds.map Event.command := by
  simp

/-! ## Readers that have settled -/

/-- An empty feed adds nothing. -/
theorem feed_nil (reader : CommandReader) : Feeds reader (reader.feed []) := by
  have feeds := feed_feeds reader []
  rwa [growing.nil] at feeds

/-- A reader has settled when no step is left and no broken line is next. -/
theorem settled_iff {reader : CommandReader} :
    Settled reader ↔ Rests move reader ∧ ¬Broken reader := by
  have feeds := feed_nil reader
  unfold Settled
  generalize reader.feed [] = fed at feeds
  cases feeds with
  | whole reads rests sound =>
    dsimp only
    constructor
    · rintro rfl
      exact ⟨rests, sound⟩
    · exact fun still => (reads.of_rests still.1).2
  | marker reads waits =>
    refine iff_of_false (fun same => ?_) fun still => ?_
    · dsimp only at same
      subst same
      simpa using reads.eq_nil roundsFor move_decreases
    · simpa using (reads.of_rests still.1).1
  | failure reads other =>
    refine iff_of_false (fun same => ?_) fun still => ?_
    · dsimp only at same
      subst same
      simpa using reads.eq_nil roundsFor move_decreases
    · simpa using (reads.of_rests still.1).1
  | broken reads broken either less =>
    refine iff_of_false (fun same => ?_) fun still => ?_
    · dsimp only at same
      subst same
      have least := reads.measure_le roundsFor move_decreases
      omega
    · exact still.2 ((reads.of_rests still.1).2 ▸ broken)

/-- A feed that changes the reader leaves it less to read. -/
theorem feed_less {reader : CommandReader} (unsettled : ¬Settled reader) :
    roundsFor (reader.feed []).2 < roundsFor reader := by
  have feeds := feed_nil reader
  unfold Settled at unsettled
  generalize reader.feed [] = fed at feeds unsettled
  have moved {events : List Event} {last : CommandReader} (reads : Reads move reader events last)
      (other : last ≠ reader) : roundsFor last < roundsFor reader := by
    cases reads with
    | refl => exact absurd rfl other
    | next goes rest =>
      have first := move_decreases _ _ _ goes
      have later := rest.measure_le roundsFor move_decreases
      omega
  cases feeds with
  | whole reads => exact moved reads unsettled
  | marker reads => exact moved reads unsettled
  | failure reads => exact moved reads unsettled
  | broken reads broken either less =>
    have least := reads.measure_le roundsFor move_decreases
    exact Nat.lt_of_lt_of_le less least

/-! ## What is fed -/

/-- What feeds in a row come to: the reader has made steps through all bytes without a failure, or
it has met a line that does not parse, or a broken one. -/
inductive FeedsAll (reader : CommandReader) (bytes : List UInt8) : Fed → Prop where
  /-- Every feed returns its commands. -/
  | sound {events : List Event} {last : CommandReader} (clear : .failure ∉ events)
    (reads : Reads move (more reader bytes) events last) :
    FeedsAll reader bytes (.ok (commandsOf events), last)
  /-- A feed fails. -/
  | stopped {events : List Event} {stop : CommandReader}
    (reads : Reads move (more reader bytes) events stop)
    (why : .failure ∈ events ∨ Broken stop) {fed : Fed} (fails : ∀ cmds, fed.1 ≠ .ok cmds) :
    FeedsAll reader bytes fed

/-- More feeds after one that has returned commands. -/
theorem FeedsAll.before {reader last : CommandReader} {chunk bytes : List UInt8}
    {events : List Event} (clear : .failure ∉ events)
    (reads : Reads move (more reader chunk) events last) {fed : Fed}
    (later : FeedsAll last bytes fed) :
    FeedsAll reader (chunk ++ bytes) (fed.1.map (commandsOf events ++ ·), fed.2) := by
  have front := reads.more growing bytes
  rw [← growing.append] at front
  cases later with
  | @sound others last free rest =>
    have commands : commandsOf (events ++ others) = commandsOf events ++ commandsOf others :=
      List.filterMap_append
    have whole : FeedsAll reader (chunk ++ bytes) (.ok (commandsOf (events ++ others)), last) :=
      .sound (fun member => (List.mem_append.mp member).elim clear free) (front.trans rest)
    rw [commands] at whole
    exact whole
  | stopped rest why fails =>
    refine .stopped (front.trans rest) (why.imp_left (List.mem_append_right events)) ?_
    intro cmds same
    cases outcome : fed.1 with
    | diverges =>
      rw [outcome] at same
      cases same
    | failed =>
      rw [outcome] at same
      cases same
    | ok others => exact fails others outcome

/-- Feeds in a row come to this. -/
theorem feeds_all (reader : CommandReader) (chunks : List (List UInt8)) :
    FeedsAll reader chunks.flatten (feeds reader chunks) := by
  induction chunks generalizing reader with
  | nil =>
    have start : Reads move (more reader []) [] reader := by
      rw [growing.nil]
      exact .refl _
    exact .sound List.not_mem_nil start
  | cons chunk chunks ih =>
    rw [List.flatten_cons, feeds]
    have first := feed_feeds reader chunk
    generalize reader.feed chunk = fed at first
    cases first with
    | @whole cmds last reads rests sound =>
      have later := (ih last).before (failure_not_mem cmds) reads
      have commands := commandsOf_map cmds []
      rw [List.append_nil] at commands
      rw [commands.trans (List.append_nil cmds)] at later
      exact later
    | @marker cmds last reads waits =>
      have clear : Event.failure ∉ cmds.map Event.command ++ [.marker] := by simp
      have later := (ih last).before clear reads
      rw [(commandsOf_map cmds [.marker]).trans (List.append_nil cmds)] at later
      exact later
    | failure reads other =>
      have front := reads.more growing chunks.flatten
      rw [← growing.append] at front
      exact .stopped front (.inl (List.mem_append_right _ (List.mem_singleton_self _))) nofun
    | broken reads broken either less =>
      have front := reads.more growing chunks.flatten
      rw [← growing.append] at front
      refine .stopped front (.inr (broken.more _)) fun cmds same => ?_
      rcases either with rfl | rfl
      · cases same
      · cases same

/-- More feeds after those of a chunk list. -/
theorem feeds_append {reader last : CommandReader} {chunks : List (List UInt8)}
    {cmds : List ParsedCommand} (fed : feeds reader chunks = (.ok cmds, last))
    (others : List (List UInt8)) :
    feeds reader (chunks ++ others) =
      ((feeds last others).1.map (cmds ++ ·), (feeds last others).2) := by
  have unchanged (outcome : Parse (List ParsedCommand)) : outcome.map ([] ++ ·) = outcome := by
    cases outcome <;> rfl
  have twice (now later : List ParsedCommand) (outcome : Parse (List ParsedCommand)) :
      (outcome.map (later ++ ·)).map (now ++ ·) = outcome.map ((now ++ later) ++ ·) := by
    cases outcome with
    | diverges => rfl
    | failed => rfl
    | ok => exact congrArg Parse.ok (List.append_assoc ..).symm
  induction chunks generalizing reader cmds with
  | nil =>
    obtain ⟨none, rfl⟩ := Prod.mk.inj fed
    cases Parse.ok.inj none
    rw [List.nil_append, unchanged]
  | cons chunk chunks ih =>
    rw [List.cons_append, feeds]
    rw [feeds] at fed
    cases first : reader.feed chunk with
    | mk outcome middle =>
      rw [first] at fed
      cases outcome with
      | diverges => cases congrArg Prod.fst fed
      | failed => cases congrArg Prod.fst fed
      | ok now =>
        dsimp only at fed ⊢
        cases rest : feeds middle chunks with
        | mk result end' =>
          rw [rest] at fed
          cases result with
          | diverges => cases congrArg Prod.fst fed
          | failed => cases congrArg Prod.fst fed
          | ok later =>
            obtain ⟨whole, rfl⟩ := Prod.mk.inj fed
            have whole : now ++ later = cmds := Parse.ok.inj whole
            rw [ih rest, twice, whole]

/-- Where the steps through all bytes meet no failure and no broken line, feeds that settle the
reader return the commands among them, and leave the reader at their end. -/
theorem feeds_of_reads {reader last : CommandReader} {chunks : List (List UInt8)}
    {events : List Event} (reads : Reads move (more reader chunks.flatten) events last)
    (clear : .failure ∉ events) (rests : Rests move last) (sound : ¬Broken last) :
    (∃ cmds, (feeds reader chunks).1 = .ok cmds) ∧
      (Settled (feeds reader chunks).2 →
        feeds reader chunks = (.ok (commandsOf events), last)) := by
  have all := feeds_all reader chunks
  generalize feeds reader chunks = fed at all
  cases all with
  | @sound others end' _ rest =>
    refine ⟨⟨_, rfl⟩, fun settled => ?_⟩
    obtain ⟨rfl, rfl⟩ := reads.unique rests rest (settled_iff.mp settled).1
    rfl
  | stopped rest why =>
    -- The steps go through the line at which the feeds have stopped.
    exfalso
    obtain ⟨later, rfl, onward⟩ := reads.residue rests rest
    rcases why with failed | broken
    · exact clear (List.mem_append_left later failed)
    · exact sound ((onward.of_rests broken.rests).2 ▸ broken)

/-- Empty feeds settle the reader of such a stream. -/
theorem feeds_settle {reader last : CommandReader} {chunks : List (List UInt8)}
    {events : List Event} (reads : Reads move (more reader chunks.flatten) events last)
    (clear : .failure ∉ events) (rests : Rests move last) (sound : ¬Broken last) :
    ∃ count, feeds reader (chunks ++ List.replicate count []) =
      (.ok (commandsOf events), last) := by
  generalize enough : roundsFor (feeds reader chunks).2 = rounds
  induction rounds using Nat.strong_induction_on generalizing chunks with
  | _ rounds ih =>
    obtain ⟨⟨cmds, returned⟩, whole⟩ := feeds_of_reads reads clear rests sound
    by_cases settled : Settled (feeds reader chunks).2
    · refine ⟨0, ?_⟩
      rw [List.replicate_zero, List.append_nil]
      exact whole settled
    · have grown : (chunks ++ [[]]).flatten = chunks.flatten := by simp
      have fed : feeds reader chunks = (.ok cmds, (feeds reader chunks).2) :=
        Prod.ext returned rfl
      have once := feeds_append fed [[]]
      have next := congrArg Prod.snd once
      have less : roundsFor (feeds reader (chunks ++ [[]])).2 < rounds := by
        have last : (feeds (feeds reader chunks).2 [[]]).2 =
            ((feeds reader chunks).2.feed []).2 := by
          rw [feeds]
          cases (feeds reader chunks).2.feed [] with
          | mk outcome after => cases outcome <;> rfl
        rw [next, ← enough]
        dsimp only
        rw [last]
        exact feed_less settled
      rw [← grown] at reads
      obtain ⟨count, done⟩ := ih _ less reads rfl
      refine ⟨count + 1, ?_⟩
      rw [List.append_assoc] at done
      exact done

/-- For every two ways to cut a stream into chunks, empty ones among them, that both leave a settled
reader: if the feeds of one way return no error, those of the other way return none either, they
return the same commands, and they leave the same reader. -/
theorem feeds_eq_of_settled (reader : CommandReader) {first second : List (List UInt8)}
    (same : first.flatten = second.flatten) (settled : Settled (feeds reader first).2)
    (also : Settled (feeds reader second).2) {cmds : List ParsedCommand}
    (sound : (feeds reader first).1 = .ok cmds) :
    feeds reader second = feeds reader first := by
  have one := feeds_all reader first
  generalize feeds reader first = left at *
  have still := settled_iff.mp settled
  cases one with
  | stopped _ _ fails => exact absurd sound (fails cmds)
  | sound clear reads =>
    rw [same] at reads
    exact (feeds_of_reads reads clear still.1 still.2).2 also

/-- A command with a literal. -/
def login : List UInt8 := Utf8.bytes "A1 LOGIN \x7b3\x7d\r\nbob pw\r\nA2 NOOP\r\n"

/-- In one chunk, and cut in a CRLF, in the marker and in the literal. -/
theorem login_in_chunks :
    feeds {} [Utf8.bytes "A1 LOG", Utf8.bytes "IN \x7b", Utf8.bytes "3\x7d\r", Utf8.bytes "\nb",
      Utf8.bytes "ob pw\r\nA2 NO", Utf8.bytes "OP\r\n"] = feeds {} [login, []] :=
  @feeds_eq_of_settled {} [login, []] [Utf8.bytes "A1 LOG", Utf8.bytes "IN \x7b",
    Utf8.bytes "3\x7d\r", Utf8.bytes "\nb", Utf8.bytes "ob pw\r\nA2 NO", Utf8.bytes "OP\r\n"]
    (by decide +kernel) (by decide +kernel) (by decide +kernel)
    [⟨"A1", "LOGIN", ["bob", "pw"]⟩, ⟨"A2", "NOOP", []⟩] (by decide +kernel)

end Talk.Verif.Chunking
