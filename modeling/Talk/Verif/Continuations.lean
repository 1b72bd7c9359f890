import Talk.Verif.FailingLines

/-!
# Continuations for literals

Outside IDLE, the server writes a continuation after every read that leaves a literal open, and a
feed stops at the marker of a literal or at a line that does not parse. So each marker has one
continuation, and no complete command stays in the reader, as long as a read has all bytes that are
missing of an open literal, and no marker or command behind the event at which its feed stops.
-/

namespace Talk.Verif.Continuations

open Imap ImapSteps Incremental ReaderSteps Transition Mailstore
open Chunking (commandsOf commandsOf_map)
open FailingLines (stops)
open Pipelining (fresh received roundsFor serve)

/-! ## What a reader has -/

/-- What a reader comes upon in the bytes that it has. -/
def found (reader : CommandReader) : List Event := (read move (roundsFor reader) reader).1

/-- A literal is open and its bytes are not all there. -/
def Starved (reader : CommandReader) : Prop :=
  reader.buf.length < reader.literalRemaining.getD 0

/-- Whether a literal is can be decided. -/
instance (reader : CommandReader) : Decidable (Starved reader) :=
  inferInstanceAs (Decidable (_ < _))

/-- No command and no marker is left in a reader. -/
structure Quiet (reader : CommandReader) : Prop where
  /-- No marker. -/
  noMarker : .marker ∉ found reader
  /-- No command. -/
  noCommand : commandsOf (found reader) = []

/-- A reader comes upon these events in steps, up to a state of rest. -/
theorem found_reads (reader : CommandReader) :
    ∃ last, Reads move reader (found reader) last ∧ Rests move last :=
  ⟨_, reads_read _ _, rests_read roundsFor move_decreases (Nat.le_refl _)⟩

/-- Behind some steps, a reader comes upon the rest. -/
theorem found_eq {reader middle : CommandReader} {now : List Event}
    (reads : Reads move reader now middle) : found reader = now ++ found middle := by
  obtain ⟨last, whole, rests⟩ := found_reads reader
  obtain ⟨later, same, rest⟩ := whole.residue rests reads
  obtain ⟨end', also, still⟩ := found_reads middle
  rw [same, (rest.unique rests also still).1]

/-- At rest, a reader comes upon nothing. -/
theorem found_rests {reader : CommandReader} (rests : Rests move reader) : found reader = [] := by
  obtain ⟨last, reads, -⟩ := found_reads reader
  exact (reads.of_rests rests).1

/-- With more bytes, a reader comes upon the same events first. -/
theorem found_more {reader middle : CommandReader} {now : List Event} {data : List UInt8}
    (reads : Reads move (more reader data) now middle) (bytes : List UInt8) :
    found (more reader (data ++ bytes)) = now ++ found (more middle bytes) := by
  rw [growing.append]
  exact found_eq (reads.more growing bytes)

/-- Without a marker, a literal stays open or does not. -/
theorem reads_starved {reader last : CommandReader} {events : List Event}
    (reads : Reads move reader events last) (unmarked : .marker ∉ events) :
    Starved last ↔ Starved reader := by
  induction reads with
  | refl => exact Iff.rfl
  | next goes _ ih =>
    refine (ih fun member => unmarked (List.mem_append_right _ member)).trans ?_
    cases move_iff.mp goes with
    | byte | finish => simp [Starved]
    | marker => simp at unmarked
    | command | failure => exact iff_of_false (Nat.not_lt_zero _) (Nat.not_lt_zero _)

/-- With an open literal, a reader comes upon nothing. -/
theorem reads_of_starved {reader last : CommandReader} {events : List Event}
    (reads : Reads move reader events last) (starved : Starved reader) : events = [] := by
  induction reads with
  | refl => rfl
  | next goes rest ih =>
    cases move_iff.mp goes with
    | byte =>
      refine ih ?_
      simpa [Starved] using starved
    | finish | marker | command | failure => exact absurd starved (Nat.not_lt_zero _)

/-- At rest, a reader waits for a literal exactly if it is open. -/
theorem needsContinuation_of_rests {reader : CommandReader} (rests : Rests move reader) :
    reader.needsContinuation = true ↔ Starved reader := by
  obtain ⟨buf, pending, literal⟩ := reader
  cases literal with
  | none => exact iff_of_false Bool.false_ne_true (Nat.not_lt_zero _)
  | some count =>
    cases count with
    | zero => cases rests
    | succ count =>
      cases buf with
      | nil => exact iff_of_true rfl (Nat.succ_pos count)
      | cons => cases rests

/-! ## What is written -/

/-- The continuations for literals among lines. -/
def sent (lines : List Reply) : Nat := lines.count (.continuation "send literal")

/-- The continuations among lines in two parts. -/
@[simp] theorem sent_append (first second : List Reply) :
    sent (first ++ second) = sent first + sent second := List.count_append

/-- The commands leave the loop in the state in which it waits for more. -/
def stays (cmds : List ParsedCommand) : Bool :=
  cmds.all fun cmd => cmd.name != "IDLE" && cmd.name != "LOGOUT"

/-- A response that completes is no continuation. -/
theorem sent_of_completes {tag : String} {status : Status} {replies : List Reply}
    (completes : Completes tag status replies) : sent replies = 0 := by
  obtain ⟨data, text, rfl, plain⟩ := completes.only
  rw [sent_append]
  have none : sent data = 0 := by
    refine List.count_eq_zero.mpr fun member => ?_
    have plain := List.all_eq_true.mp plain _ member
    cases plain
  rw [none]
  rfl

/-- No command but IDLE is answered by a continuation. -/
theorem sent_handle (env : Environment) (session : Session) (db : Db) {cmd : ParsedCommand}
    (notIdle : cmd.name ≠ "IDLE") : sent (handle env session db cmd).1 = 0 := by
  obtain ⟨status, completes⟩ := handle_completes env session db notIdle
  exact sent_of_completes completes

/-- The loop over commands writes no continuation for a literal, and keeps the reader. -/
theorem serveCommands_sent (env : Environment) (conn : Conn) {out : List Reply}
    (none : sent out = 0) (cmds : List ParsedCommand) :
    sent (serveCommands env conn out cmds).2 = 0 ∧
      (serveCommands env conn out cmds).1.reader = conn.reader ∧
      ((serveCommands env conn out cmds).1.activity = .serving ↔ stays cmds = true) := by
  induction cmds generalizing conn out with
  | nil => exact ⟨none, rfl, iff_of_true rfl rfl⟩
  | cons cmd cmds ih =>
    rw [serveCommands, stays, List.all_cons]
    by_cases idles : cmd.name = "IDLE"
    · rw [if_pos idles]
      exact ⟨rfl, rfl, iff_of_false (fun same => by cases same) (by simp [idles])⟩
    · rw [if_neg idles]
      have answered := sent_handle env conn.session conn.db idles
      generalize handle env conn.session conn.db cmd = result at answered ⊢
      obtain ⟨replies, session, db⟩ := result
      dsimp only at answered ⊢
      have both : sent (out ++ replies) = 0 := by rw [sent_append, none, answered]
      by_cases quits : cmd.name = "LOGOUT"
      · rw [if_pos quits]
        exact ⟨both, rfl, iff_of_false (fun same => by cases same) (by simp [quits])⟩
      · rw [if_neg quits]
        have go : (cmd.name != "IDLE" && cmd.name != "LOGOUT") = true := by simp [idles, quits]
        rw [go, Bool.true_and]
        exact ih { conn with session := session, db := db } both

/-! ## Reads -/

/-- The commands that a feed returns of what the reader comes upon: those before the first event at
which it stops, or none if this is a line that does not parse. -/
def fedNow (events : List Event) : List ParsedCommand :=
  if (events.dropWhile (!stops ·)).head? = some .failure then []
  else commandsOf (events.takeWhile (!stops ·))

/-- What a feed leaves of it: all behind the event at which it stops. -/
def behind (events : List Event) : List Event := (events.dropWhile (!stops ·)).drop 1

/-- Commands are followed by an event at which a feed stops, or by none. -/
theorem behind_commands (cmds : List ParsedCommand) {rest : List Event}
    (stop : ∀ event ∈ rest.head?, stops event = true) :
    fedNow (cmds.map .command ++ rest) = (if rest.head? = some .failure then [] else cmds) ∧
      behind (cmds.map .command ++ rest) = rest.drop 1 := by
  have free : ∀ event ∈ cmds.map Event.command, (!stops event) = true := by
    intro event member
    obtain ⟨cmd, -, rfl⟩ := List.mem_map.mp member
    rfl
  have ends : rest.takeWhile (!stops ·) = [] ∧ rest.dropWhile (!stops ·) = rest := by
    cases rest with
    | nil => exact ⟨rfl, rfl⟩
    | cons event rest =>
      have stop : (!stops event) = false := by rw [stop event rfl]; rfl
      exact ⟨List.takeWhile_cons_of_neg (by simp [stop]),
        List.dropWhile_cons_of_neg (by simp [stop])⟩
  have commands := commandsOf_map cmds []
  rw [List.append_nil] at commands
  rw [fedNow, behind, List.takeWhile_append_of_pos free, List.dropWhile_append_of_pos free, ends.1,
    ends.2, List.append_nil, commands]
  exact ⟨by simp [commandsOf], rfl⟩

/-- A feed goes through commands and stops at none. -/
theorem behind_none (cmds : List ParsedCommand) :
    fedNow (cmds.map .command) = cmds ∧ behind (cmds.map .command) = [] := by
  have cut := @behind_commands cmds [] fun event member => by cases member
  rw [List.append_nil] at cut
  exact cut

/-- Steps that end at an event at which a feed stops are those of the feed, and no literal is open
before them. -/
theorem found_stops {reader last : CommandReader} {cmds : List ParsedCommand} {event : Event}
    (stop : stops event = true)
    (reads : Reads move reader (cmds.map .command ++ [event]) last) :
    fedNow (found reader) = (if event = .failure then [] else cmds) ∧
      behind (found reader) = found last ∧ ¬Starved reader := by
  have events := found_eq reads
  rw [List.append_assoc, List.singleton_append] at events
  have first : ∀ other ∈ (event :: found last).head?, stops other = true := by
    intro other member
    rw [← Option.some.inj member]
    exact stop
  have cut := behind_commands cmds first
  rw [← events, List.head?_cons, List.drop_one, List.tail_cons] at cut
  simp only [Option.some.injEq] at cut
  refine ⟨cut.1, cut.2, fun starved => ?_⟩
  have none := reads_of_starved reads starved
  simp at none

/-- A read comes upon these events: the connection has served the commands of the feed, or the feed
has met a broken line. -/
inductive Serves (state : Conn × List Reply) (data : List UInt8) : Conn × List Reply → Prop
  /-- The reader is behind the events that the feed has used, and with a literal that stays open one
  more continuation is written than there are markers. -/
  | fed {now : List Event} {after : Conn × List Reply}
    (reads : Reads move (more state.1.reader data) now after.1.reader)
    (left : behind (found (more state.1.reader data)) = found after.1.reader)
    (written : sent after.2 = sent state.2 + now.count Event.marker +
      if Starved (more state.1.reader data) then 1 else 0)
    (waits : after.1.activity = .serving ↔
      stays (fedNow (found (more state.1.reader data))) = true) : Serves state data after
  /-- The connection is closed, or hangs. -/
  | broken {cmds : List ParsedCommand} {after : Conn × List Reply}
    (only : found (more state.1.reader data) = cmds.map .command)
    (whole : ¬Starved (more state.1.reader data)) (written : sent after.2 = sent state.2)
    (ended : after.1.activity = .closed ∨ after.1.activity = .hung) : Serves state data after

/-- The continuation for a literal is one. -/
theorem sent_literalContinuation (reader : CommandReader) :
    sent (literalContinuation reader) = if reader.needsContinuation = true then 1 else 0 := by
  unfold literalContinuation
  split
  · rfl
  · rfl

/-- A feed that returns commands. -/
theorem serves_commands (env : Environment) (conn : Conn) (lines : List Reply) {data : List UInt8}
    {now : List Event} {last : CommandReader}
    (reads : Reads move (more conn.reader data) now last)
    (left : behind (found (more conn.reader data)) = found last)
    (written : (if last.needsContinuation = true then 1 else 0) =
      now.count Event.marker + if Starved (more conn.reader data) then 1 else 0) :
    let result := serveCommands env { conn with reader := last } []
      (fedNow (found (more conn.reader data)))
    Serves (conn, lines) data (result.1, lines ++ (literalContinuation last ++ result.2)) := by
  intro result
  have none : sent [] = 0 := rfl
  obtain ⟨silent, kept, stay⟩ := serveCommands_sent env { conn with reader := last } none
    (fedNow (found (more conn.reader data)))
  have after : result.1.reader = last := kept
  have placed : Reads move (more conn.reader data) now result.1.reader := by
    rw [after]
    exact reads
  refine .fed placed ?_ ?_ stay
  · rw [after]
    exact left
  · have silent : sent result.2 = 0 := silent
    simp only [sent_append, sent_literalContinuation, silent, written]
    omega

/-- What a read outside IDLE does. -/
theorem read_serves (env : Environment) {state : Conn × List Reply}
    (waits : state.1.activity = .serving) {data : List UInt8} (some : data ≠ []) :
    Serves state data (serve env state (.read data)) := by
  obtain ⟨conn, lines⟩ := state
  dsimp only at waits
  have feeds := feed_feeds conn.reader data
  have step : serve env (conn, lines) (.read data) =
      ((serveRead env conn data).1, lines ++ (serveRead env conn data).2) := by
    simp only [serve, Conn.step, waits, if_neg some]
  rw [step, serveRead]
  generalize conn.reader.feed data = fed at feeds
  cases feeds with
  | @whole cmds last reads rests sound =>
    dsimp only
    have unmarked : Event.marker ∉ cmds.map Event.command := by simp
    have nothing := found_rests rests
    have events := found_eq reads
    rw [nothing, List.append_nil] at events
    obtain ⟨commands, left⟩ := behind_none cmds
    rw [← events] at commands left
    have count : (if last.needsContinuation = true then 1 else 0) =
        (cmds.map Event.command).count Event.marker +
          if Starved (more conn.reader data) then 1 else 0 := by
      rw [List.count_eq_zero.mpr unmarked, Nat.zero_add]
      have same := (needsContinuation_of_rests rests).trans (reads_starved reads unmarked)
      exact if_congr same rfl rfl
    have served := serves_commands env conn lines reads (left.trans nothing.symm) count
    rw [commands] at served
    exact served
  | @marker cmds last reads open' =>
    dsimp only
    obtain ⟨commands, left, fed⟩ := found_stops rfl reads
    rw [if_neg (by decide)] at commands
    have count : (if last.needsContinuation = true then 1 else 0) =
        (cmds.map Event.command ++ [Event.marker]).count Event.marker +
          if Starved (more conn.reader data) then 1 else 0 := by
      rw [if_pos open', if_neg fed, List.count_append, List.count_eq_zero.mpr (by simp)]
      rfl
    have served := serves_commands env conn lines reads left count
    rw [commands] at served
    exact served
  | @failure cmds error last reads other =>
    obtain ⟨commands, left, fed⟩ := found_stops rfl reads
    rw [if_pos rfl] at commands
    have silent : (cmds.map Event.command ++ [Event.failure]).count Event.marker = 0 :=
      List.count_eq_zero.mpr (by simp)
    have refused : Serves (conn, lines) data ({ conn with reader := last },
        lines ++ [.untagged ("BAD Invalid command: " ++ error.word)]) := by
      refine .fed reads left ?_ ?_
      · dsimp only
        rw [silent, if_neg fed, sent_append]
        rfl
      · rw [commands]
        exact iff_of_true waits rfl
    cases error with
    | unterminated => exact absurd rfl other
    | invalidCommand | unclosedQuote => exact refused
  | @broken cmds stuck last outcome reads broken either less =>
    have nothing := found_rests broken.rests
    have events := found_eq reads
    rw [nothing, List.append_nil] at events
    have unmarked : Event.marker ∉ cmds.map Event.command := by simp
    have fed : ¬Starved (more conn.reader data) := by
      rw [← reads_starved reads unmarked, Starved, broken.1]
      exact Nat.not_lt_zero _
    cases either with
    | inl diverges =>
      rw [diverges]
      refine .broken events fed ?_ (.inr rfl)
      rw [List.append_nil]
    | inr failed =>
      rw [failed]
      refine .broken events fed ?_ (.inl rfl)
      rw [sent_append]
      rfl

/-! ## Runs -/

/-- Bytes are read outside IDLE. -/
def Outside (state : Conn × List Reply) : Input → Prop
  | .read _ => state.1.activity = .serving
  | .event _ | .store _ => True

/-- Bytes that are read complete an open literal, and behind the event at which their feed stops
there is no marker, and no command unless one that is served now ends the loop. -/
def MeasuredRead (reader : CommandReader) (data : List UInt8) : Prop :=
  let events := found (more reader data)
  ¬Starved (more reader data) ∧ .marker ∉ behind events ∧
    (stays (fedNow events) = true → commandsOf (behind events) = [])

/-- The condition on an input. -/
def Measured (state : Conn × List Reply) : Input → Prop
  | .read data => data = [] ∨ MeasuredRead state.1.reader data
  | .event _ | .store _ => True

/-- Whether bytes are read outside IDLE can be decided. -/
instance Outside.decidable (state : Conn × List Reply) : ∀ input, Decidable (Outside state input)
  | .read _ => inferInstanceAs (Decidable (_ = _))
  | .event _ | .store _ => inferInstanceAs (Decidable True)

/-- The condition on bytes that are read can be decided. -/
instance MeasuredRead.decidable (reader : CommandReader) (data : List UInt8) :
    Decidable (MeasuredRead reader data) :=
  inferInstanceAs (Decidable (_ ∧ _))

/-- The condition on an input can be decided. -/
instance Measured.decidable (state : Conn × List Reply) : ∀ input, Decidable (Measured state input)
  | .read _ => inferInstanceAs (Decidable (_ ∨ MeasuredRead _ _))
  | .event _ | .store _ => inferInstanceAs (Decidable True)

/-- After a run, as many continuations for literals have been written as markers have been received,
and a connection that waits for commands has no complete one. -/
def OnTime (env : Environment) (state : Conn × List Reply) (inputs : List Input) : Prop :=
  let last := run (serve env) state inputs
  sent last.2 = sent state.2 + (found (more state.1.reader (received inputs))).count .marker ∧
    (last.1.activity = .serving → commandsOf (found last.1.reader) = [])

/-- An input that is no read changes neither the reader nor what the connection is doing, and writes
no continuation. -/
theorem serve_other (env : Environment) (state : Conn × List Reply) {input : Input}
    (other : ∀ data, input ≠ .read data) :
    (serve env state input).1.reader = state.1.reader ∧
      (serve env state input).1.activity = state.1.activity ∧
      sent (serve env state input).2 = sent state.2 ∧
      ∀ inputs, received (input :: inputs) = received inputs := by
  have silent (conn : Conn) :
      sent ((conn, state.2 ++ []) : Conn × List Reply).2 = sent state.2 := by simp
  cases input with
  | read data => exact absurd rfl (other data)
  | store db => exact ⟨rfl, rfl, silent _, fun _ => rfl⟩
  | event userId =>
    unfold serve Conn.step
    cases doing : state.1.activity with
    | serving | closed | hung => exact ⟨rfl, doing, silent _, fun _ => rfl⟩
    | idling =>
      dsimp only
      by_cases own : userId = state.1.session.userId
      · rw [if_pos own]
        refine ⟨rfl, doing, ?_, fun _ => rfl⟩
        rw [sent_append]
        rfl
      · rw [if_neg own]
        exact ⟨rfl, doing, silent state.1, fun _ => rfl⟩

/-- Once a connection does not wait for commands, no more bytes are read outside IDLE. -/
theorem run_parked (env : Environment) {state : Conn × List Reply}
    (parked : state.1.activity ≠ .serving) {inputs : List Input}
    (outside : Guarded (serve env) Outside state inputs) :
    (∀ reached, reached <+: inputs → received reached = [] ∧
      (run (serve env) state reached).1.activity ≠ .serving ∧
      sent (run (serve env) state reached).2 = sent state.2) ∧
      Guarded (serve env) Measured state inputs := by
  induction inputs generalizing state with
  | nil =>
    refine ⟨fun reached inside => ?_, trivial⟩
    rw [List.prefix_nil.mp inside]
    exact ⟨rfl, parked, rfl⟩
  | cons input inputs ih =>
    have other : ∀ data, input ≠ .read data := by
      rintro data rfl
      exact parked outside.1
    obtain ⟨-, doing, silent, unread⟩ := serve_other env state other
    have later := ih (doing ▸ parked) outside.2
    constructor
    · intro reached inside
      cases reached with
      | nil => exact ⟨rfl, parked, rfl⟩
      | cons first reached =>
        obtain ⟨rfl, shorter⟩ := List.cons_prefix_cons.mp inside
        have rest := later.1 reached shorter
        exact ⟨(unread reached).trans rest.1, rest.2.1, rest.2.2.trans silent⟩
    · refine ⟨?_, later.2⟩
      cases input with
      | read data => exact absurd rfl (other data)
      | event | store => trivial

/-- What holds all along a run holds before it and all along its rest. -/
theorem along_cons {holds : List Input → Prop} (input : Input) (inputs : List Input) :
    (∀ reached, reached <+: input :: inputs → holds reached) ↔
      holds [] ∧ ∀ reached, reached <+: inputs → holds (input :: reached) := by
  constructor
  · exact fun all => ⟨all [] List.nil_prefix, fun reached inside =>
      all (input :: reached) (List.cons_prefix_cons.mpr ⟨rfl, inside⟩)⟩
  · rintro ⟨start, rest⟩ reached inside
    cases reached with
    | nil => exact start
    | cons first reached =>
      obtain ⟨rfl, shorter⟩ := List.cons_prefix_cons.mp inside
      exact rest reached shorter

/-- Before the first input, a connection that waits is on time if its reader is quiet. -/
theorem onTime_nil (env : Environment) {state : Conn × List Reply}
    (waits : state.1.activity = .serving) : OnTime env state [] ↔ Quiet state.1.reader := by
  have same : found (more state.1.reader (received [])) = found state.1.reader := by
    rw [received, growing.nil]
  unfold OnTime
  rw [same]
  constructor
  · intro onTime
    have none : (found state.1.reader).count Event.marker = 0 := by
      have counted := onTime.1
      simp only [run_nil] at counted
      omega
    exact ⟨List.count_eq_zero.mp none, onTime.2 waits⟩
  · intro quiet
    refine ⟨?_, fun _ => quiet.noCommand⟩
    rw [List.count_eq_zero.mpr quiet.noMarker]
    rfl

/-- After a read whose feed has met no broken line, a connection is on time if it is so from there
on, but for the continuation of a literal that stays open. -/
theorem onTime_read (env : Environment) {state : Conn × List Reply} {data : List UInt8}
    {now : List Event}
    (reads : Reads move (more state.1.reader data) now (serve env state (.read data)).1.reader)
    (written : sent (serve env state (.read data)).2 = sent state.2 + now.count .marker)
    (reached : List Input) :
    OnTime env state (.read data :: reached) ↔
      OnTime env (serve env state (.read data)) reached := by
  unfold OnTime
  rw [run_cons, received, found_more reads, List.count_append, written, Nat.add_assoc]

/-- A literal that stays open has one continuation too many. -/
theorem not_onTime_of_starved (env : Environment) {state : Conn × List Reply} {data : List UInt8}
    (waits : state.1.activity = .serving) (some : data ≠ [])
    (starved : Starved (more state.1.reader data)) : ¬OnTime env state [.read data] := by
  intro onTime
  have counted := onTime.1
  have nothing : found (more state.1.reader data) = [] := by
    obtain ⟨last, reads, -⟩ := found_reads (more state.1.reader data)
    exact reads_of_starved reads starved
  rw [received, received, List.append_nil, nothing, List.count_nil, run_cons, run_nil] at counted
  cases read_serves env waits some with
  | fed reads left written stay =>
    rw [written, if_pos starved] at counted
    omega
  | broken only whole => exact whole starved

/-- Where a read leaves a connection that does not wait for commands, it is on time all along the
rest of the run exactly if it has written as many continuations as markers have been received. -/
theorem onTime_parked (env : Environment) {state : Conn × List Reply} {data : List UInt8}
    {inputs : List Input}
    (outside : Guarded (serve env) Outside (serve env state (.read data)) inputs)
    (stopped : (serve env state (.read data)).1.activity ≠ .serving) :
    (∀ reached, reached <+: inputs → OnTime env state (.read data :: reached)) ↔
      sent (serve env state (.read data)).2 =
        sent state.2 + (found (more state.1.reader data)).count .marker := by
  have single (reached : List Input) (inside : reached <+: inputs) :
      OnTime env state (.read data :: reached) ↔
        sent (serve env state (.read data)).2 =
          sent state.2 + (found (more state.1.reader data)).count .marker := by
    obtain ⟨unread, still, same⟩ := (run_parked env stopped outside).1 reached inside
    unfold OnTime
    rw [run_cons, received, unread, List.append_nil]
    dsimp only
    rw [same]
    exact and_iff_left fun serving => absurd serving still
  constructor
  · exact fun all => (single [] List.nil_prefix).mp (all [] List.nil_prefix)
  · exact fun same reached inside => (single reached inside).mpr same

/-- The end of the stream is on time for a quiet reader. -/
theorem onTime_end (env : Environment) {state : Conn × List Reply}
    (waits : state.1.activity = .serving) (quiet : Quiet state.1.reader) {inputs : List Input}
    (outside : Guarded (serve env) Outside (serve env state (.read [])) inputs) :
    (∀ reached, reached <+: inputs → OnTime env state (.read [] :: reached)) ∧
      Guarded (serve env) Measured (serve env state (.read [])) inputs := by
  have closed : (serve env state (.read [])).1.activity ≠ .serving := by
    simp [serve, Conn.step, waits]
  refine ⟨(onTime_parked env outside closed).mpr ?_, (run_parked env closed outside).2⟩
  rw [growing.nil, List.count_eq_zero.mpr quiet.noMarker]
  simp [serve, Conn.step, waits]

/-- A read that meets a broken line is on time, and so is the rest of the run. -/
theorem onTime_broken (env : Environment) {state : Conn × List Reply} {data : List UInt8}
    {inputs : List Input}
    (outside : Guarded (serve env) Outside (serve env state (.read data)) inputs)
    {cmds : List ParsedCommand} (only : found (more state.1.reader data) = cmds.map .command)
    (written : sent (serve env state (.read data)).2 = sent state.2)
    (ended : (serve env state (.read data)).1.activity = .closed ∨
      (serve env state (.read data)).1.activity = .hung) :
    (∀ reached, reached <+: inputs → OnTime env state (.read data :: reached)) ∧
      Guarded (serve env) Measured (serve env state (.read data)) inputs := by
  have stopped : (serve env state (.read data)).1.activity ≠ .serving := by
    rcases ended with closed | hung
    · rw [closed]
      decide
    · rw [hung]
      decide
  have unmarked : (found (more state.1.reader data)).count Event.marker = 0 := by
    rw [only]
    exact List.count_eq_zero.mpr (by simp)
  refine ⟨(onTime_parked env outside stopped).mpr ?_, (run_parked env stopped outside).2⟩
  rw [unmarked]
  exact written

/-- A read whose feed meets no broken line, and leaves no literal open, is measured where its events
leave no marker, and no command if the connection waits. -/
theorem measured_fed (env : Environment) {state : Conn × List Reply} {data : List UInt8}
    (some : data ≠ []) (complete : ¬Starved (more state.1.reader data))
    (left : behind (found (more state.1.reader data)) =
      found (serve env state (.read data)).1.reader)
    (stay : (serve env state (.read data)).1.activity = .serving ↔
      stays (fedNow (found (more state.1.reader data))) = true) :
    Measured state (.read data) ↔
      .marker ∉ found (serve env state (.read data)).1.reader ∧
        ((serve env state (.read data)).1.activity = .serving →
          commandsOf (found (serve env state (.read data)).1.reader) = []) := by
  refine (or_iff_right some).trans ?_
  unfold MeasuredRead
  dsimp only
  rw [left, ← stay]
  exact and_iff_right complete

/-- A read and the run after it, from a quiet reader. -/
theorem read_onTime_iff (env : Environment) {state : Conn × List Reply}
    (waits : state.1.activity = .serving) (quiet : Quiet state.1.reader) {data : List UInt8}
    {inputs : List Input}
    (outside : Guarded (serve env) Outside (serve env state (.read data)) inputs)
    (later : (serve env state (.read data)).1.activity = .serving →
      ((∀ reached, reached <+: inputs → OnTime env (serve env state (.read data)) reached) ↔
        Quiet (serve env state (.read data)).1.reader ∧
          Guarded (serve env) Measured (serve env state (.read data)) inputs)) :
    (∀ reached, reached <+: inputs → OnTime env state (.read data :: reached)) ↔
      Measured state (.read data) ∧
        Guarded (serve env) Measured (serve env state (.read data)) inputs := by
  by_cases some : data = []
  · subst some
    obtain ⟨onTime, rest⟩ := onTime_end env waits quiet outside
    exact iff_of_true onTime ⟨.inl rfl, rest⟩
  by_cases starved : Starved (more state.1.reader data)
  · refine iff_of_false (fun all => ?_) fun measured => ?_
    · exact not_onTime_of_starved env waits some starved (all [] List.nil_prefix)
    · exact measured.1.elim some fun measured => measured.1 starved
  cases read_serves env waits some with
  | @fed now _ reads left written stay =>
    rw [if_neg starved, Nat.add_zero] at written
    rw [measured_fed env some starved left stay]
    by_cases serving : (serve env state (.read data)).1.activity = .serving
    · simp only [onTime_read env reads written]
      rw [later serving]
      refine and_congr_left' ?_
      exact ⟨fun quiet => ⟨quiet.1, fun _ => quiet.2⟩, fun both => ⟨both.1, both.2 serving⟩⟩
    · -- What the feed has used is written, so nothing marked may be left.
      have total := congrArg (List.count Event.marker) (found_eq reads)
      rw [List.count_append] at total
      rw [onTime_parked env outside serving, written, total, and_iff_left_of_imp fun _ =>
        (run_parked env serving outside).2,
        and_iff_left fun waiting => absurd waiting serving, ← List.count_eq_zero]
      omega
  | @broken cmds _ only whole written ended =>
    obtain ⟨onTime, rest⟩ := onTime_broken env outside only written ended
    have left := (behind_none cmds).2
    rw [← only] at left
    refine iff_of_true onTime ⟨.inr ⟨whole, ?_, fun _ => ?_⟩, rest⟩
    · rw [left]
      exact List.not_mem_nil
    · rw [left]
      rfl

/-- Outside IDLE, for every connection that waits for commands and however the bytes are cut into
reads: at every point of a run as many continuations for literals have been written as markers have
been received, and the connection has no complete command when it waits for more bytes, exactly if
its reader was quiet before and every read is measured. -/
theorem one_continuation_per_literal_iff (env : Environment) {state : Conn × List Reply}
    (waits : state.1.activity = .serving) {inputs : List Input}
    (outside : Guarded (serve env) Outside state inputs) :
    (∀ reached, reached <+: inputs → OnTime env state reached) ↔
      Quiet state.1.reader ∧ Guarded (serve env) Measured state inputs := by
  induction inputs generalizing state with
  | nil =>
    constructor
    · exact fun all => ⟨(onTime_nil env waits).mp (all [] List.nil_prefix), trivial⟩
    · rintro ⟨quiet, -⟩ reached inside
      rw [List.prefix_nil.mp inside]
      exact (onTime_nil env waits).mpr quiet
  | cons input inputs ih =>
    rw [along_cons, onTime_nil env waits]
    refine and_congr_right fun quiet => ?_
    by_cases other : ∀ data, input ≠ .read data
    · obtain ⟨kept, doing, silent, unread⟩ := serve_other env state other
      have later := ih (doing.trans waits) outside.2
      have same (reached : List Input) :
          OnTime env state (input :: reached) ↔ OnTime env (serve env state input) reached := by
        unfold OnTime
        rw [run_cons, unread, kept, silent]
      have free : Measured state input := by
        cases input with
        | read data => exact absurd rfl (other data)
        | event | store => trivial
      simp only [same]
      rw [later, kept]
      exact ⟨fun both => ⟨free, both.2⟩, fun both => ⟨quiet, both.2⟩⟩
    · cases input with
      | read data =>
        exact read_onTime_iff env waits quiet outside.2 fun serving => ih serving outside.2
      | event => exact absurd (fun data same => by cases same) other
      | store => exact absurd (fun data same => by cases same) other

/-- Texts that are read one after the other. -/
def readTexts (texts : List String) : List Input := texts.map fun text => .read (Utf8.bytes text)

/-- A client that sends a literal when it has its continuation, and all of it at once. -/
def patient : List Input :=
  readTexts ["A1 NOOP \x7b3\x7d\r\n", "bob \x7b2\x7d\r\n", "pw\r\nA2 NOOP\r\n"]

/-- Two literals have two continuations. -/
theorem patient_client_on_time : OnTime groupEnvironment fresh patient := by
  have waits : fresh.1.activity = .serving := rfl
  have quiet : Quiet fresh.1.reader := ⟨by decide +kernel, by decide +kernel⟩
  have outside : Guarded (serve groupEnvironment) Outside fresh patient := by decide +kernel
  have measured : Guarded (serve groupEnvironment) Measured fresh patient := by decide +kernel
  exact (one_continuation_per_literal_iff groupEnvironment waits outside).mpr ⟨quiet, measured⟩ _
    List.prefix_rfl

/-- A literal that arrives in two reads has two continuations. A command whose literal arrives with
its marker, and one behind a line that does not parse, are complete while the connection waits. -/
theorem split_literal_continued_twice :
    (let split := readTexts ["A1 NOOP \x7b3\x7d\r\n", "b"]
    Guarded (serve groupEnvironment) Outside fresh split ∧
      (found (more {} (received split))).count .marker = 1 ∧
      sent (run (serve groupEnvironment) fresh split).2 = 2) ∧
    (let last := (run (serve groupEnvironment) fresh (readTexts ["A1 NOOP \x7b3\x7d\r\nbob\r\n"])).1
    last.activity = .serving ∧ commandsOf (found last.reader) = [⟨"A1", "NOOP", ["bob"]⟩]) ∧
    (let last := (run (serve groupEnvironment) fresh (readTexts ["A1 \"\r\nA2 NOOP\r\n"])).1
    last.activity = .serving ∧ commandsOf (found last.reader) = [⟨"A2", "NOOP", []⟩]) := by
  decide +kernel

end Talk.Verif.Continuations
