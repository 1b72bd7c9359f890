import Talk.Imap.Server
import Talk.Lib.Transition
import Talk.Verif.ImapSteps

/-!
# Answers to pipelined commands

A client's stream is a sequence of commands, each a line or a line with literals, and it arrives
in reads that are cut anywhere. The reader returns the commands of the stream in order whatever the
cuts are. The server loop then answers them one by one and in order, as long as an IDLE is alone
among the commands of its read and so is the DONE that ends it.
-/

namespace Talk.Verif.Pipelining

open Imap ImapSteps Mailstore Transition

/-! ## Streams -/

/-- Bytes that complete commands, after a part of a line and of a literal. -/
inductive Upcoming : List UInt8 → Option Nat → List UInt8 → List ParsedCommand → Prop
  /-- No command is left. -/
  | done : Upcoming [] none [] []
  /-- A line ends a command. -/
  | line (pending line rest : List UInt8) (cmd : ParsedCommand) (cmds : List ParsedCommand)
    (oneLine : 10 ∉ line) (last : literalCount line = none)
    (parsed : parseLine (pending ++ line) = .ok cmd) (more : Upcoming [] none rest cmds) :
    Upcoming pending none (line ++ 13 :: 10 :: rest) (cmd :: cmds)
  /-- A line ends with the marker of a literal. -/
  | marker (pending line rest : List UInt8) (count marker : Nat) (cmds : List ParsedCommand)
    (oneLine : 10 ∉ line) (marked : literalCount line = some (count, marker))
    (more : Upcoming (pending ++ line.take (line.length - marker)) (some count) rest cmds) :
    Upcoming pending none (line ++ 13 :: 10 :: rest) cmds
  /-- A literal has as many bytes as its marker says, and its command goes on. -/
  | literal (pending content rest : List UInt8) (cmd : ParsedCommand)
    (cmds : List ParsedCommand) (more : Upcoming (pending ++ content) none rest (cmd :: cmds)) :
    Upcoming pending (some content.length) (content ++ rest) (cmd :: cmds)

/-- A line is at the front of a buffer that has all of it. -/
theorem line_of_mem {buf future line rest : List UInt8}
    (cut : buf ++ future = line ++ 13 :: 10 :: rest) (oneLine : 10 ∉ line) (ends : 10 ∈ buf) :
    ∃ after, buf = line ++ 13 :: 10 :: after ∧ rest = after ++ future := by
  have cut : buf ++ future = (line ++ [13, 10]) ++ rest := by simpa using cut
  rcases List.append_eq_append_iff.mp cut with ⟨missing, whole, future⟩ | ⟨after, whole, rfl⟩
  · rcases List.eq_nil_or_concat missing with rfl | ⟨front, last, rfl⟩
    · exact ⟨[], by simpa using whole.symm, by simpa using future.symm⟩
    · have whole : (line ++ [13]) ++ [10] = (buf ++ front) ++ [last] := by simpa using whole
      have shorter := (List.append_inj' whole rfl).1
      have inside : 10 ∈ line ++ [13] := shorter ▸ List.mem_append_left front ends
      simp [oneLine] at inside
  · exact ⟨after, by simpa using whole, rfl⟩

/-- The first line of a buffer. -/
theorem nextLine_line {line : List UInt8} (oneLine : 10 ∉ line) (after : List UInt8) :
    nextLine (line ++ 13 :: 10 :: after) = some (line ++ [13], after) := by
  have kept : ∀ byte ∈ line ++ [13], (byte != 10) = true := by
    intro byte member
    rcases List.mem_append.mp member with inside | last
    · exact bne_iff_ne.mpr fun same => oneLine (same ▸ inside)
    · rw [List.mem_singleton.mp last]
      decide
  have split : line ++ 13 :: 10 :: after = (line ++ [13]) ++ 10 :: after := by simp
  unfold nextLine
  rw [if_pos (by simp), split, List.takeWhile_append_of_pos kept, List.dropWhile_append_of_pos kept]
  simp

/-- The bytes that are in a reader and those that come next complete commands. -/
abbrev Reading (future : List UInt8) (reader : CommandReader) (cmds : List ParsedCommand) : Prop :=
  Upcoming reader.pendingLine reader.literalRemaining (reader.buf ++ future) cmds

/-- What a feed returns of the commands of a stream. -/
structure Returns (future : List UInt8) (cmds now : List ParsedCommand) (fed : Fed) : Prop where
  /-- The feed is no error. -/
  returned : fed.1 = .ok now
  /-- The rest of the stream completes the other commands. -/
  rest : ∃ later, cmds = now ++ later ∧ Reading future fed.2 later
  /-- Without a literal to come, no line is left. -/
  used : fed.2.literalRemaining = none → 10 ∉ fed.2.buf

/-- The rounds that a reader may need. -/
def roundsFor (reader : CommandReader) : Nat :=
  2 * reader.buf.length + if reader.literalRemaining.isSome then 1 else 0

/-- A literal is not in the buffer as a whole. -/
theorem feedLoop_short {buf content : List UInt8} (short : buf.length < content.length)
    (rounds : Nat) (pending : List UInt8) :
    feedLoop (rounds + 1) ⟨buf, pending, some content.length⟩ =
      (.ok [], ⟨[], pending ++ buf, some (content.length - buf.length)⟩) := by
  rw [feedLoop]
  dsimp only
  rw [List.take_of_length_le short.le, List.drop_of_length_le short.le, if_pos short]

/-- A literal is in the buffer as a whole. -/
theorem feedLoop_literal (content after : List UInt8) (rounds : Nat) (pending : List UInt8) :
    feedLoop (rounds + 1) ⟨content ++ after, pending, some content.length⟩ =
      feedLoop rounds ⟨after, pending ++ content, none⟩ := by
  rw [feedLoop]
  dsimp only
  rw [List.take_left, List.drop_left, if_neg (Nat.lt_irrefl _)]

/-- No line is in the buffer as a whole. -/
theorem feedLoop_waits {buf : List UInt8} (part : 10 ∉ buf) (rounds : Nat)
    (pending : List UInt8) :
    feedLoop (rounds + 1) ⟨buf, pending, none⟩ = (.ok [], ⟨buf, pending, none⟩) := by
  rw [feedLoop]
  dsimp only
  rw [nextLine, if_neg part]

/-- The line of a literal's marker. -/
theorem feedLoop_marker {line : List UInt8} {count marker : Nat} (oneLine : 10 ∉ line)
    (marked : literalCount line = some (count, marker)) (rounds : Nat)
    (pending after : List UInt8) :
    feedLoop (rounds + 1) ⟨line ++ 13 :: 10 :: after, pending, none⟩ =
      (.ok [], ⟨after, pending ++ line.take (line.length - marker), some count⟩) := by
  rw [feedLoop]
  dsimp only
  rw [nextLine_line oneLine]
  dsimp only
  rw [if_neg (by simp), List.dropLast_concat, marked]

/-- The last line of a command. -/
theorem feedLoop_line {line pending : List UInt8} {cmd : ParsedCommand} (oneLine : 10 ∉ line)
    (last : literalCount line = none) (parsed : parseLine (pending ++ line) = .ok cmd)
    (rounds : Nat) (after : List UInt8) :
    feedLoop (rounds + 1) ⟨line ++ 13 :: 10 :: after, pending, none⟩ =
      (feedLoop rounds ⟨after, [], none⟩).push cmd := by
  rw [feedLoop]
  dsimp only
  rw [nextLine_line oneLine]
  dsimp only
  rw [if_neg (by simp), List.dropLast_concat, last]
  dsimp only
  rw [parsed]

/-- With enough rounds, the loop returns the commands of the lines that are complete. -/
theorem feedLoop_returns (future : List UInt8) (rounds : Nat) (reader : CommandReader)
    (cmds : List ParsedCommand) (reading : Reading future reader cmds)
    (enough : roundsFor reader < rounds) :
    ∃ now, Returns future cmds now (feedLoop rounds reader) := by
  induction rounds generalizing reader cmds with
  | zero => omega
  | succ rounds ih =>
    obtain ⟨buf, pending, literal⟩ := reader
    unfold Reading at reading
    dsimp only at reading
    by_cases part : literal = none ∧ 10 ∉ buf
    · obtain ⟨rfl, part⟩ := part
      rw [feedLoop_waits part]
      exact ⟨[], rfl, ⟨cmds, rfl, reading⟩, fun _ => part⟩
    · generalize whole : buf ++ future = bytes at reading
      cases reading with
      | done =>
        have empty := (List.append_eq_nil_iff.mp whole).1
        simp [empty] at part
      | line _ line rest cmd cmds oneLine last parsed more =>
        obtain ⟨after, rfl, rfl⟩ := line_of_mem whole oneLine (by simpa using part)
        have shorter : roundsFor ⟨after, [], none⟩ < rounds := by
          simp [roundsFor] at enough ⊢
          omega
        obtain ⟨now, returned, ⟨later, split, rest⟩, used⟩ := ih ⟨after, [], none⟩ cmds more shorter
        rw [feedLoop_line oneLine last parsed]
        refine ⟨cmd :: now, ?_, ⟨later, by rw [split, List.cons_append], rest⟩, used⟩
        rw [Fed.push, returned]
        rfl
      | marker _ line rest count marker _ oneLine marked more =>
        obtain ⟨after, rfl, rfl⟩ := line_of_mem whole oneLine (by simpa using part)
        rw [feedLoop_marker oneLine marked]
        exact ⟨[], rfl, ⟨cmds, rfl, more⟩, nofun⟩
      | literal _ content rest cmd cmds more =>
        rcases Nat.lt_or_ge buf.length content.length with short | long
        · rw [feedLoop_short short]
          obtain ⟨left, rfl⟩ := List.prefix_of_prefix_length_le ⟨future, whole⟩
            (List.prefix_append content rest) short.le
          obtain rfl : future = left ++ rest := by simpa using whole
          have counted : (buf ++ left).length - buf.length = left.length := by simp
          refine ⟨[], rfl, ⟨cmd :: cmds, rfl, ?_⟩, nofun⟩
          rw [counted]
          exact .literal _ left rest cmd cmds (by simpa using more)
        · obtain ⟨after, rfl⟩ := List.prefix_of_prefix_length_le (List.prefix_append content rest)
            ⟨future, whole⟩ long
          obtain rfl : rest = after ++ future := by simpa using whole.symm
          rw [feedLoop_literal]
          refine ih ⟨after, pending ++ content, none⟩ (cmd :: cmds) more ?_
          simp [roundsFor] at enough ⊢
          omega

/-- A feed returns the commands of the lines that are complete. -/
theorem feed_returns {data future : List UInt8} {reader : CommandReader}
    {cmds : List ParsedCommand} (reading : Reading (data ++ future) reader cmds) :
    ∃ now, Returns future cmds now (reader.feed data) := by
  have reading : Upcoming reader.pendingLine reader.literalRemaining
      ((reader.buf ++ data) ++ future) cmds := by
    rw [List.append_assoc]
    exact reading
  refine feedLoop_returns future _ _ cmds reading ?_
  unfold roundsFor
  dsimp only
  split <;> omega

/-! ## Answers -/

/-- What a client waits for. -/
inductive Mark where
  /-- The continuation of an IDLE. -/
  | idling
  /-- The completion of a command. -/
  | completion (tag : String)
  deriving DecidableEq

/-- The mark that a line is. -/
def mark : Reply → Option Mark
  | .tagged tag _ _ => some (.completion tag)
  | .continuation text => if text = "idle" then some .idling else none
  | .untagged _ | .literal _ => none

/-- The marks of the lines that are written. -/
def marks (replies : List Reply) : List Mark := replies.filterMap mark

/-- The DONE that ends an IDLE, which has no tag. -/
def isDone (cmd : ParsedCommand) : Bool := cmd.name = "DONE" && cmd.tag = ""

/-- What commands are answered with, up to a LOGOUT: each by its completion, and an IDLE by its
continuation before. -/
def answers : List ParsedCommand → List Mark
  | [] => []
  | cmd :: rest =>
    if cmd.name = "LOGOUT" then [.completion cmd.tag]
    else if isDone cmd then answers rest
    else if cmd.name = "IDLE" then .idling :: .completion cmd.tag :: answers rest
    else .completion cmd.tag :: answers rest

/-- Up to a LOGOUT, an IDLE is followed by its DONE, and there is no other. -/
inductive Paired : List ParsedCommand → Prop
  /-- No command. -/
  | nil : Paired []
  /-- A LOGOUT. -/
  | logout (cmd : ParsedCommand) (rest : List ParsedCommand) (named : cmd.name = "LOGOUT") :
    Paired (cmd :: rest)
  /-- An IDLE and its DONE. -/
  | idle (cmd done : ParsedCommand) (rest : List ParsedCommand) (named : cmd.name = "IDLE")
    (ends : isDone done = true) (paired : Paired rest) : Paired (cmd :: done :: rest)
  /-- Another command. -/
  | other (cmd : ParsedCommand) (rest : List ParsedCommand) (notIdle : cmd.name ≠ "IDLE")
    (notDone : isDone cmd = false) (paired : Paired rest) : Paired (cmd :: rest)

/-- What follows a command that is no LOGOUT and no IDLE. -/
theorem Paired.of_other {cmd : ParsedCommand} {rest : List ParsedCommand}
    (paired : Paired (cmd :: rest)) (stays : cmd.name ≠ "LOGOUT") (notIdle : cmd.name ≠ "IDLE") :
    isDone cmd = false ∧ Paired rest := by
  cases paired with
  | logout _ _ named => exact absurd named stays
  | idle _ _ _ named => exact absurd named notIdle
  | other _ _ _ notDone paired => exact ⟨notDone, paired⟩

/-- An IDLE is followed by the DONE it is paired with. -/
theorem Paired.of_idle {cmd : ParsedCommand} {rest : List ParsedCommand}
    (paired : Paired (cmd :: rest)) (named : cmd.name = "IDLE") :
    ∃ done more, rest = done :: more ∧ isDone done = true ∧ Paired more := by
  cases paired with
  | logout _ _ logout => exact absurd (named.symm.trans logout) (by decide)
  | idle _ done more _ ends paired => exact ⟨done, more, rfl, ends, paired⟩
  | other _ _ notIdle => exact absurd named notIdle

/-- The answers to an IDLE and to what follows its DONE. -/
theorem answers_idle {cmd done : ParsedCommand} (named : cmd.name = "IDLE")
    (ends : isDone done = true) (rest : List ParsedCommand) :
    answers (cmd :: done :: rest) = .idling :: .completion cmd.tag :: answers rest := by
  have notDone : isDone cmd = false := by simp [isDone, named]
  have stays : done.name ≠ "LOGOUT" := by
    simp only [isDone, Bool.and_eq_true, decide_eq_true_eq] at ends
    rw [ends.1]
    decide
  rw [answers, if_neg (by rw [named]; decide), notDone, if_neg Bool.false_ne_true, if_pos named,
    answers, if_neg stays, if_pos ends]

/-- The marks of lines in two parts. -/
@[simp] theorem marks_append (first second : List Reply) :
    marks (first ++ second) = marks first ++ marks second := List.filterMap_append

/-- The continuation for a literal is no mark. -/
@[simp] theorem marks_literalContinuation (reader : CommandReader) :
    marks (literalContinuation reader) = [] := by
  unfold literalContinuation
  split
  · rfl
  · rfl

/-- The mark of a response that completes. -/
theorem marks_of_completes {tag : String} {status : Status} {replies : List Reply}
    (completes : Completes tag status replies) : marks replies = [.completion tag] := by
  obtain ⟨data, text, rfl, plain⟩ := completes.only
  have none : marks data = [] := by
    refine List.filterMap_eq_nil_iff.mpr fun line member => ?_
    have plain := List.all_eq_true.mp plain line member
    cases line with
    | untagged | literal => rfl
    | tagged | continuation => cases plain
  rw [marks_append, none]
  rfl

/-- Every command but an IDLE is answered by its completion. -/
theorem marks_handle (env : Environment) (session : Session) (db : Db) {cmd : ParsedCommand}
    (notIdle : cmd.name ≠ "IDLE") :
    marks (handle env session db cmd).1 = [.completion cmd.tag] := by
  obtain ⟨status, completes⟩ := handle_completes env session db notIdle
  exact marks_of_completes completes

/-- The commands up to a LOGOUT. -/
def upToLogout : List ParsedCommand → List ParsedCommand
  | [] => []
  | cmd :: rest => if cmd.name = "LOGOUT" then [cmd] else cmd :: upToLogout rest

/-- The commands that a read completes. -/
def completed (reader : CommandReader) (data : List UInt8) : List ParsedCommand :=
  match (reader.feed data).1 with
  | .ok cmds => cmds
  | _ => []

/-- What the loop over the commands of a read leaves of the commands of a stream. -/
inductive Serves (reader : CommandReader) (later : List ParsedCommand) (due : List Mark) :
    Conn × List Reply → Prop
  /-- The loop ends, and the marks of the later commands are due. -/
  | ended (session : Session) (db : Db) (written : List Reply) (paired : Paired later)
    (ordered : marks written ++ answers later = due) :
    Serves reader later due (⟨session, db, reader, .serving⟩, written)
  /-- A LOGOUT closes the connection, and no mark is due. -/
  | closed (session : Session) (db : Db) (written : List Reply) (ordered : marks written = due) :
    Serves reader later due (⟨session, db, reader, .closed⟩, written)

/-- Commands without an IDLE are served in order. -/
theorem serveCommands_serves (env : Environment) {now later : List ParsedCommand}
    (paired : Paired (now ++ later)) (noIdle : ∀ cmd ∈ upToLogout now, cmd.name ≠ "IDLE")
    (conn : Conn) (out : List Reply) :
    Serves conn.reader later (marks out ++ answers (now ++ later))
      (serveCommands env conn out now) := by
  induction now generalizing conn out with
  | nil => exact .ended conn.session conn.db out paired rfl
  | cons cmd now ih =>
    have notIdle : cmd.name ≠ "IDLE" := by
      refine noIdle cmd ?_
      rw [upToLogout]
      split <;> simp
    rw [serveCommands, if_neg notIdle]
    have answered := marks_handle env conn.session conn.db notIdle
    generalize handle env conn.session conn.db cmd = result at answered ⊢
    obtain ⟨replies, session, db⟩ := result
    dsimp only at answered ⊢
    rw [List.cons_append, answers]
    split
    · refine .closed session db _ ?_
      rw [marks_append, answered]
    · rename_i stays
      obtain ⟨notDone, paired⟩ := paired.of_other stays notIdle
      rw [upToLogout, if_neg stays] at noIdle
      have served := ih paired (fun other member => noIdle other (.tail cmd member))
        ⟨session, db, conn.reader, conn.activity⟩ (out ++ replies)
      rw [marks_append, answered, List.append_assoc] at served
      rw [notDone, if_neg Bool.false_ne_true]
      exact served

/-! ## Runs -/

/-- A connection, with all the lines it has written, takes an input. -/
def serve (env : Environment) (state : Conn × List Reply) (input : Input) : Conn × List Reply :=
  ((state.1.step env input).1, state.2 ++ (state.1.step env input).2)

/-- The bytes that are read. -/
def received : List Input → List UInt8
  | [] => []
  | .read data :: rest => data ++ received rest
  | .event _ :: rest | .store _ :: rest => received rest

/-- Of the commands that a read completes up to a LOGOUT, none is an IDLE or there is one only. -/
def IdleAlone (cmds : List ParsedCommand) : Prop :=
  (∀ cmd ∈ upToLogout cmds, cmd.name ≠ "IDLE") ∨ cmds.length ≤ 1

/-- An IDLE and a DONE come in reads of their own, and the stream does not end before a literal is
read. -/
def ApartRead (reader : CommandReader) (data : List UInt8) : Activity → Prop
  | .serving =>
    if data = [] then reader.literalRemaining = none else IdleAlone (completed reader data)
  | .idling _ _ _ =>
    if data = [] then reader.literalRemaining = none else (completed reader data).length ≤ 1
  | .closed | .hung => True

/-- The condition on an input. -/
def Apart (state : Conn × List Reply) : Input → Prop
  | .read data => ApartRead state.1.reader data state.1.activity
  | .event _ | .store _ => True

/-- Whether an IDLE is alone can be decided. -/
instance IdleAlone.decidable (cmds : List ParsedCommand) : Decidable (IdleAlone cmds) :=
  inferInstanceAs (Decidable (_ ∨ _))

/-- The condition on a read can be decided. -/
instance ApartRead.decidable (reader : CommandReader) (data : List UInt8) :
    ∀ activity, Decidable (ApartRead reader data activity)
  | .serving => inferInstanceAs (Decidable
      (if data = [] then reader.literalRemaining = none else IdleAlone (completed reader data)))
  | .idling _ _ _ => inferInstanceAs (Decidable
      (if data = [] then reader.literalRemaining = none else (completed reader data).length ≤ 1))
  | .closed | .hung => inferInstanceAs (Decidable True)

/-- The condition on an input can be decided. -/
instance Apart.decidable (state : Conn × List Reply) : ∀ input, Decidable (Apart state input)
  | .read _ => inferInstanceAs (Decidable (ApartRead _ _ _))
  | .event _ | .store _ => inferInstanceAs (Decidable True)

/-- The marks written so far, with those of the commands to come, are all that are due. -/
inductive Answering (due : List Mark) (future : List UInt8) : Conn × List Reply → Prop
  /-- The connection waits for commands. -/
  | serving (session : Session) (db : Db) (reader : CommandReader) (lines : List Reply)
    (later : List ParsedCommand) (reading : Reading future reader later)
    (used : reader.literalRemaining = none → 10 ∉ reader.buf) (paired : Paired later)
    (ordered : marks lines ++ answers later = due) :
    Answering due future (⟨session, db, reader, .serving⟩, lines)
  /-- The connection idles, and the next command ends that. -/
  | idling (session : Session) (db : Db) (reader : CommandReader) (lines : List Reply)
    (tag : String) (done : ParsedCommand) (later : List ParsedCommand)
    (reading : Reading future reader (done :: later))
    (used : reader.literalRemaining = none → 10 ∉ reader.buf) (ends : isDone done = true)
    (paired : Paired later) (ordered : marks lines ++ .completion tag :: answers later = due) :
    Answering due future (⟨session, db, reader, .idling tag [] []⟩, lines)
  /-- The connection is closed. -/
  | closed (session : Session) (db : Db) (reader : CommandReader) (lines : List Reply)
    (ordered : marks lines = due) : Answering due future (⟨session, db, reader, .closed⟩, lines)

/-- The commands that a read completes are those that the feed returns. -/
theorem Returns.completed_eq {future : List UInt8} {cmds now : List ParsedCommand}
    {reader : CommandReader} {data : List UInt8}
    (returns : Returns future cmds now (reader.feed data)) : completed reader data = now := by
  rw [completed, returns.returned]

/-- Where an IDLE is alone, there is none or there is nothing else. -/
theorem idleAlone_cases {cmds : List ParsedCommand} (alone : IdleAlone cmds) :
    (∀ cmd ∈ upToLogout cmds, cmd.name ≠ "IDLE") ∨ ∃ cmd, cmds = [cmd] ∧ cmd.name = "IDLE" := by
  rcases alone with none | short
  · exact .inl none
  · match cmds, short with
    | [], _ => exact .inl nofun
    | [cmd], _ =>
      by_cases named : cmd.name = "IDLE"
      · exact .inr ⟨cmd, rfl, named⟩
      · refine .inl fun other member => ?_
        have same : other = cmd := by
          rw [upToLogout] at member
          split at member <;> simpa [upToLogout] using member
        rw [same]
        exact named

/-- A read while the connection waits for commands. -/
theorem serveRead_answering (env : Environment) {due : List Mark} {data future : List UInt8}
    {session : Session} {db : Db} {reader : CommandReader} {lines : List Reply}
    {cmds : List ParsedCommand} (reading : Reading (data ++ future) reader cmds)
    (paired : Paired cmds) (ordered : marks lines ++ answers cmds = due)
    (alone : IdleAlone (completed reader data)) :
    Answering due future
      ((serveRead env ⟨session, db, reader, .serving⟩ data).1,
        lines ++ (serveRead env ⟨session, db, reader, .serving⟩ data).2) := by
  obtain ⟨now, returns⟩ := feed_returns reading
  rw [returns.completed_eq] at alone
  obtain ⟨returned, ⟨later, rfl, follows⟩, used⟩ := returns
  unfold serveRead
  generalize reader.feed data = fed at returned follows used ⊢
  obtain ⟨result, after⟩ := fed
  dsimp only at returned follows used ⊢
  subst returned
  dsimp only
  rcases idleAlone_cases alone with noIdle | ⟨cmd, rfl, named⟩
  · have served := serveCommands_serves env paired noIdle ⟨session, db, after, .serving⟩ []
    generalize serveCommands env ⟨session, db, after, .serving⟩ [] now = result at served ⊢
    cases served with
    | ended session db written paired inOrder =>
      refine .serving session db after _ later follows used paired ?_
      rw [marks_append, marks_append, marks_literalContinuation, List.nil_append,
        List.append_assoc, inOrder]
      exact ordered
    | closed session db written inOrder =>
      refine .closed session db after _ ?_
      rw [marks_append, marks_append, marks_literalContinuation, List.nil_append, inOrder]
      exact ordered
  · obtain ⟨done, more, rfl, ends, paired⟩ := paired.of_idle named
    rw [serveCommands, if_pos named]
    refine .idling session db after _ cmd.tag done more follows used ends paired ?_
    rw [marks_append, marks_append, marks_literalContinuation, List.nil_append]
    rw [List.singleton_append, answers_idle named ends] at ordered
    rw [List.append_assoc]
    exact ordered

/-- A read while the connection idles. -/
theorem idleRead_answering (env : Environment) {due : List Mark} {data future : List UInt8}
    {session : Session} {db : Db} {reader : CommandReader} {lines : List Reply} {tag : String}
    {done : ParsedCommand} {cmds : List ParsedCommand}
    (reading : Reading (data ++ future) reader (done :: cmds)) (ends : isDone done = true)
    (paired : Paired cmds) (ordered : marks lines ++ .completion tag :: answers cmds = due)
    (alone : (completed reader data).length ≤ 1) :
    Answering due future
      ((idleRead env ⟨session, db, reader, .idling tag [] []⟩ tag [] [] data).1,
        lines ++ (idleRead env ⟨session, db, reader, .idling tag [] []⟩ tag [] [] data).2) := by
  obtain ⟨now, returns⟩ := feed_returns reading
  rw [returns.completed_eq] at alone
  obtain ⟨returned, ⟨later, split, follows⟩, used⟩ := returns
  unfold idleRead
  generalize reader.feed data = fed at returned follows used ⊢
  obtain ⟨result, after⟩ := fed
  dsimp only at returned follows used ⊢
  subst returned
  dsimp only
  match now, alone with
  | [], _ =>
    rw [List.nil_append] at split
    subst split
    rw [if_neg (by simp)]
    refine .idling session db after _ tag done cmds follows used ends paired ?_
    rw [List.append_nil]
    exact ordered
  | [cmd], _ =>
    obtain ⟨rfl, rfl⟩ := List.cons.inj split
    have named : done.name = "DONE" := by
      simp only [isDone, Bool.and_eq_true, decide_eq_true_eq] at ends
      exact ends.1
    rw [if_pos (by simp [named]), serveCommands]
    refine .serving session db after _ _ follows used paired ?_
    rw [marks_append, List.append_assoc]
    exact ordered

/-- A read that is taken apart keeps the order. -/
theorem read_answering (env : Environment) {due : List Mark} {data future : List UInt8}
    {state : Conn × List Reply} (answering : Answering due (data ++ future) state)
    (some : data ≠ []) (apart : Apart state (.read data)) :
    Answering due future (serve env state (.read data)) := by
  cases answering with
  | serving session db reader lines later reading used paired ordered =>
    simp only [Apart, ApartRead, if_neg some] at apart
    simp only [serve, Conn.step, if_neg some]
    exact serveRead_answering env reading paired ordered apart
  | idling session db reader lines tag done later reading used ends paired ordered =>
    simp only [Apart, ApartRead, if_neg some] at apart
    simp only [serve, Conn.step, if_neg some]
    exact idleRead_answering env reading ends paired ordered apart
  | closed session db reader lines ordered =>
    simp only [serve, Conn.step, List.append_nil]
    exact .closed session db reader lines ordered

/-- An event that comes while a command is answered is no mark. -/
theorem event_answering (env : Environment) {due : List Mark} {future : List UInt8}
    {state : Conn × List Reply} (answering : Answering due future state) (userId : Nat) :
    Answering due future (serve env state (.event userId)) := by
  cases answering with
  | serving session db reader lines later reading used paired ordered =>
    simp only [serve, Conn.step, List.append_nil]
    exact .serving session db reader lines later reading used paired ordered
  | idling session db reader lines tag done later reading used ends paired ordered =>
    simp only [serve, Conn.step]
    split
    · refine .idling session db reader _ tag done later reading used ends paired ?_
      rw [marks_append, List.append_assoc]
      exact ordered
    · rw [List.append_nil]
      exact .idling session db reader lines tag done later reading used ends paired ordered
  | closed session db reader lines ordered =>
    simp only [serve, Conn.step, List.append_nil]
    exact .closed session db reader lines ordered

/-- A change of the store by another party is no mark. -/
theorem store_answering (env : Environment) {due : List Mark} {future : List UInt8}
    {state : Conn × List Reply} (answering : Answering due future state) (db : Db) :
    Answering due future (serve env state (.store db)) := by
  simp only [serve, Conn.step, List.append_nil]
  cases answering with
  | serving session _ reader lines later reading used paired ordered =>
    exact .serving session db reader lines later reading used paired ordered
  | idling session _ reader lines tag done later reading used ends paired ordered =>
    exact .idling session db reader lines tag done later reading used ends paired ordered
  | closed session _ reader lines ordered => exact .closed session db reader lines ordered

/-- Bytes without a line complete no command. -/
theorem Upcoming.nothing {pending bytes : List UInt8} {cmds : List ParsedCommand}
    (upcoming : Upcoming pending none bytes cmds) (part : 10 ∉ bytes) : cmds = [] := by
  cases upcoming with
  | done => rfl
  | line => simp at part
  | marker => simp at part

/-- At the end of the stream, all that is due is written. -/
theorem end_answered (env : Environment) {due : List Mark} {state : Conn × List Reply}
    (answering : Answering due [] state) (apart : Apart state (.read [])) :
    marks (serve env state (.read [])).2 = due := by
  have nothing : ∀ {reader : CommandReader} {cmds : List ParsedCommand},
      Reading [] reader cmds → (reader.literalRemaining = none → 10 ∉ reader.buf) →
      reader.literalRemaining = none → cmds = [] := by
    intro reader cmds reading used none
    rw [Reading, none, List.append_nil] at reading
    exact reading.nothing (used none)
  cases answering with
  | serving session db reader lines later reading used paired ordered =>
    simp only [Apart, ApartRead, if_pos] at apart
    simp only [serve, Conn.step, if_pos, List.append_nil]
    rw [nothing reading used apart, answers, List.append_nil] at ordered
    exact ordered
  | idling session db reader lines tag done later reading used ends paired ordered =>
    simp only [Apart, ApartRead, if_pos] at apart
    cases nothing reading used apart
  | closed session db reader lines ordered =>
    simp only [serve, Conn.step, List.append_nil]
    exact ordered

/-- Reads that are taken apart keep the order. -/
theorem run_answering (env : Environment) {due : List Mark} (inputs : List Input)
    (some : ∀ data, .read data ∈ inputs → data ≠ []) (future : List UInt8)
    {state : Conn × List Reply} (answering : Answering due (received inputs ++ future) state)
    (apart : Guarded (serve env) Apart state inputs) :
    Answering due future (run (serve env) state inputs) := by
  induction inputs generalizing state with
  | nil => exact answering
  | cons input inputs ih =>
    obtain ⟨first, apart⟩ := apart
    have some' : ∀ data, .read data ∈ inputs → data ≠ [] :=
      fun data member => some data (.tail input member)
    cases input with
    | read data =>
      rw [received, List.append_assoc] at answering
      exact ih some' (read_answering env answering (some data (.head inputs)) first) apart
    | event userId => exact ih some' (event_answering env answering userId) apart
    | store db => exact ih some' (store_answering env answering db) apart

/-- Nothing is written that is not due yet. -/
theorem Answering.writes {due : List Mark} {future : List UInt8} {state : Conn × List Reply}
    (answering : Answering due future state) : marks state.2 <+: due := by
  cases answering with
  | serving _ _ _ _ later _ _ _ ordered => exact ⟨_, ordered⟩
  | idling _ _ _ _ _ _ _ _ _ _ _ ordered => exact ⟨_, ordered⟩
  | closed _ _ _ _ ordered => exact ⟨[], by rw [List.append_nil, ordered]⟩

/-- However a stream of commands is cut into reads, as long as each IDLE and each DONE is alone
among the commands of its read: the marks that are written are those that are due, one by one and
in order, and at the end of the stream none is missing. -/
theorem answered_in_order_of_apart (env : Environment) (authMode : AuthMode)
    (domain hostname : String) (db : Db) (stream : List UInt8) (cmds : List ParsedCommand)
    (wellFormed : Upcoming [] none stream cmds) (paired : Paired cmds) (inputs : List Input)
    (future : List UInt8) (cut : received inputs ++ future = stream)
    (some : ∀ data, .read data ∈ inputs → data ≠ [])
    (apart : Guarded (serve env) Apart (accepted authMode domain hostname db) inputs) :
    let state := run (serve env) (accepted authMode domain hostname db) inputs
    marks state.2 <+: answers cmds ∧
      (future = [] → Apart state (.read []) →
        marks (serve env state (.read [])).2 = answers cmds) := by
  intro state
  have start : Answering (answers cmds) (received inputs ++ future)
      (accepted authMode domain hostname db) := by
    rw [cut]
    exact .serving _ db {} _ cmds wellFormed (by simp) paired rfl
  have answering := run_answering env inputs some future start apart
  refine ⟨answering.writes, ?_⟩
  rintro rfl
  exact end_answered env answering

/-- Lines of commands, one after the other. -/
def commandLines (lines : List String) : List UInt8 :=
  lines.flatMap fun line => Utf8.bytes line ++ [13, 10]

/-- One more line ends a command. -/
theorem upcoming_commandLines {line : String} {lines : List String} {cmd : ParsedCommand}
    {cmds : List ParsedCommand} (oneLine : 10 ∉ Utf8.bytes line)
    (last : literalCount (Utf8.bytes line) = none) (parsed : parseLine (Utf8.bytes line) = .ok cmd)
    (more : Upcoming [] none (commandLines lines) cmds) :
    Upcoming [] none (commandLines (line :: lines)) (cmd :: cmds) := by
  have bytes : commandLines (line :: lines) =
      Utf8.bytes line ++ 13 :: 10 :: commandLines lines := by
    simp [commandLines]
  rw [bytes]
  exact .line [] _ _ cmd cmds oneLine last parsed more

/-- A client that does not wait for its first completion. -/
def hasty : List ParsedCommand :=
  [⟨"A1", "NOOP", []⟩, ⟨"A2", "IDLE", []⟩, ⟨"", "DONE", []⟩, ⟨"A3", "NOOP", []⟩]

/-- The client's stream. -/
theorem upcoming_hasty :
    Upcoming [] none (commandLines ["A1 NOOP", "A2 IDLE", "DONE", "A3 NOOP"]) hasty :=
  upcoming_commandLines (by decide +kernel) (by decide +kernel) (by decide +kernel)
    (upcoming_commandLines (by decide +kernel) (by decide +kernel) (by decide +kernel)
      (upcoming_commandLines (by decide +kernel) (by decide +kernel) (by decide +kernel)
        (upcoming_commandLines (by decide +kernel) (by decide +kernel) (by decide +kernel) .done)))

/-- Each IDLE of the stream has its DONE. -/
theorem paired_hasty : Paired hasty :=
  .other _ _ (by decide) rfl (.idle _ _ _ rfl rfl (.other _ _ (by decide) rfl .nil))

/-- Reads of whole lines. -/
def reads (cuts : List (List String)) : List Input :=
  cuts.map fun lines => .read (commandLines lines)

/-- A connection before its first command. -/
def fresh : Conn × List Reply := accepted .localAuth "b.io" "mail.b.io" .empty

/-- Cut after each command, every command is answered in order. -/
theorem patient_client_answered :
    marks (run (serve groupEnvironment) fresh
      (reads [["A1 NOOP"], ["A2 IDLE"], ["DONE"], ["A3 NOOP"]] ++ [.read []])).2 =
        [.completion "A1", .idling, .completion "A2", .completion "A3"] := by
  have answered := answered_in_order_of_apart groupEnvironment .localAuth "b.io" "mail.b.io" .empty
    _ hasty upcoming_hasty paired_hasty (reads [["A1 NOOP"], ["A2 IDLE"], ["DONE"], ["A3 NOOP"]]) []
    (by decide +kernel) (by simp [reads, commandLines]) (by decide +kernel)
  rw [run_append]
  exact answered.2 rfl (by decide +kernel)

/-- Cut between the lines of its commands only, a stream whose continuation is written before the
first completion and whose last command is never answered. -/
theorem hasty_client_misled :
    Upcoming [] none (commandLines ["A1 NOOP", "A2 IDLE", "DONE", "A3 NOOP"]) hasty ∧
    Paired hasty ∧
    received (reads [["A1 NOOP", "A2 IDLE"], ["DONE", "A3 NOOP"]]) =
      commandLines ["A1 NOOP", "A2 IDLE", "DONE", "A3 NOOP"] ∧
    answers hasty = [.completion "A1", .idling, .completion "A2", .completion "A3"] ∧
    marks (run (serve groupEnvironment) fresh
      (reads [["A1 NOOP", "A2 IDLE"], ["DONE", "A3 NOOP"]] ++ [.read []])).2 =
        [.idling, .completion "A1", .completion "A2"] :=
  ⟨upcoming_hasty, paired_hasty, by decide +kernel, by decide +kernel, by decide +kernel⟩

end Talk.Verif.Pipelining
