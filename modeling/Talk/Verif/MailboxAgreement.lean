import Talk.Lib.Exchange
import Talk.Verif.MailboxSteps

/-!
# The two ends of the local mailbox channel

A client makes its calls on one connection to a server. The two ends agree when the server takes
exactly the lines of the calls for commands, asks the handler for what each call says or for
nothing, and answers the call that the client reads the answer for. They do as long as every call
can be taken apart and no answer of the handler breaks its line.
-/

namespace Talk.Verif.MailboxAgreement

open Protocol.Mailbox ByteStream Exchange MailboxSteps
open Protocol (FramingError maxLine maxBlob crlf blobBytes readLine readBlob readLine_text
  readLine_consumes readLine_long readLine_truncated lf_free header_fits header_free
  reads_readLine reads_readBlob forward_readBlob)
open Utf8 (bytes)

variable {ω : Type}

/-! ## The loop of the server -/

section Server

variable (handler : Handler ω) (reader : EmulateReader)

/-- The loop from a state. -/
def serveFrom (serving : Serving ω) : EStateM.Result FramingError (Serving ω) Unit :=
  Loop.drain (fun serving => serving.conn.input.length) (turn handler reader) serving

/-- Reading what a line asks for takes from the input only. -/
theorem readRequest_reads (line : String) (conn : Conn) :
    ∃ input, (readRequest reader line conn).2 = ⟨input, conn.output⟩ ∧
      input.length ≤ conn.input.length := by
  have nothing : ∃ input, conn = ⟨input, conn.output⟩ ∧ input.length ≤ conn.input.length :=
    ⟨conn.input, rfl, le_refl _⟩
  have blob (missing : String) (next : List UInt8 → Request) :
      ∃ input, (withBlob missing next conn).2 = ⟨input, conn.output⟩ ∧
        input.length ≤ conn.input.length := by
    obtain ⟨input, same⟩ := reads_readBlob conn
    have shorter := (forward_readBlob conn).1.length_le
    rw [same] at shorter
    refine ⟨input, ?_, shorter⟩
    rw [withBlob]
    cases read : readBlob.run conn with
    | ok data after =>
      rw [read] at same
      exact same
    | error error after =>
      rw [read] at same
      exact same
  unfold readRequest
  dsimp only
  split_ifs
  · unfold readSend
    dsimp only
    split
    · exact nothing
    · exact blob _ _
  · exact nothing
  · exact nothing
  · unfold readPayment
    dsimp only
    split
    · exact nothing
    · exact blob _ _
  · exact nothing
  · exact nothing
  · exact nothing

/-- The server has read a line and what it asks for, and it knows its answer. -/
structure Hears (serving : Serving ω) (line : String) (request : Request) (answer : Answer)
    (input : List UInt8) (world : ω) : Prop where
  /-- The line and the blob. -/
  read : ∃ conn, readLine.run serving.conn = .ok line conn ∧
    readRequest reader line conn = (request, ⟨input, serving.conn.output⟩)
  /-- The answer. -/
  answered : request.answer handler serving.world = (answer, world)

/-- The server after a turn that has written some bytes. -/
def advanced (serving : Serving ω) (input written : List UInt8) (world : ω) (turn : Turn) :
    Serving ω :=
  ⟨⟨input, serving.conn.output ++ written⟩, world, serving.turns ++ [turn]⟩

variable {handler reader} {serving : Serving ω} {line : String} {request : Request}
  {answer : Answer} {input : List UInt8} {world : ω}

/-- A line that is read is heard. -/
theorem hears_of_line (handler : Handler ω) (reader : EmulateReader) (serving : Serving ω)
    {conn : Conn} (read : readLine.run serving.conn = .ok line conn) :
    ∃ request answer input world,
      Hears handler reader serving line request answer input world ∧
        input.length ≤ conn.input.length := by
  obtain ⟨rest, same⟩ := reads_readLine serving.conn
  rw [read, final_ok] at same
  obtain ⟨input, asked, shorter⟩ := readRequest_reads reader line conn
  have output : conn.output = serving.conn.output := by rw [same, Conn.withInput]
  rw [output] at asked
  cases found : readRequest reader line conn with
  | mk request after =>
    rw [found] at asked
    cases answered : request.answer handler serving.world with
    | mk answer world =>
      have known : readRequest reader line conn = (request, ⟨input, serving.conn.output⟩) :=
        found.trans (congrArg (request, ·) asked)
      exact ⟨request, answer, input, world, ⟨⟨conn, read, known⟩, answered⟩, shorter⟩

/-- A turn with a writable answer. -/
theorem turn_ok (hears : Hears handler reader serving line request answer input world)
    (writable : Writable answer) :
    (turn handler reader).run serving = .ok (decide (request ≠ .quit))
      (advanced serving input (answerBytes answer) world ⟨line, request.invocation, answer⟩) := by
  obtain ⟨conn, read, asked⟩ := hears.read
  have written := writeAnswer_ok writable ⟨input, serving.conn.output⟩
  simp only [turn, EStateM.run] at read written ⊢
  simp only [read, asked, hears.answered, written]
  rfl

/-- A turn with an answer that cannot be written. -/
theorem turn_error (hears : Hears handler reader serving line request answer input world)
    (large : ¬Writable answer) : ∃ error, (turn handler reader).run serving = .error error
      (advanced serving input (startBytes answer) world ⟨line, request.invocation, answer⟩) := by
  obtain ⟨conn, read, asked⟩ := hears.read
  obtain ⟨error, written⟩ := writeAnswer_error large ⟨input, serving.conn.output⟩
  refine ⟨error, ?_⟩
  simp only [turn, EStateM.run] at read written ⊢
  simp only [read, asked, hears.answered, written]
  rfl

/-- A turn without a line ends the session. -/
theorem turn_end {error : FramingError} {conn : Conn}
    (failed : readLine.run serving.conn = .error error conn) :
    (turn handler reader).run serving = .ok false { serving with conn := conn } := by
  simp only [turn, EStateM.run] at failed ⊢
  simp only [failed]

/-- Every turn that goes on has consumed a byte. -/
theorem turn_lowers :
    Loop.Lowers (fun serving : Serving ω => serving.conn.input.length) (turn handler reader) := by
  intro serving after done
  cases read : readLine.run serving.conn with
  | error error conn =>
    rw [turn_end read] at done
    cases done
  | ok line conn =>
    obtain ⟨request, answer, input, world, hears, shorter⟩ :=
      hears_of_line handler reader serving read
    have consumed := readLine_consumes read
    by_cases writable : Writable answer
    · rw [turn_ok hears writable] at done
      have same := (EStateM.Result.ok.inj done).2
      rw [← same]
      exact lt_of_le_of_lt shorter consumed
    · obtain ⟨error, failed⟩ := turn_error hears writable
      rw [failed] at done
      cases done

/-! ## What the loop leaves behind -/

/-- What the loop writes from a state on, and the turns it makes. -/
structure Yields (handler : Handler ω) (reader : EmulateReader) (serving : Serving ω)
    (new : List UInt8) (newTurns : List Turn) : Prop where
  /-- What it writes. -/
  output : (final (serveFrom handler reader serving)).conn.output = serving.conn.output ++ new
  /-- Its turns. -/
  turns : (final (serveFrom handler reader serving)).turns = serving.turns ++ newTurns

/-- Output and turns are only added to. -/
def Grows (before after : Serving ω) : Prop :=
  before.conn.output <+: after.conn.output ∧ before.turns <+: after.turns

/-- A turn only adds to what was there. -/
theorem turn_grows (serving : Serving ω) :
    Grows serving (final ((turn handler reader).run serving)) := by
  cases read : readLine.run serving.conn with
  | error error conn =>
    obtain ⟨rest, same⟩ := reads_readLine serving.conn
    rw [read, final_error] at same
    rw [turn_end read, final_ok, same]
    exact ⟨List.prefix_rfl, List.prefix_rfl⟩
  | ok line conn =>
    obtain ⟨request, answer, input, world, hears, -⟩ := hears_of_line handler reader serving read
    by_cases writable : Writable answer
    · rw [turn_ok hears writable, final_ok]
      exact ⟨List.prefix_append _ _, List.prefix_append _ _⟩
    · obtain ⟨error, failed⟩ := turn_error hears writable
      rw [failed, final_error]
      exact ⟨List.prefix_append _ _, List.prefix_append _ _⟩

/-- The loop only adds to what was there. -/
theorem yields_some (handler : Handler ω) (reader : EmulateReader) (serving : Serving ω) :
    ∃ new newTurns, Yields handler reader serving new newTurns := by
  have grows : Grows serving (final (serveFrom handler reader serving)) :=
    Loop.repeatWhile_related (fun _ => ⟨List.prefix_rfl, List.prefix_rfl⟩)
      (fun one two => ⟨one.1.trans two.1, one.2.trans two.2⟩) turn_grows _ serving
  obtain ⟨⟨new, output⟩, ⟨newTurns, turns⟩⟩ := grows
  exact ⟨new, newTurns, output.symm, turns.symm⟩

/-- A loop that ends in its first turn. -/
theorem yields_once {after : Serving ω} {written : List UInt8} {turns : List Turn}
    (ended : final (serveFrom handler reader serving) = after)
    (output : after.conn.output = serving.conn.output ++ written)
    (logged : after.turns = serving.turns ++ turns) :
    Yields handler reader serving written turns :=
  ⟨ended ▸ output, ended ▸ logged⟩

/-- A line that cannot be read ends the loop. -/
theorem yields_end {error : FramingError} {conn : Conn}
    (failed : readLine.run serving.conn = .error error conn) :
    Yields handler reader serving [] [] := by
  obtain ⟨rest, same⟩ := reads_readLine serving.conn
  rw [failed, final_error] at same
  have ended : final (serveFrom handler reader serving) = { serving with conn := conn } := by
    rw [serveFrom, Loop.drain_stop (turn_end failed), final_ok]
  refine yields_once ended ?_ (List.append_nil _).symm
  rw [same]
  exact (List.append_nil _).symm

/-- An answer that cannot be written ends the loop. -/
theorem yields_error (hears : Hears handler reader serving line request answer input world)
    (large : ¬Writable answer) : Yields handler reader serving (startBytes answer)
      [⟨line, request.invocation, answer⟩] := by
  obtain ⟨error, failed⟩ := turn_error hears large
  have ended : final (serveFrom handler reader serving) = advanced serving input
      (startBytes answer) world ⟨line, request.invocation, answer⟩ := by
    rw [serveFrom, Loop.drain_error failed, final_error]
  exact yields_once ended rfl rfl

/-- QUIT ends the loop. -/
theorem yields_quit (hears : Hears handler reader serving line .quit answer input world)
    (writable : Writable answer) : Yields handler reader serving (answerBytes answer)
      [⟨line, none, answer⟩] := by
  have stopped := turn_ok hears writable
  rw [decide_eq_false (not_not.mpr rfl)] at stopped
  have ended : final (serveFrom handler reader serving) = advanced serving input
      (answerBytes answer) world ⟨line, none, answer⟩ := by
    rw [serveFrom, Loop.drain_stop stopped, final_ok]
    rfl
  exact yields_once ended rfl rfl

/-- After any other request the loop goes on. -/
theorem yields_next (hears : Hears handler reader serving line request answer input world)
    (writable : Writable answer) (goes : request ≠ .quit) {new : List UInt8}
    {newTurns : List Turn}
    (rest : Yields handler reader (advanced serving input (answerBytes answer) world
      ⟨line, request.invocation, answer⟩) new newTurns) :
    Yields handler reader serving (answerBytes answer ++ new)
      (⟨line, request.invocation, answer⟩ :: newTurns) := by
  have done := turn_ok hears writable
  rw [decide_eq_true goes] at done
  have same : serveFrom handler reader serving = serveFrom handler reader (advanced serving input
      (answerBytes answer) world ⟨line, request.invocation, answer⟩) :=
    Loop.drain_turn turn_lowers done
  refine ⟨?_, ?_⟩
  · rw [same, rest.output]
    exact List.append_assoc _ _ _
  · rw [same, rest.turns]
    exact List.append_assoc _ _ _

/-- A writable answer is the next that is written, and its line the next of the turns. -/
theorem yields_writable (hears : Hears handler reader serving line request answer input world)
    (writable : Writable answer) : ∃ new newTurns, Yields handler reader serving
      (answerBytes answer ++ new) (⟨line, request.invocation, answer⟩ :: newTurns) := by
  by_cases quit : request = .quit
  · subst quit
    have last := yields_quit hears writable
    rw [← List.append_nil (answerBytes answer)] at last
    exact ⟨[], [], last⟩
  · obtain ⟨new, newTurns, rest⟩ := yields_some handler reader
      (advanced serving input (answerBytes answer) world ⟨line, request.invocation, answer⟩)
    exact ⟨new, newTurns, yields_next hears writable quit rest⟩

/-- The line that is read is the next of the turns. -/
theorem yields_turn (hears : Hears handler reader serving line request answer input world) :
    ∃ new newTurns, Yields handler reader serving new
      (⟨line, request.invocation, answer⟩ :: newTurns) := by
  by_cases writable : Writable answer
  · obtain ⟨new, newTurns, yields⟩ := yields_writable hears writable
    exact ⟨_, newTurns, yields⟩
  · exact ⟨_, [], yields_error hears writable⟩

end Server

/-! ## Agreement -/

/-- The calls with what they returned, and the turns of the server: each call that was sent has its
turn, up to the end of the session. -/
inductive Agree : List (ClientCall × Except FramingError Answer) → List Turn → Prop where
  /-- No calls and no turns. -/
  | done : Agree [] []
  /-- The call was not sent, and the caller knows. -/
  | unsent {call : ClientCall} {result : Except FramingError Answer}
      {calls : List (ClientCall × Except FramingError Answer)} {turns : List Turn}
      (long : ¬Sent call) (failed : Failed result) (rest : Agree calls turns) :
      Agree ((call, result) :: calls) turns
  /-- The session was over, and the caller knows. -/
  | unserved {call : ClientCall} {result : Except FramingError Answer}
      {calls : List (ClientCall × Except FramingError Answer)}
      (failed : Failed result) (rest : Agree calls []) : Agree ((call, result) :: calls) []
  /-- The line of the call was taken for a command; the handler was asked for what the call says, if
  for anything; and the caller has the answer to the call, if any. -/
  | served {call : ClientCall} {result : Except FramingError Answer} {turn : Turn}
      {calls : List (ClientCall × Except FramingError Answer)} {turns : List Turn}
      (sent : Sent call) (line : turn.line = lineOf call)
      (invoked : turn.invoked = none ∨ turn.invoked = invocationOf call)
      (reply : Failed result ∨ result = .ok turn.answer) (rest : Agree calls turns) :
      Agree ((call, result) :: calls) (turn :: turns)

/-- A call that was not sent has no turn. -/
theorem agree_unsent_iff {call : ClientCall} (long : ¬Sent call)
    {result : Except FramingError Answer} (failed : Failed result)
    {calls : List (ClientCall × Except FramingError Answer)}
    {turns : List Turn} : Agree ((call, result) :: calls) turns ↔ Agree calls turns := by
  constructor
  · intro agree
    cases agree with
    | unsent _ _ rest => exact rest
    | unserved _ rest => exact rest
    | served sent => exact absurd sent long
  · exact .unsent long failed

/-- A call that was sent has the next turn. -/
theorem agree_served_iff {call : ClientCall} (sent : Sent call)
    {result : Except FramingError Answer}
    {calls : List (ClientCall × Except FramingError Answer)} {turn : Turn} {turns : List Turn} :
    Agree ((call, result) :: calls) (turn :: turns) ↔ turn.line = lineOf call ∧
      (turn.invoked = none ∨ turn.invoked = invocationOf call) ∧
      (Failed result ∨ result = .ok turn.answer) ∧ Agree calls turns := by
  constructor
  · intro agree
    cases agree with
    | unsent long => exact absurd sent long
    | served _ line invoked reply rest => exact ⟨line, invoked, reply, rest⟩
  · intro conditions
    exact .served sent conditions.1 conditions.2.1 conditions.2.2.1 conditions.2.2.2

/-- Only lines of calls are taken for commands. -/
theorem agree_lines {calls : List (ClientCall × Except FramingError Answer)} {turns : List Turn}
    (agree : Agree calls turns) : ∀ turn ∈ turns, ∃ entry ∈ calls, turn.line = lineOf entry.1 := by
  induction agree with
  | done => exact fun _ member => absurd member List.not_mem_nil
  | unsent _ _ _ ih =>
    intro turn member
    obtain ⟨entry, known, same⟩ := ih turn member
    exact ⟨entry, List.mem_cons_of_mem _ known, same⟩
  | unserved => exact fun _ member => absurd member List.not_mem_nil
  | served _ line _ _ _ ih =>
    intro turn member
    cases member with
    | head => exact ⟨_, List.mem_cons_self, line⟩
    | tail _ member =>
      obtain ⟨entry, known, same⟩ := ih turn member
      exact ⟨entry, List.mem_cons_of_mem _ known, same⟩

/-- After the session every call fails. -/
theorem agree_end {calls : List ClientCall} (clean : ∀ call ∈ calls, Clean call)
    (output : List UInt8) : Agree (performAll calls ⟨[], output⟩).1 [] := by
  induction calls generalizing output with
  | nil => exact .done
  | cons call calls ih =>
    rw [List.forall_mem_cons] at clean
    rw [performAll_cons]
    by_cases sent : Sent call
    · rw [perform_sent clean.1 sent]
      have heard := hear_end call (output ++ wireOf call)
      refine .unserved heard.1 ?_
      have rest := ih clean.2 (output ++ wireOf call)
      rwa [← heard.2] at rest
    · rw [perform_unsent sent]
      exact .unserved ⟨_, rfl⟩ (ih clean.2 output)

/-! ## The condition -/

/-- The reader takes the line of the call. -/
def Heard (call : ClientCall) : Prop := (bytes (lineOf call)).length + 2 ≤ maxLine

instance : DecidablePred Heard := fun call => Nat.decLe ((bytes (lineOf call)).length + 2) maxLine

/-- While the session lasts, the calls that are sent can be taken apart, and the handler answers
them in one line. A line above the reader's limit, an answer above the writer's and QUIT end the
session. -/
def Follows (handler : Handler ω) : ω → List ClientCall → Prop
  | _, [] => True
  | world, call :: calls =>
    if Sent call then
      Heard call → Separable call ∧
        (Writable ((requestOf call).answer handler world).1 →
          Unbroken ((requestOf call).answer handler world).1 ∧
            (call ≠ .quit → Follows handler ((requestOf call).answer handler world).2 calls))
    else Follows handler world calls

instance decidableFollows (handler : Handler ω) :
    ∀ world calls, Decidable (Follows handler world calls)
  | _, [] => inferInstanceAs (Decidable True)
  | world, call :: calls =>
    have := decidableFollows handler world calls
    have := decidableFollows handler ((requestOf call).answer handler world).2 calls
    inferInstanceAs (Decidable (if Sent call then _ → _ ∧ (_ → _ ∧ (_ → _)) else _))

/-- The server, given what the calls write, agrees with them if and only if they follow the
condition. -/
def Settled (handler : Handler ω) (reader : EmulateReader) (world : ω) (calls : List ClientCall) :
    Prop :=
  ∀ output turns, ∃ new newTurns,
    Yields handler reader ⟨⟨wires calls, output⟩, world, turns⟩ new newTurns ∧
      ∀ written, Agree (performAll calls ⟨new, written⟩).1 newTurns ↔ Follows handler world calls

section Calls

variable {handler : Handler ω} {reader : EmulateReader} {world : ω} {call : ClientCall}
  {calls : List ClientCall}

/-- The bytes of a call that is sent, its line and its blob, come before those of the later calls.
-/
theorem wires_sent (sent : Sent call) :
    wires (call :: calls) = bytes (lineOf call) ++ crlf ++ (frameOf call ++ wires calls) := by
  simp [wires, wireOf, sent]

/-- A call that is sent returns what it hears. -/
theorem performAll_sent (clean : Clean call) (sent : Sent call) (input written : List UInt8) :
    (performAll (call :: calls) ⟨input, written⟩).1 =
      (call, outcome ((hear call).run ⟨input, written ++ wireOf call⟩)) ::
        (performAll calls (final ((hear call).run ⟨input, written ++ wireOf call⟩))).1 := by
  rw [performAll_cons, perform_sent clean sent]
  rfl

/-- Without calls there is nothing to agree on. -/
theorem settled_nil : Settled handler reader world [] := by
  intro output turns
  obtain ⟨message, ended⟩ :=
    readLine_truncated (List.not_mem_nil (a := 10)) (Nat.zero_le _) output
  have yields : Yields handler reader ⟨⟨[], output⟩, world, turns⟩ [] [] := yields_end ended
  exact ⟨[], [], yields, fun _ => iff_of_true .done trivial⟩

/-- A call that is not sent leaves the others. -/
theorem settled_unsent (long : ¬Sent call) (rest : Settled handler reader world calls) :
    Settled handler reader world (call :: calls) := by
  intro output turns
  obtain ⟨new, newTurns, yields, same⟩ := rest output turns
  have nothing : wires (call :: calls) = wires calls := by simp [wires, wireOf, long]
  refine ⟨new, newTurns, nothing ▸ yields, fun written => ?_⟩
  rw [performAll_cons, perform_unsent long, Follows, if_neg long]
  exact (agree_unsent_iff long ⟨_, rfl⟩).trans (same written)

/-- A line above the reader's limit ends the session. -/
theorem settled_unheard (clean : ∀ other ∈ call :: calls, Clean other) (sent : Sent call)
    (unheard : ¬Heard call) : Settled handler reader world (call :: calls) := by
  intro output turns
  have single := line_free (List.forall_mem_cons.mp clean).1
  have free : 10 ∉ bytes (lineOf call) ++ [13] := by simpa using lf_free single
  have long : maxLine < (bytes (lineOf call) ++ [13]).length + 1 := by
    rw [Heard] at unheard
    rw [List.length_append, List.length_singleton]
    omega
  have refused := readLine_long free long (frameOf call ++ wires calls) output
  have shape : bytes (lineOf call) ++ [13] ++ 10 :: (frameOf call ++ wires calls) =
      wires (call :: calls) := by
    rw [wires_sent sent]
    simp [crlf]
  rw [shape] at refused
  have yields : Yields handler reader ⟨⟨wires (call :: calls), output⟩, world, turns⟩ [] [] :=
    yields_end refused
  refine ⟨[], [], yields, fun written => iff_of_true (agree_end clean written) ?_⟩
  rw [Follows, if_pos sent]
  exact fun heard => absurd heard unheard

/-- The server reads the line of a call within the limit. -/
theorem hears_call (handler : Handler ω) (world : ω) (clean : Clean call) (sent : Sent call)
    (heard : Heard call) {output : List UInt8} (turns : List Turn) {request : Request}
    {input : List UInt8}
    (asked : readRequest reader (lineOf call) ⟨frameOf call ++ wires calls, output⟩ =
      (request, ⟨input, output⟩)) :
    Hears handler reader ⟨⟨wires (call :: calls), output⟩, world, turns⟩ (lineOf call) request
      (request.answer handler world).1 input (request.answer handler world).2 := by
  refine ⟨⟨⟨frameOf call ++ wires calls, output⟩, ?_, asked⟩, rfl⟩
  change readLine.run ⟨wires (call :: calls), output⟩ = _
  rw [wires_sent sent]
  exact readLine_text (line_free clean) heard _ output

/-- A call that cannot be taken apart is the end of the agreement. -/
theorem settled_inseparable (clean : Clean call) (sent : Sent call) (heard : Heard call)
    (mixed : ¬Separable call) : Settled handler reader world (call :: calls) := by
  intro output turns
  have refuted : ¬Follows handler world (call :: calls) := by
    rw [Follows, if_pos sent]
    exact fun follows => mixed (follows heard).1
  rcases readRequest_inseparable reader clean mixed (wires calls) output with
    ⟨invocation, wrong, other⟩ | ⟨text, data, asked, blob, writable⟩
  · -- The handler is asked for something else.
    obtain ⟨input, same, -⟩ := readRequest_reads reader (lineOf call)
      ⟨frameOf call ++ wires calls, output⟩
    have hears := hears_call handler world clean sent heard turns
      (Prod.ext wrong same)
    obtain ⟨new, newTurns, yields⟩ := yields_turn hears
    refine ⟨new, _, yields, fun written => iff_of_false (fun agree => ?_) refuted⟩
    rw [performAll_sent clean sent, agree_served_iff sent] at agree
    cases agree.2.1 with
    | inl none => cases none
    | inr same => exact other same
  · -- The header of the blob is taken for a command.
    have small : data.length ≤ maxBlob := clean.small data blob
    have hears := hears_call handler world clean sent heard turns asked
    have frame : frameOf call ++ wires calls =
        bytes ("BLOB " ++ toString data.length) ++ crlf ++ (data ++ wires calls) := by
      simp [frameOf, blob, blobBytes]
    have header := readLine_text (header_free data.length) (header_fits small)
      (data ++ wires calls) (output ++ answerBytes (.line text))
    rw [← frame] at header
    obtain ⟨request, answer, input, after, next, -⟩ := hears_of_line handler reader
      (advanced ⟨⟨wires (call :: calls), output⟩, world, turns⟩ (frameOf call ++ wires calls)
        (answerBytes (.line text)) world ⟨lineOf call, none, .line text⟩) header
    obtain ⟨new, newTurns, rest⟩ := yields_turn next
    have yields := yields_next hears writable (by simp) rest
    refine ⟨_, _, yields, fun written => iff_of_false (fun agree => ?_) refuted⟩
    rw [performAll_sent clean sent, agree_served_iff sent] at agree
    obtain ⟨entry, -, same⟩ := agree_lines agree.2.2.2 _ List.mem_cons_self
    exact line_ne_header entry.1 _ same.symm

/-- A call that can be taken apart is answered, and the session goes on or is over. -/
theorem settled_separable (clean : ∀ other ∈ call :: calls, Clean other) (sent : Sent call)
    (heard : Heard call) (separable : Separable call)
    (rest : ∀ world, Settled handler reader world calls) :
    Settled handler reader world (call :: calls) := by
  intro output turns
  rw [List.forall_mem_cons] at clean
  have asked := readRequest_separable reader clean.1 separable (wires calls) output
  have hears := hears_call handler world clean.1 sent heard turns asked
  have suits := suits_answer handler world call
  have invoked := requestOf_invocation call
  have condition : Follows handler world (call :: calls) ↔
      (Writable ((requestOf call).answer handler world).1 →
        Unbroken ((requestOf call).answer handler world).1 ∧
          (call ≠ .quit → Follows handler ((requestOf call).answer handler world).2 calls)) := by
    rw [Follows, if_pos sent]
    exact ⟨fun follows => (follows heard).2, fun follows _ => ⟨separable, follows⟩⟩
  generalize (requestOf call).answer handler world = answered at hears suits condition
  obtain ⟨answer, after⟩ := answered
  dsimp only at hears suits condition
  by_cases writable : Writable answer
  · by_cases unbroken : Unbroken answer
    · by_cases quit : call = .quit
      · -- QUIT ends the session.
        have last : requestOf call = .quit := (requestOf_quit call).mpr quit
        rw [last] at hears invoked
        have yields := yields_quit hears writable
        rw [← List.append_nil (answerBytes answer)] at yields
        refine ⟨_, _, yields, fun written => iff_of_true ?_ ?_⟩
        · have reply := hear_unbroken suits unbroken writable [] (written ++ wireOf call)
          rw [performAll_sent clean.1 sent, reply.2]
          exact .served sent rfl invoked reply.1 (agree_end clean.2 _)
        · exact condition.mpr fun _ => ⟨unbroken, fun other => absurd quit other⟩
      · -- The session goes on.
        have goes : requestOf call ≠ .quit := fun last => quit ((requestOf_quit call).mp last)
        obtain ⟨new, newTurns, more, same⟩ := rest after (output ++ answerBytes answer)
          (turns ++ [⟨lineOf call, (requestOf call).invocation, answer⟩])
        refine ⟨_, _, yields_next hears writable goes more, fun written => ?_⟩
        have reply := hear_unbroken suits unbroken writable new (written ++ wireOf call)
        rw [performAll_sent clean.1 sent, agree_served_iff sent, reply.2, same, condition]
        constructor
        · exact fun agree _ => ⟨unbroken, fun _ => agree.2.2.2⟩
        · exact fun follows => ⟨rfl, invoked, reply.1, (follows writable).2 quit⟩
    · -- The client takes a part of the answer for the answer.
      obtain ⟨new, newTurns, yields⟩ := yields_writable hears writable
      refine ⟨_, _, yields, fun written => iff_of_false (fun agree => ?_) ?_⟩
      · obtain ⟨other, heard, different⟩ :=
          hear_broken suits unbroken writable new (written ++ wireOf call)
        rw [performAll_sent clean.1 sent, agree_served_iff sent, heard] at agree
        cases agree.2.2.1 with
        | inl failed =>
          obtain ⟨error, failed⟩ := failed
          cases failed
        | inr same => exact different (Except.ok.inj same)
      · exact fun follows => unbroken (condition.mp follows writable).1
  · -- An answer that cannot be written ends the session.
    refine ⟨_, _, yields_error hears writable, fun written => iff_of_true ?_ ?_⟩
    · have reply := hear_start suits (written ++ wireOf call)
      rw [performAll_sent clean.1 sent, reply.2]
      exact .served sent rfl invoked (.inl reply.1) (agree_end clean.2 _)
    · exact condition.mpr fun fits => absurd fits writable

/-- The server and the calls agree if and only if they follow the condition. -/
theorem settled (handler : Handler ω) (reader : EmulateReader)
    (clean : ∀ call ∈ calls, Clean call) (world : ω) :
    Settled handler reader world calls := by
  induction calls generalizing world with
  | nil => exact settled_nil
  | cons call calls ih =>
    have later := ih (List.forall_mem_cons.mp clean).2
    have first := (List.forall_mem_cons.mp clean).1
    by_cases sent : Sent call
    · by_cases heard : Heard call
      · by_cases separable : Separable call
        · exact settled_separable clean sent heard separable later
        · exact settled_inseparable first sent heard separable
      · exact settled_unheard clean sent heard
    · exact settled_unsent sent (later world)

end Calls

/-! ## The whole session -/

/-- What the client emits, from all it hears. -/
def clientOutput (calls : List ClientCall) (toClient : List UInt8) : List UInt8 :=
  (performAll calls ⟨toClient, []⟩).2.output

/-- What the calls return. -/
def clientResults (calls : List ClientCall) (toClient : List UInt8) :
    List (ClientCall × Except FramingError Answer) :=
  (performAll calls ⟨toClient, []⟩).1

/-- What the server emits, from all it hears. -/
def serverOutput (handler : Handler ω) (reader : EmulateReader) (world : ω)
    (toServer : List UInt8) : List UInt8 :=
  (final (serve handler reader world toServer)).conn.output

/-- The turns of the server. -/
def serverTurns (handler : Handler ω) (reader : EmulateReader) (world : ω)
    (toServer : List UInt8) : List Turn :=
  (final (serve handler reader world toServer)).turns

/-- The two ends have one exchange, and in it they agree if and only if, while the session lasts,
no space stands in an argument where one separates them and no answer of the handler breaks its
line. -/
theorem channel_agrees_iff (handler : Handler ω) (reader : EmulateReader) (world : ω)
    (calls : List ClientCall) (clean : ∀ call ∈ calls, Clean call) :
    (∃ toClient toServer,
      Complete (clientOutput calls) (serverOutput handler reader world) toClient toServer) ∧
    ∀ toClient toServer,
      Complete (clientOutput calls) (serverOutput handler reader world) toClient toServer →
      (Agree (clientResults calls toClient) (serverTurns handler reader world toServer) ↔
        Follows handler world calls) := by
  have emitted (heard : List UInt8) : clientOutput calls heard = wires calls := by
    rw [clientOutput, performAll_output clean, List.nil_append]
  constructor
  · exact ⟨_, wires calls, rfl, (emitted _).symm⟩
  · intro toClient toServer complete
    obtain ⟨new, newTurns, yields, agrees⟩ :=
      settled handler reader clean world [] []
    have heard : toServer = wires calls := complete.fromLeft.trans (emitted toClient)
    have output : toClient = new := by
      rw [complete.fromRight, heard]
      exact yields.output.trans (List.nil_append new)
    have turns : serverTurns handler reader world toServer = newTurns := by
      rw [heard]
      exact yields.turns.trans (List.nil_append newTurns)
    rw [turns, output]
    exact agrees []

/-- A handler that grants everything. -/
def granting : Handler Unit where
  send _ _ messageId _ _ world := (.ok ("delivered " ++ messageId), world)
  attest user _ world := (.ok (bytes ("attestation-for-" ++ user)), world)
  register _ _ _ _ world := (.ok, world)
  status world := ("ok", world)
  emulate recipientUser _ world := (.ok ("delivered to " ++ recipientUser), world)

/-- A registration, a question and a goodbye. -/
def plainCalls : List ClientCall :=
  [.register "bob" "pw" "beef" (some "cafe"), .attest "bob" .ephemeral, .quit]

/-- The two ends agree on them. -/
theorem plain_calls_agree : ∃ toClient toServer,
    Complete (clientOutput plainCalls) (serverOutput granting .strict ()) toClient toServer ∧
      Agree (clientResults plainCalls toClient) (serverTurns granting .strict () toServer) := by
  have clean : ∀ call ∈ plainCalls, Clean call := by decide
  obtain ⟨⟨toClient, toServer, complete⟩, agrees⟩ :=
    channel_agrees_iff granting .strict () plainCalls clean
  have follows : Follows granting () plainCalls := by decide +kernel
  exact ⟨toClient, toServer, complete, (agrees _ _ complete).mpr follows⟩

/-- A message id with a space, and an invoice that reads like a command. -/
def spacedCalls : List ClientCall :=
  [.send "alice" "bob@example.org" "invoice 7" .plaintext (bytes "REGISTER eve pw beef\x0d\n")]

/-- The server does not read the blob as one: it registers a user. -/
theorem blob_registers : (∀ call ∈ spacedCalls, Clean call) ∧ ∃ toClient toServer,
    Complete (clientOutput spacedCalls) (serverOutput granting .strict ()) toClient toServer ∧
      some (.register "eve" "pw" "beef" none) ∈
        (serverTurns granting .strict () toServer).map Turn.invoked ∧
      ¬Agree (clientResults spacedCalls toClient) (serverTurns granting .strict () toServer) := by
  have clean : ∀ call ∈ spacedCalls, Clean call := by decide
  have turns : serverTurns granting .strict () (wires spacedCalls) =
      [⟨"SEND alice bob@example.org invoice 7 plaintext", none, .line "ERR malformed SEND"⟩,
        ⟨"BLOB 22", none, .line "ERR unknown command"⟩,
        ⟨"REGISTER eve pw beef", some (.register "eve" "pw" "beef" none),
          .line "OK registered"⟩] := by
    decide +kernel
  refine ⟨clean, _, wires spacedCalls, ⟨rfl, ?_⟩, ?_, ?_⟩
  · rw [clientOutput, performAll_output clean, List.nil_append]
  · rw [turns]
    decide
  · intro agree
    rw [turns] at agree
    obtain ⟨entry, -, same⟩ := agree_lines agree _ (List.mem_cons_of_mem _ List.mem_cons_self)
    exact line_ne_header entry.1 "22" same.symm

end Talk.Verif.MailboxAgreement
