import Talk.Lib.Loop
import Talk.Protocol.Session

/-!
# The session loop

The loop runs on fuel in the model. Each turn that goes on consumes at least one byte, so the
fuel is never what stops it: `serve` is the loop, and it is unfolded one turn at a time by its
own equations.
-/

namespace Talk.Verif.SessionLoop

open Protocol ByteStream

variable {crypto : Crypto} {ω : Type}

/-! ## Operations on the stream -/

/-- A framing operation that succeeds changes only the stream. -/
theorem onConn_ok {α : Type} {action : EStateM FramingError Conn α} (running : Running crypto ω)
    {value : α} {conn : Conn} (done : action.run running.conn = .ok value conn) :
    (onConn action).run running = .ok value { running with conn := conn } := by
  simp only [onConn, EStateM.run] at done ⊢
  rw [done]

/-- A framing operation that fails changes only the stream. -/
theorem onConn_error {α : Type} {action : EStateM FramingError Conn α} (running : Running crypto ω)
    {error : FramingError} {conn : Conn} (failed : action.run running.conn = .error error conn) :
    (onConn action).run running = .error error { running with conn := conn } := by
  simp only [onConn, EStateM.run] at failed ⊢
  rw [failed]

/-- A framing operation that returns does so on the stream alone. -/
theorem onConn_ok_iff {α : Type} {action : EStateM FramingError Conn α}
    {running after : Running crypto ω} {value : α} :
    (onConn action).run running = .ok value after ↔
      ∃ conn, action.run running.conn = .ok value conn ∧
        after = { running with conn := conn } := by
  simp only [onConn, EStateM.run]
  cases action running.conn <;> simp [eq_comm]

/-- The next line is the line that is read. -/
theorem nextLine_some_iff {conn after : Conn} {line : String} :
    nextLine.run conn = .ok (some line) after ↔ readLine.run conn = .ok line after := by
  simp only [nextLine, EStateM.run]
  cases readLine conn with
  | ok found rest => simp
  | error error rest => cases error <;> simp

/-- The end of the stream ends the lines. -/
theorem nextLine_end {conn after : Conn} {message : String}
    (ended : readLine.run conn = .error (.protocol message) after) :
    nextLine.run conn = .ok none after := by
  simp only [nextLine, EStateM.run] at ended ⊢
  rw [ended]

/-- A framing operation goes forward on the session's stream. -/
theorem forward_onConn {α : Type} {action : EStateM FramingError Conn α}
    (forward : Forward id action) :
    Forward Running.conn (onConn action : EStateM FramingError (Running crypto ω) α) := by
  intro running
  have step := forward running.conn
  cases done : action.run running.conn with
  | ok value conn =>
    rw [done] at step
    rw [onConn_ok running done]
    exact step
  | error error conn =>
    rw [done] at step
    rw [onConn_error running done]
    exact step

/-- Looking for the next line goes forward. -/
theorem forward_nextLine : Forward id nextLine := by
  intro conn
  have step := forward_readLine conn
  unfold nextLine
  simp only [EStateM.run] at step ⊢
  cases done : readLine conn with
  | ok line after =>
    rw [done] at step
    exact step
  | error error after =>
    rw [done] at step
    cases error <;> exact step

/-- Reading the rest of a command goes forward. -/
theorem forward_readCommand (line : String) : Forward id (readCommand line) := by
  unfold readCommand
  split
  · exact forward_pure _
  · exact forward_bind forward_readBlob fun _ => forward_pure _
  · exact forward_pure _

/-- Writing a reply goes forward. -/
theorem forward_writeReply (reply : Reply) : Forward id (writeReply reply) := by
  cases reply with
  | status status => exact forward_writeLine _
  | statusWithBlob status blob =>
    exact forward_bind (forward_writeLine _) fun _ => forward_writeBlob blob

/-- Handling a command goes forward. -/
theorem forward_answer (command : Command) :
    Forward Running.conn (answer command : EStateM FramingError (Running crypto ω) Unit) := by
  intro running
  exact forward_onConn (forward_writeReply _) _

/-- Answering a line goes forward. -/
theorem forward_dispatch (line : String) :
    Forward Running.conn (dispatch line : EStateM FramingError (Running crypto ω) Bool) := by
  refine forward_bind (forward_onConn (forward_readCommand line)) fun command => ?_
  cases command with
  | none => exact forward_bind (forward_onConn (forward_writeReply _)) fun _ => forward_pure _
  | some command => exact forward_bind (forward_answer command) fun _ => forward_pure _

/-- A turn goes forward. -/
theorem forward_turn :
    Forward Running.conn (turn : EStateM FramingError (Running crypto ω) Bool) := by
  refine forward_bind (forward_onConn forward_nextLine) fun line => ?_
  cases line with
  | none => exact forward_pure _
  | some line => exact forward_bind (forward_modify fun _ => rfl) fun _ => forward_dispatch line

/-- The loop goes forward. -/
theorem forward_loop (fuel : Nat) :
    Forward Running.conn (loop fuel : EStateM FramingError (Running crypto ω) Unit) := by
  induction fuel with
  | zero => exact forward_pure _
  | succ fuel ih =>
    refine forward_bind forward_turn fun goesOn => ?_
    cases goesOn with
    | false => exact forward_pure _
    | true => exact ih

/-! ## The fuel -/

/-- A turn that goes on consumes at least one byte. -/
theorem turn_consumes {running after : Running crypto ω}
    (done : turn.run running = .ok true after) :
    after.conn.input.length < running.conn.input.length := by
  obtain ⟨line, middle, next, rest⟩ := run_bind_ok.mp done
  cases line with
  | none => cases rest
  | some line =>
    obtain ⟨conn, heard, rfl⟩ := onConn_ok_iff.mp next
    have consumed : conn.input.length < running.conn.input.length :=
      readLine_consumes (nextLine_some_iff.mp heard)
    obtain ⟨_, noted, note, answered⟩ := run_bind_ok.mp rest
    obtain ⟨-, rfl⟩ := EStateM.Result.ok.inj note
    have onwards := input_le_of_forward (forward_dispatch line) answered
    exact lt_of_le_of_lt onwards consumed

/-- The loop repeats its turn. -/
theorem loop_eq (fuel : Nat) :
    (loop fuel : EStateM FramingError (Running crypto ω) Unit) = Loop.repeatWhile turn fuel := by
  induction fuel with
  | zero => rfl
  | succ fuel ih =>
    rw [loop, Loop.repeatWhile]
    refine congrArg (turn >>= ·) (funext fun goesOn => ?_)
    cases goesOn with
    | false => rfl
    | true => exact ih

/-- The loop from a state, with the fuel it needs. -/
def serve (running : Running crypto ω) : EStateM.Result FramingError (Running crypto ω) Unit :=
  (loop (running.conn.input.length + 1)).run running

/-- The loop reads its input to the end. -/
theorem serve_eq (running : Running crypto ω) :
    serve running = Loop.drain (fun running => running.conn.input.length) turn running := by
  rw [serve, loop_eq, Loop.drain]

/-- A turn that goes on is followed by the loop. -/
theorem serve_turn {running after : Running crypto ω} (done : turn.run running = .ok true after) :
    serve running = serve after := by
  rw [serve_eq, serve_eq]
  exact Loop.drain_turn (fun _ _ => turn_consumes) done

/-- A turn that does not go on ends the loop. -/
theorem serve_stop {running after : Running crypto ω} (done : turn.run running = .ok false after) :
    serve running = .ok () after := by
  rw [serve_eq]
  exact Loop.drain_stop done

/-- A turn that fails ends the loop. -/
theorem serve_error {running after : Running crypto ω} {error : FramingError}
    (failed : turn.run running = .error error after) : serve running = .error error after := by
  rw [serve_eq]
  exact Loop.drain_error failed

/-- The loop only appends to the output. -/
theorem serve_output (running : Running crypto ω) :
    running.conn.output <+: (final (serve running)).conn.output :=
  (forward_loop _ running).2

/-- A session that can greet writes its greeting and enters the loop. -/
theorem run_greeting (running : Running crypto ω)
    (fits : (Utf8.bytes running.session.greeting).length ≤ maxLine) :
    run.run running = serve { running with
      conn := running.conn.write (Utf8.bytes running.session.greeting ++ crlf) } := by
  have greeted := onConn_ok running (writeLine_fits fits running.conn)
  simp only [run, EStateM.run_bind, EStateM.run_get, greeted]
  rfl

/-! ## One turn -/

/-- The bytes of a reply. -/
def replyBytes : Reply → List UInt8
  | .status status => Utf8.bytes status.render ++ crlf
  | .statusWithBlob status blob => Utf8.bytes status.render ++ crlf ++ blobBytes blob

/-- The content of a reply's blob. -/
def replyBlob : Reply → List UInt8
  | .status _ => []
  | .statusWithBlob _ blob => blob

/-- A reply the framing can write. -/
def Writable (reply : Reply) : Prop :=
  (Utf8.bytes reply.line.render).length ≤ maxLine ∧ (replyBlob reply).length ≤ maxBlob

instance : DecidablePred Writable := fun _ => inferInstanceAs (Decidable (_ ∧ _))

/-- A writable reply is written. -/
theorem writeReply_ok {reply : Reply} (writable : Writable reply) (conn : Conn) :
    (writeReply reply).run conn = .ok () (conn.write (replyBytes reply)) := by
  cases reply with
  | status status => exact writeLine_fits writable.1 conn
  | statusWithBlob status blob =>
    obtain ⟨line, small⟩ := writable
    change (Utf8.bytes status.render).length ≤ maxLine at line
    change blob.length ≤ maxBlob at small
    simp only [writeReply, EStateM.run_bind, writeLine_fits line, writeBlob_fits small,
      replyBytes, Conn.write, List.append_assoc]

/-- What a turn does once its line is read. -/
theorem turn_line {running : Running crypto ω} {line : String} {conn : Conn}
    (read : readLine.run running.conn = .ok line conn) :
    turn.run running =
      (dispatch line).run { running with conn := conn, lines := running.lines ++ [line] } := by
  have heard := onConn_ok running (nextLine_some_iff.mpr read)
  simp only [turn, EStateM.run_bind, heard, EStateM.run_modify]

/-- A running session at a place of its stream. -/
def placed (state : ZsmptSession crypto ω × Outer ω) (input output : List UInt8)
    (lines : List String) : Running crypto ω :=
  ⟨⟨input, output⟩, state.1, state.2, lines⟩

/-- A turn whose line does not decode is answered with a syntax error. -/
theorem turn_unknown (running : Running crypto ω) {line : String} {conn : Conn}
    {error : CodecError} (read : readLine.run running.conn = .ok line conn)
    (unknown : decodeLine line = .error error) :
    turn.run running = .ok true { running with
      conn := conn.write (replyBytes unknownCommand), lines := running.lines ++ [line] } := by
  have command : (readCommand line).run conn = .ok none conn := by
    simp only [readCommand, unknown, EStateM.run_pure]
  have writable : Writable unknownCommand := by decide
  rw [turn_line read]
  simp only [dispatch, EStateM.run_bind,
    onConn_ok { running with conn := conn, lines := _ } command,
    onConn_ok { running with conn := conn, lines := _ } (writeReply_ok writable conn),
    EStateM.run_pure]

/-- A turn whose command is read and whose reply can be written. -/
theorem turn_command (running : Running crypto ω) {line : String} {conn behind : Conn}
    {command : Command} (read : readLine.run running.conn = .ok line conn)
    (decoded : (readCommand line).run conn = .ok (some command) behind)
    (writable : Writable (replyOf (running.session.handle command running.outer).result)) :
    turn.run running = .ok (decide (command ≠ .quit))
      { conn := behind.write
          (replyBytes (replyOf (running.session.handle command running.outer).result))
        session := (running.session.handle command running.outer).session
        outer := (running.session.handle command running.outer).outer
        lines := running.lines ++ [line] } := by
  have handled : (answer command).run
      { running with conn := behind, lines := running.lines ++ [line] } = .ok ()
        { conn := behind.write
            (replyBytes (replyOf (running.session.handle command running.outer).result))
          session := (running.session.handle command running.outer).session
          outer := (running.session.handle command running.outer).outer
          lines := running.lines ++ [line] } := by
    simp only [answer, EStateM.run_bind, EStateM.run_get, EStateM.run_set]
    exact onConn_ok _ (writeReply_ok writable behind)
  rw [turn_line read]
  simp only [dispatch, EStateM.run_bind,
    onConn_ok { running with conn := conn, lines := _ } decoded,
    handled, EStateM.run_pure]

/-- The loop over one line that carries no blob. -/
theorem serve_line {session next : ZsmptSession crypto ω} {outer beyond : Outer ω} {text : String}
    (free : '\n' ∉ text.toList) (fits : (Utf8.bytes text).length + 2 ≤ maxLine)
    {command : Command} (decoded : decodeLine text = .ok command)
    (plain : command.isInvoice = false) (goesOn : command ≠ .quit) {reply : Reply}
    (handled : session.handle command outer = ⟨.ok reply, next, beyond⟩)
    (writable : Writable reply) (rest output : List UInt8) (lines : List String) :
    serve (placed (session, outer) (Utf8.bytes text ++ crlf ++ rest) output lines) =
      serve (placed (next, beyond) rest (output ++ replyBytes reply) (lines ++ [text])) := by
  have whole : (readCommand text).run ⟨rest, output⟩ = .ok (some command) ⟨rest, output⟩ := by
    cases command with
    | invoice => cases plain
    | _ => simp only [readCommand, decoded, EStateM.run_pure]
  have done := turn_command
    (placed (session, outer) (Utf8.bytes text ++ crlf ++ rest) output lines)
    (readLine_text free fits rest output) whole (by
      change Writable (replyOf (session.handle command outer).result)
      rw [handled]
      exact writable)
  rw [decide_eq_true goesOn] at done
  rw [serve_turn done]
  simp only [placed, handled, replyOf, Conn.write]

/-- The loop over an INVOICE line and its blob. -/
theorem serve_invoice {session next : ZsmptSession crypto ω} {outer beyond : Outer ω}
    {text sender messageId : String} {payload : Payload} {body : List UInt8}
    (free : '\n' ∉ text.toList) (fits : (Utf8.bytes text).length + 2 ≤ maxLine)
    (decoded : decodeLine text = .ok (.invoice sender messageId payload []))
    (small : body.length ≤ maxBlob) {reply : Reply}
    (handled : session.handle (.invoice sender messageId payload body) outer =
      ⟨.ok reply, next, beyond⟩)
    (writable : Writable reply) (rest output : List UInt8) (lines : List String) :
    serve (placed (session, outer) (Utf8.bytes text ++ crlf ++ (blobBytes body ++ rest)) output
        lines) =
      serve (placed (next, beyond) rest (output ++ replyBytes reply) (lines ++ [text])) := by
  have whole : (readCommand text).run ⟨blobBytes body ++ rest, output⟩ =
      .ok (some (.invoice sender messageId payload body)) ⟨rest, output⟩ := by
    simp only [readCommand, decoded, EStateM.run_bind, readBlob_data small, EStateM.run_pure]
  have done := turn_command
    (placed (session, outer) (Utf8.bytes text ++ crlf ++ (blobBytes body ++ rest)) output lines)
    (readLine_text free fits (blobBytes body ++ rest) output) whole (by
      change Writable (replyOf (session.handle (.invoice sender messageId payload body)
        outer).result)
      rw [handled]
      exact writable)
  rw [decide_eq_true (by simp)] at done
  rw [serve_turn done]
  simp only [placed, handled, replyOf, Conn.write]

/-- The loop ends at the end of the stream. -/
theorem serve_end {state : ZsmptSession crypto ω × Outer ω} {input : List UInt8}
    (free : 10 ∉ input) (short : input.length ≤ maxLine) (output : List UInt8)
    (lines : List String) :
    serve (placed state input output lines) = .ok () (placed state [] output lines) := by
  obtain ⟨message, ended⟩ := readLine_truncated free short output
  refine serve_stop ?_
  have heard := onConn_ok (placed state input output lines) (nextLine_end ended)
  simp only [turn, EStateM.run_bind, heard, EStateM.run_pure]
  rfl

end Talk.Verif.SessionLoop
