import Talk.Protocol.Codec
import Talk.Protocol.Mailbox

/-!
# One call over the local mailbox channel

What a call of the client puts on the wire, which it does before it listens, and what it then makes
of an answer; how the server writes an answer; and what it makes of the line and the blob of a call.
Only lines whose arguments hold no space where one separates them are understood.
-/

namespace Talk.Verif.MailboxSteps

open Protocol.Mailbox ByteStream Text
open Protocol (AttestationMode FramingError maxLine maxBlob crlf blobBytes readLine readBlob
  writeLine writeBlob readLine_text readLine_long readLine_broken readLine_truncated readBlob_data
  writeLine_fits writeLine_long writeBlob_fits writeBlob_large reads_readLine reads_readBlob
  withInput_withInput lf_free splitn_word splitn_one splitn_free)
open Utf8 (bytes)

variable {ω : Type}

/-! ## A call on the wire -/

/-- The line of a call. -/
def lineOf : ClientCall → String
  | .send sender recipient messageId payload _ => sendLine sender recipient messageId payload
  | .register username password pubkeyHex ivkHex =>
    registerLine username password pubkeyHex ivkHex
  | .attest user mode => attestLine user mode
  | .emulate recipientUser _ => emulateLine recipientUser
  | .status => "STATUS"
  | .quit => "QUIT"

/-- The blob of a call. -/
def blobOf : ClientCall → Option (List UInt8)
  | .send _ _ _ _ body => some body
  | .emulate _ payload => some (bytes payload.toJson)
  | _ => none

/-- The blob as it stands on the wire. -/
def frameOf (call : ClientCall) : List UInt8 := ((blobOf call).map blobBytes).getD []

/-- A call whose line the writer takes. -/
def Sent (call : ClientCall) : Prop := (bytes (lineOf call)).length ≤ maxLine

instance : DecidablePred Sent := fun call => Nat.decLe (bytes (lineOf call)).length maxLine

/-- What a call writes. -/
def wireOf (call : ClientCall) : List UInt8 :=
  if Sent call then bytes (lineOf call) ++ crlf ++ frameOf call else []

/-- What calls write. -/
def wires (calls : List ClientCall) : List UInt8 := calls.flatMap wireOf

/-- The arguments of a call that stand in its line. -/
def argumentsOf : ClientCall → List String
  | .send sender recipient messageId _ _ => [sender, recipient, messageId]
  | .register username password pubkeyHex ivkHex =>
    [username, password, pubkeyHex] ++ ivkHex.toList
  | .attest user _ => [user]
  | .emulate recipientUser _ => [recipientUser]
  | .status => []
  | .quit => []

/-- A call with arguments that do not break its line and a body within the limit. The body of
EMULATE is the JSON blob it is sent as, so its limit is on that blob. -/
structure Clean (call : ClientCall) : Prop where
  /-- The arguments hold no LF. -/
  free : ∀ text ∈ argumentsOf call, '\n' ∉ text.toList
  /-- The body is within the limit. -/
  small : ∀ blob ∈ blobOf call, blob.length ≤ maxBlob

instance : DecidablePred Clean := fun call =>
  decidable_of_iff ((∀ text ∈ argumentsOf call, '\n' ∉ text.toList) ∧
      ∀ blob ∈ blobOf call, blob.length ≤ maxBlob)
    ⟨fun both => ⟨both.1, both.2⟩, fun clean => ⟨clean.free, clean.small⟩⟩

/-- The line of a clean call holds no LF. -/
theorem line_free {call : ClientCall} (clean : Clean call) : '\n' ∉ (lineOf call).toList := by
  have free := clean.free
  have space : '\n' ∉ " ".toList := by decide
  cases call with
  | send sender recipient messageId payload body =>
    have verb : '\n' ∉ "SEND ".toList := by decide
    have word : '\n' ∉ payload.word.toList := by cases payload <;> decide
    simp only [argumentsOf, List.forall_mem_cons] at free
    simp only [lineOf, sendLine, String.toList_append, List.mem_append, free, space, verb, word,
      or_self, not_false_eq_true]
  | register username password pubkeyHex ivkHex =>
    have verb : '\n' ∉ "REGISTER ".toList := by decide
    cases ivkHex with
    | none =>
      have nothing : '\n' ∉ "".toList := by decide
      simp only [argumentsOf, Option.toList_none, List.append_nil, List.forall_mem_cons] at free
      simp only [lineOf, registerLine, Option.map_none, Option.getD_none, String.toList_append,
        List.mem_append, free, space, verb, nothing, or_self, not_false_eq_true]
    | some ivk =>
      simp only [argumentsOf, Option.toList_some, List.cons_append, List.nil_append,
        List.forall_mem_cons] at free
      simp only [lineOf, registerLine, Option.map_some, Option.getD_some, String.toList_append,
        List.mem_append, free, space, verb, or_self, not_false_eq_true]
  | attest user mode =>
    have verb : '\n' ∉ "ATTEST ".toList := by decide
    have word : '\n' ∉ mode.word.toList := by cases mode <;> decide
    simp only [argumentsOf, List.forall_mem_cons] at free
    simp only [lineOf, attestLine, String.toList_append, List.mem_append, free, space, verb, word,
      or_self, not_false_eq_true]
  | emulate recipientUser payload =>
    have verb : '\n' ∉ "EMULATE ".toList := by decide
    simp only [argumentsOf, List.forall_mem_cons] at free
    simp only [lineOf, emulateLine, String.toList_append, List.mem_append, free, verb, or_self,
      not_false_eq_true]
  | status => decide
  | quit => decide

/-! ## The client's end of a call -/

/-- No call has the line of a blob header. -/
theorem line_ne_header (call : ClientCall) (size : String) : lineOf call ≠ "BLOB " ++ size := by
  intro same
  have first := congrArg (fun line => line.toList.head?) same
  cases call <;>
    simp [lineOf, sendLine, registerLine, attestLine, emulateLine] at first

/-- The part of a call that listens. -/
def hear : ClientCall → EStateM FramingError Conn Answer
  | .attest _ _ => do
    let line ← readLine
    if startsWith line "OK " then
      let blob ← readBlob
      pure (.attestation blob)
    else pure (.line line)
  | _ => do
    let line ← readLine
    pure (.line line)

/-- Write a blob, if there is one. -/
def writeFrame : Option (List UInt8) → EStateM FramingError Conn Unit
  | none => pure ()
  | some blob => writeBlob blob

/-- A call writes its line and its blob, and then it listens. -/
theorem perform_eq (call : ClientCall) : call.perform = (do
    writeLine (lineOf call)
    writeFrame (blobOf call)
    hear call) := by
  have reply (line : String) : (attestReply <$> (if startsWith line "OK " then do
        let blob ← readBlob
        pure (.ok blob)
      else pure (.error line)) : EStateM FramingError Conn Answer) =
      if startsWith line "OK " then do
        let blob ← readBlob
        pure (.attestation blob)
      else pure (.line line) := by
    by_cases granted : startsWith line "OK " = true
    · simp [granted, attestReply]
    · simp [granted, attestReply]
  cases call with
  | attest user mode =>
    simp only [ClientCall.perform, SecureMailboxClient.attest, map_bind, reply, lineOf, blobOf,
      writeFrame, hear, pure_bind]
  | send => simp [ClientCall.perform, SecureMailboxClient.send, lineOf, blobOf, writeFrame, hear]
  | register =>
    simp [ClientCall.perform, SecureMailboxClient.register, lineOf, blobOf, writeFrame, hear]
  | emulate =>
    simp [ClientCall.perform, SecureMailboxClient.emulate, lineOf, blobOf, writeFrame, hear]
  | status =>
    simp [ClientCall.perform, SecureMailboxClient.status, lineOf, blobOf, writeFrame, hear]
  | quit =>
    simp [ClientCall.perform, SecureMailboxClient.quit, lineOf, blobOf, writeFrame, hear]

/-- A call that is sent has written everything before it listens. -/
theorem perform_sent {call : ClientCall} (clean : Clean call) (sent : Sent call) (conn : Conn) :
    call.perform.run conn = (hear call).run (conn.write (wireOf call)) := by
  have written : (writeFrame (blobOf call)).run (conn.write (bytes (lineOf call) ++ crlf)) =
      .ok () (conn.write (wireOf call)) := by
    cases blob : blobOf call with
    | none => simp [writeFrame, wireOf, sent, frameOf, blob]
    | some data =>
      have small : data.length ≤ maxBlob := clean.small data blob
      rw [writeFrame, writeBlob_fits small]
      simp [Conn.write, wireOf, sent, frameOf, blob]
  rw [perform_eq, run_bind_of_ok (writeLine_fits sent conn), run_bind_of_ok written]

/-- A call above the writer's limit is not sent. -/
theorem perform_unsent {call : ClientCall} (long : ¬Sent call) (conn : Conn) :
    call.perform.run conn = .error (.lineTooLong maxLine) conn := by
  rw [perform_eq]
  exact run_bind_of_error (writeLine_long (Nat.lt_of_not_le long) conn)

/-- Listening writes nothing. -/
theorem reads_hear (call : ClientCall) : Reads Conn.withInput (hear call) := by
  have same (conn : Conn) : ∃ input, conn = conn.withInput input := ⟨conn.input, rfl⟩
  have plain : Reads Conn.withInput (do
      let line ← readLine
      pure (Answer.line line) : EStateM FramingError Conn Answer) :=
    reads_bind withInput_withInput reads_readLine fun _ => reads_pure same _
  cases call with
  | attest user mode =>
    refine reads_bind withInput_withInput reads_readLine fun line => ?_
    split
    · exact reads_bind withInput_withInput reads_readBlob fun _ => reads_pure same _
    · exact reads_pure same _
  | send => exact plain
  | register => exact plain
  | emulate => exact plain
  | status => exact plain
  | quit => exact plain

/-- Listening leaves the output. -/
theorem hear_output (call : ClientCall) (conn : Conn) :
    (final ((hear call).run conn)).output = conn.output := by
  obtain ⟨input, same⟩ := reads_hear call conn
  rw [same, Conn.withInput]

/-- What a call returns. -/
def outcome : EStateM.Result FramingError Conn Answer → Except FramingError Answer
  | .ok answer _ => .ok answer
  | .error error _ => .error error

/-- The first of several calls returns, and the others are made from there. -/
theorem performAll_cons (call : ClientCall) (calls : List ClientCall) (conn : Conn) :
    performAll (call :: calls) conn =
      ((call, outcome (call.perform.run conn)) ::
          (performAll calls (final (call.perform.run conn))).1,
        (performAll calls (final (call.perform.run conn))).2) := by
  rw [performAll]
  cases call.perform.run conn <;> rfl

/-- What the client writes does not depend on what it hears. -/
theorem performAll_output {calls : List ClientCall} (clean : ∀ call ∈ calls, Clean call)
    (conn : Conn) : (performAll calls conn).2.output = conn.output ++ wires calls := by
  induction calls generalizing conn with
  | nil => simp [performAll, wires]
  | cons call calls ih =>
    rw [List.forall_mem_cons] at clean
    have first : (final (call.perform.run conn)).output = conn.output ++ wireOf call := by
      by_cases sent : Sent call
      · rw [perform_sent clean.1 sent, hear_output, Conn.write_output]
      · simp [perform_unsent sent, wireOf, sent]
    rw [performAll_cons]
    simp only [ih clean.2, first, wires, List.flatMap_cons, List.append_assoc]

/-- A call that returns no reply. -/
def Failed (result : Except FramingError Answer) : Prop := ∃ error, result = .error error

/-- Nothing is heard on a stream that has ended. -/
theorem hear_end (call : ClientCall) (output : List UInt8) :
    Failed (outcome ((hear call).run ⟨[], output⟩)) ∧
      final ((hear call).run ⟨[], output⟩) = ⟨[], output⟩ := by
  obtain ⟨message, ended⟩ :=
    readLine_truncated (List.not_mem_nil (a := 10)) (Nat.zero_le _) output
  have failed : (hear call).run ⟨[], output⟩ = .error (.protocol message) ⟨[], output⟩ := by
    cases call <;> exact run_bind_of_error ended
  rw [failed]
  exact ⟨⟨_, rfl⟩, rfl⟩

/-! ## Answers on the wire -/

/-- The bytes of an answer. -/
def answerBytes : Answer → List UInt8
  | .line text => bytes text ++ crlf
  | .attestation blob => bytes "OK attestation" ++ crlf ++ blobBytes blob

/-- An answer that the framing can write. -/
def Writable : Answer → Prop
  | .line text => (bytes text).length ≤ maxLine
  | .attestation blob => blob.length ≤ maxBlob

instance : DecidablePred Writable
  | .line text => Nat.decLe (bytes text).length maxLine
  | .attestation blob => Nat.decLe blob.length maxBlob

/-- An answer that is one line. -/
def Unbroken : Answer → Prop
  | .line text => '\n' ∉ text.toList
  | .attestation _ => True

instance : DecidablePred Unbroken
  | .line _ => inferInstanceAs (Decidable (¬_))
  | .attestation _ => inferInstanceAs (Decidable True)

/-- An answer the server can give to a call: an attestation is for ATTEST, whose other answers are
errors. -/
def Suits (call : ClientCall) : Answer → Prop
  | .line text => (∀ user mode, call = .attest user mode → ∃ tail, text = "ERR " ++ tail) ∧
      ('\n' ∈ text.toList → ∃ start tail, text = start ++ tail ∧ (start = "OK " ∨ start = "ERR "))
  | .attestation _ => ∃ user mode, call = .attest user mode

/-- A writable answer is written. -/
theorem writeAnswer_ok {answer : Answer} (writable : Writable answer) (conn : Conn) :
    (writeAnswer answer).run conn = .ok () (conn.write (answerBytes answer)) := by
  cases answer with
  | line text => exact writeLine_fits writable conn
  | attestation blob =>
    have fits : (bytes "OK attestation").length ≤ maxLine := by decide
    rw [writeAnswer, run_bind_of_ok (writeLine_fits fits conn), writeBlob_fits writable]
    simp [Conn.write, answerBytes]

/-- What is written of an answer that is not writable. -/
def startBytes : Answer → List UInt8
  | .line _ => []
  | .attestation _ => bytes "OK attestation" ++ crlf

/-- Of an answer that is not writable at most the first line is written. -/
theorem writeAnswer_error {answer : Answer} (large : ¬Writable answer) (conn : Conn) :
    ∃ error, (writeAnswer answer).run conn = .error error (conn.write (startBytes answer)) := by
  cases answer with
  | line text =>
    have same : conn.write (startBytes (.line text)) = conn := by simp [Conn.write, startBytes]
    rw [same]
    exact ⟨_, writeLine_long (Nat.lt_of_not_le large) conn⟩
  | attestation blob =>
    have fits : (bytes "OK attestation").length ≤ maxLine := by decide
    rw [writeAnswer, run_bind_of_ok (writeLine_fits fits conn),
      writeBlob_large (Nat.lt_of_not_le large)]
    exact ⟨_, rfl⟩

/-! ## The client reads an answer -/

/-- A line of an attestation fits. -/
theorem readLine_attestation (rest output : List UInt8) :
    readLine.run ⟨bytes "OK attestation" ++ crlf ++ rest, output⟩ =
      .ok "OK attestation" ⟨rest, output⟩ :=
  readLine_text (by decide) (by decide) rest output

/-- A line is the reply of every call but ATTEST, and of ATTEST when it does not grant. -/
theorem hear_line {call : ClientCall} {conn after : Conn} {line : String}
    (plain : ∀ user mode, call = .attest user mode → ¬startsWith line "OK " = true)
    (read : readLine.run conn = .ok line after) :
    (hear call).run conn = .ok (.line line) after := by
  cases call with
  | attest user mode =>
    refine (run_bind_of_ok read).trans ?_
    rw [if_neg (plain user mode rfl), EStateM.run_pure]
  | send => exact run_bind_of_ok read
  | register => exact run_bind_of_ok read
  | emulate => exact run_bind_of_ok read
  | status => exact run_bind_of_ok read
  | quit => exact run_bind_of_ok read

/-- An unbroken answer is taken from the stream as a whole; the client returns it, or it returns an
error. -/
theorem hear_unbroken {call : ClientCall} {answer : Answer} (suits : Suits call answer)
    (unbroken : Unbroken answer) (writable : Writable answer) (rest output : List UInt8) :
    (Failed (outcome ((hear call).run ⟨answerBytes answer ++ rest, output⟩)) ∨
        outcome ((hear call).run ⟨answerBytes answer ++ rest, output⟩) = .ok answer) ∧
      final ((hear call).run ⟨answerBytes answer ++ rest, output⟩) = ⟨rest, output⟩ := by
  cases answer with
  | attestation blob =>
    obtain ⟨user, mode, rfl⟩ := suits
    have line := readLine_attestation (blobBytes blob ++ rest) output
    have heard : (hear (.attest user mode)).run ⟨answerBytes (.attestation blob) ++ rest, output⟩ =
        .ok (.attestation blob) ⟨rest, output⟩ := by
      rw [answerBytes, List.append_assoc]
      refine (run_bind_of_ok line).trans ?_
      rw [if_pos (by decide)]
      exact run_bind_of_ok (readBlob_data writable rest output)
    rw [heard]
    exact ⟨.inr rfl, rfl⟩
  | line text =>
    by_cases fits : (bytes text).length + 2 ≤ maxLine
    · have line := readLine_text unbroken fits rest output
      have heard : (hear call).run ⟨answerBytes (.line text) ++ rest, output⟩ =
          .ok (.line text) ⟨rest, output⟩ := by
        refine hear_line (fun user mode same => ?_) line
        obtain ⟨tail, refused⟩ := suits.1 user mode same
        simp [refused, startsWith]
      rw [heard]
      exact ⟨.inr rfl, rfl⟩
    · have free : 10 ∉ bytes text ++ [13] := by simpa using lf_free unbroken
      have long : maxLine < (bytes text ++ [13]).length + 1 := by
        rw [List.length_append, List.length_singleton]
        omega
      have line := readLine_long free long rest output
      have shape : bytes text ++ [13] ++ 10 :: rest = answerBytes (.line text) ++ rest := by
        simp [answerBytes, crlf]
      rw [shape] at line
      have failed : (hear call).run ⟨answerBytes (.line text) ++ rest, output⟩ =
          .error (.lineTooLong maxLine) ⟨rest, output⟩ := by
        cases call <;> exact run_bind_of_error line
      rw [failed]
      exact ⟨.inl ⟨_, rfl⟩, rfl⟩

/-- A broken answer is not what the client returns. -/
theorem hear_broken {call : ClientCall} {answer : Answer} (suits : Suits call answer)
    (broken : ¬Unbroken answer) (writable : Writable answer) (rest output : List UInt8) :
    ∃ other, outcome ((hear call).run ⟨answerBytes answer ++ rest, output⟩) = .ok other ∧
      other ≠ answer := by
  cases answer with
  | attestation blob => exact absurd trivial broken
  | line text =>
    have breaks : '\n' ∈ text.toList := not_not.mp broken
    obtain ⟨start, tail, rfl, known⟩ := suits.2 breaks
    have plain : '\n' ∉ start.toList ∧ '\x0d' ∉ start.toList := by
      rcases known with rfl | rfl <;> decide
    have inside : '\n' ∈ tail.toList := by
      simpa [plain.1] using breaks
    obtain ⟨line, after, read, -, starts, single⟩ :=
      readLine_broken plain inside writable rest output
    have other : Answer.line line ≠ .line (start ++ tail) := by
      intro same
      exact single (Answer.line.inj same ▸ breaks)
    have heard : (hear call).run ⟨answerBytes (.line (start ++ tail)) ++ rest, output⟩ =
        .ok (.line line) after := by
      refine hear_line (fun user mode same granted => ?_) read
      obtain ⟨more, refused⟩ := suits.1 user mode same
      have both := List.prefix_or_prefix_of_prefix
        (List.isPrefixOf_iff_prefix.mp granted) (List.isPrefixOf_iff_prefix.mp starts)
      cases known with
      | inl ok =>
        rw [ok] at refused
        exact absurd (congrArg String.toList refused) (by simp)
      | inr error =>
        rw [error] at both
        exact absurd both (by decide)
    rw [heard]
    exact ⟨_, rfl, other⟩

/-- From the start of an answer the client learns nothing. -/
theorem hear_start {call : ClientCall} {answer : Answer} (suits : Suits call answer)
    (output : List UInt8) : Failed (outcome ((hear call).run ⟨startBytes answer, output⟩)) ∧
      final ((hear call).run ⟨startBytes answer, output⟩) = ⟨[], output⟩ := by
  cases answer with
  | line text => exact hear_end call output
  | attestation blob =>
    obtain ⟨user, mode, rfl⟩ := suits
    obtain ⟨message, ended⟩ :=
      readLine_truncated (List.not_mem_nil (a := 10)) (Nat.zero_le _) output
    have line := readLine_attestation [] output
    rw [List.append_nil] at line
    have failed : (hear (.attest user mode)).run ⟨startBytes (.attestation blob), output⟩ =
        .error (.protocol message) ⟨[], output⟩ := by
      refine (run_bind_of_ok line).trans ?_
      rw [if_pos (by decide)]
      exact run_bind_of_error (run_bind_of_error ended)
    rw [failed]
    exact ⟨⟨_, rfl⟩, rfl⟩

/-! ## The server reads a call -/

/-- The texts between the spaces of a REGISTER line. -/
def registerFields (username password pubkeyHex : String) (ivkHex : Option String) :
    List String :=
  (splitn 5 ' ' (registerLine username password pubkeyHex ivkHex)).tail

/-- The server refuses a registration with these fields. -/
def Missing (fields : List String) : Prop :=
  fields[0]?.getD "" = "" ∨ fields[1]?.getD "" = "" ∨ fields[2]?.getD "" = ""

instance : DecidablePred Missing := fun _ => inferInstanceAs (Decidable (_ ∨ _))

/-- A call whose line the server takes apart as the client put it together, or refuses where no blob
follows. -/
def Separable : ClientCall → Prop
  | .send sender recipient messageId _ _ =>
    ' ' ∉ sender.toList ∧ ' ' ∉ recipient.toList ∧ ' ' ∉ messageId.toList
  | .register username password pubkeyHex ivkHex =>
    (' ' ∉ username.toList ∧ ' ' ∉ password.toList ∧ ' ' ∉ pubkeyHex.toList) ∨
      Missing (registerFields username password pubkeyHex ivkHex)
  | .attest user mode =>
    ' ' ∉ user.toList ∨ modeWord (splitn 5 ' ' (attestLine user mode))[2]? = none
  | .emulate recipientUser _ => ' ' ∉ recipientUser.toList ∧ recipientUser ≠ ""
  | .status => True
  | .quit => True

instance : DecidablePred Separable
  | .send _ _ _ _ _ => inferInstanceAs (Decidable (_ ∧ _ ∧ _))
  | .register _ _ _ _ => inferInstanceAs (Decidable ((_ ∧ _ ∧ _) ∨ _))
  | .attest _ _ => inferInstanceAs (Decidable (_ ∨ _))
  | .emulate _ _ => inferInstanceAs (Decidable (_ ∧ _))
  | .status => inferInstanceAs (Decidable True)
  | .quit => inferInstanceAs (Decidable True)

/-- The call of the handler that a call of the client is for. -/
def invocationOf : ClientCall → Option Invocation
  | .send sender recipient messageId payload body =>
    some (.send sender recipient messageId payload body)
  | .register username password pubkeyHex ivkHex =>
    some (.register username password pubkeyHex ivkHex)
  | .attest user mode => some (.attest user mode)
  | .emulate recipientUser payload => some (.emulate recipientUser payload)
  | .status => some .status
  | .quit => none

/-- What the server makes of a call that it takes apart as the client put it together. -/
def requestOf : ClientCall → Request
  | .send sender recipient messageId payload body =>
    .invoke (.send sender recipient messageId payload body)
  | .register username password pubkeyHex ivkHex =>
    if Missing (registerFields username password pubkeyHex ivkHex) then
      .refuse "ERR REGISTER requires username, password, and pubkey"
    else .invoke (.register username password pubkeyHex ivkHex)
  | .attest user mode =>
    if ' ' ∈ user.toList then .refuse "ERR malformed ATTEST" else .invoke (.attest user mode)
  | .emulate recipientUser payload => .invoke (.emulate recipientUser payload)
  | .status => .invoke .status
  | .quit => .quit

/-- A request for a call is QUIT, a refusal, or a call of the handler for it. -/
theorem requestOf_cases (call : ClientCall) :
    (requestOf call = .quit ∧ call = .quit) ∨
      (∃ text, requestOf call = .refuse ("ERR " ++ text) ∧ call ≠ .quit) ∨
      ∃ invocation, requestOf call = .invoke invocation ∧ invocationOf call = some invocation := by
  cases call with
  | register username password pubkeyHex ivkHex =>
    have text : "ERR REGISTER requires username, password, and pubkey" =
        "ERR " ++ "REGISTER requires username, password, and pubkey" := by decide
    by_cases missing : Missing (registerFields username password pubkeyHex ivkHex)
    · have refused : requestOf (.register username password pubkeyHex ivkHex) =
          .refuse ("ERR " ++ "REGISTER requires username, password, and pubkey") := by
        rw [requestOf, if_pos missing, text]
      exact .inr (.inl ⟨_, refused, by simp⟩)
    · have asked : requestOf (.register username password pubkeyHex ivkHex) =
          .invoke (.register username password pubkeyHex ivkHex) := by
        rw [requestOf, if_neg missing]
      exact .inr (.inr ⟨_, asked, rfl⟩)
  | attest user mode =>
    have text : "ERR malformed ATTEST" = "ERR " ++ "malformed ATTEST" := by decide
    by_cases space : ' ' ∈ user.toList
    · have refused : requestOf (.attest user mode) = .refuse ("ERR " ++ "malformed ATTEST") := by
        rw [requestOf, if_pos space, text]
      exact .inr (.inl ⟨_, refused, by simp⟩)
    · have asked : requestOf (.attest user mode) = .invoke (.attest user mode) := by
        rw [requestOf, if_neg space]
      exact .inr (.inr ⟨_, asked, rfl⟩)
  | send => exact .inr (.inr ⟨_, rfl, rfl⟩)
  | emulate => exact .inr (.inr ⟨_, rfl, rfl⟩)
  | status => exact .inr (.inr ⟨_, rfl, rfl⟩)
  | quit => exact .inl ⟨rfl, rfl⟩

/-- A request for a call is a call of the handler for it, or none. -/
theorem requestOf_invocation (call : ClientCall) :
    (requestOf call).invocation = none ∨ (requestOf call).invocation = invocationOf call := by
  rcases requestOf_cases call with ⟨quit, -⟩ | ⟨text, refused, -⟩ | ⟨invocation, asked, same⟩
  · exact .inl (congrArg Request.invocation quit)
  · exact .inl (congrArg Request.invocation refused)
  · exact .inr ((congrArg Request.invocation asked).trans same.symm)

/-- Only QUIT ends the session. -/
theorem requestOf_quit (call : ClientCall) : requestOf call = .quit ↔ call = .quit := by
  constructor
  · intro quit
    rcases requestOf_cases call with ⟨-, same⟩ | ⟨text, refused, -⟩ | ⟨invocation, asked, -⟩
    · exact same
    · cases quit.symm.trans refused
    · cases quit.symm.trans asked
  · intro same
    rw [same, requestOf]

/-- A text behind `OK` suits every call but ATTEST. -/
theorem suits_ok {call : ClientCall} (other : ∀ user mode, call ≠ .attest user mode)
    (tail : String) : Suits call (.line ("OK " ++ tail)) :=
  ⟨fun user mode same => absurd same (other user mode), fun _ => ⟨"OK ", tail, rfl, .inl rfl⟩⟩

/-- A text behind `ERR` suits every call. -/
theorem suits_error (call : ClientCall) (tail : String) : Suits call (.line ("ERR " ++ tail)) :=
  ⟨fun _ _ _ => ⟨tail, rfl⟩, fun _ => ⟨"ERR ", tail, rfl, .inr rfl⟩⟩

/-- What the handler answers to the call it is asked for suits it. -/
theorem suits_invoke (handler : Handler ω) (world : ω) {call : ClientCall}
    {invocation : Invocation} (asked : invocationOf call = some invocation) :
    Suits call (handler.invoke world invocation).1 := by
  cases call with
  | send sender recipient messageId payload body =>
    cases asked
    change Suits _ (TextResult.answer _)
    cases (handler.send sender recipient messageId payload body world).1 with
    | ok text => exact suits_ok (by simp) text
    | error text => exact suits_error _ text
  | register username password pubkeyHex ivkHex =>
    cases asked
    change Suits _ (RegisterResult.answer _)
    cases (handler.register username password pubkeyHex ivkHex world).1 with
    | ok => exact suits_ok (by simp) "registered"
    | error text => exact suits_error _ text
  | attest user mode =>
    cases asked
    change Suits _ (AttestResult.answer _)
    cases (handler.attest user mode world).1 with
    | ok blob => exact ⟨user, mode, rfl⟩
    | error text => exact suits_error _ text
  | emulate recipientUser payload =>
    cases asked
    change Suits _ (TextResult.answer _)
    cases (handler.emulate recipientUser payload world).1 with
    | ok text => exact suits_ok (by simp) text
    | error text => exact suits_error _ text
  | status =>
    cases asked
    exact suits_ok (by simp) (handler.status world).1
  | quit => cases asked

/-- The answer to a call suits it. -/
theorem suits_answer (handler : Handler ω) (world : ω) (call : ClientCall) :
    Suits call ((requestOf call).answer handler world).1 := by
  rcases requestOf_cases call with ⟨quit, same⟩ | ⟨text, refused, -⟩ | ⟨invocation, asked, same⟩
  · have bye : "OK bye" = "OK " ++ "bye" := by decide
    rw [quit, same, Request.answer, bye]
    exact suits_ok (by simp) "bye"
  · rw [refused, Request.answer]
    exact suits_error call text
  · rw [asked, Request.answer]
    exact suits_invoke handler world same

variable (reader : EmulateReader)

/-- The server goes by the verb. -/
theorem readRequest_lineOf (call : ClientCall) (conn : Conn) :
    readRequest reader (lineOf call) conn =
      match call with
      | .send _ _ _ _ _ => readSend (splitn 5 ' ' (lineOf call)) conn
      | .register _ _ _ _ => (readRegister (splitn 5 ' ' (lineOf call)), conn)
      | .attest _ _ => (readAttest (splitn 5 ' ' (lineOf call)), conn)
      | .emulate _ _ => readPayment reader (splitn 5 ' ' (lineOf call)) conn
      | .status => (.invoke .status, conn)
      | .quit => (.quit, conn) := by
  have verb {word line : String} (rest : String) (free : ' ' ∉ word.toList)
      (shape : line = word ++ " " ++ rest) : (splitn 5 ' ' line).headD "" = word := by
    rw [shape, splitn_word free 3, List.headD_cons]
  cases call with
  | send sender recipient messageId payload body =>
    have head : (splitn 5 ' ' (sendLine sender recipient messageId payload)).headD "" = "SEND" :=
      verb (sender ++ " " ++ recipient ++ " " ++ messageId ++ " " ++ payload.word) (by decide)
        (String.ext (by simp [sendLine]))
    simp only [lineOf, readRequest, head, show toAsciiUppercase "SEND" = "SEND" by decide,
      ↓reduceIte]
  | register username password pubkeyHex ivkHex =>
    have head : (splitn 5 ' ' (registerLine username password pubkeyHex ivkHex)).headD "" =
        "REGISTER" :=
      verb (username ++ " " ++ password ++ " " ++ pubkeyHex
          ++ (ivkHex.map fun ivk => " " ++ ivk).getD "") (by decide)
        (String.ext (by simp [registerLine]))
    simp only [lineOf, readRequest, head, show toAsciiUppercase "REGISTER" = "REGISTER" by decide,
      show ¬"REGISTER" = "SEND" by decide, ↓reduceIte]
  | attest user mode =>
    have head : (splitn 5 ' ' (attestLine user mode)).headD "" = "ATTEST" :=
      verb (user ++ " " ++ mode.word) (by decide) (String.ext (by simp [attestLine]))
    simp only [lineOf, readRequest, head, show toAsciiUppercase "ATTEST" = "ATTEST" by decide,
      show ¬"ATTEST" = "SEND" by decide, show ¬"ATTEST" = "REGISTER" by decide, ↓reduceIte]
  | emulate recipientUser payload =>
    have head : (splitn 5 ' ' (emulateLine recipientUser)).headD "" = "EMULATE" :=
      verb recipientUser (by decide) (String.ext (by simp [emulateLine]))
    simp only [lineOf, readRequest, head, show toAsciiUppercase "EMULATE" = "EMULATE" by decide,
      show ¬"EMULATE" = "SEND" by decide, show ¬"EMULATE" = "REGISTER" by decide,
      show ¬"EMULATE" = "ATTEST" by decide, ↓reduceIte]
  | status => rfl
  | quit => rfl

/-- A payload word is read back. -/
theorem payloadWord_word (payload : Protocol.Payload) :
    payloadWord (some payload.word) = some payload := by
  cases payload <;> decide

/-- A mode word is read back. -/
theorem modeWord_word (mode : AttestationMode) : modeWord (some mode.word) = some mode := by
  cases mode <;> decide

/-- A blob on the wire is read. -/
theorem withBlob_data {data : List UInt8} (small : data.length ≤ maxBlob) (missing : String)
    (next : List UInt8 → Request) (rest output : List UInt8) :
    withBlob missing next ⟨blobBytes data ++ rest, output⟩ = (next data, ⟨rest, output⟩) := by
  rw [withBlob, readBlob_data small]

/-- The pieces of a SEND line without spaces in its arguments. -/
theorem send_parts {sender recipient messageId : String} (payload : Protocol.Payload)
    (free : ' ' ∉ sender.toList ∧ ' ' ∉ recipient.toList ∧ ' ' ∉ messageId.toList) :
    splitn 5 ' ' (sendLine sender recipient messageId payload) =
      ["SEND", sender, recipient, messageId, payload.word] := by
  have shape : sendLine sender recipient messageId payload = "SEND" ++ " " ++
      (sender ++ " " ++ (recipient ++ " " ++ (messageId ++ " " ++ payload.word))) :=
    String.ext (by simp [sendLine])
  rw [shape, splitn_word (by decide), splitn_word free.1, splitn_word free.2.1,
    splitn_word free.2.2, splitn_one]

/-- The pieces of a REGISTER line without spaces in its first three arguments. -/
theorem register_parts {username password pubkeyHex : String} (ivkHex : Option String)
    (free : ' ' ∉ username.toList ∧ ' ' ∉ password.toList ∧ ' ' ∉ pubkeyHex.toList) :
    splitn 5 ' ' (registerLine username password pubkeyHex ivkHex) =
      ["REGISTER", username, password, pubkeyHex] ++ ivkHex.toList := by
  have shape (tail : String) :
      "REGISTER " ++ username ++ " " ++ password ++ " " ++ pubkeyHex ++ tail =
        "REGISTER" ++ " " ++ (username ++ " " ++ (password ++ " " ++ (pubkeyHex ++ tail))) :=
    String.ext (by simp)
  cases ivkHex with
  | none =>
    have bare : pubkeyHex ++ "" = pubkeyHex := String.append_empty
    rw [registerLine, Option.map_none, Option.getD_none, shape, splitn_word (by decide),
      splitn_word free.1, splitn_word free.2.1, bare, splitn_free free.2.2]
    rfl
  | some ivk =>
    have joined : pubkeyHex ++ (" " ++ ivk) = pubkeyHex ++ " " ++ ivk :=
      String.append_assoc.symm
    rw [registerLine, Option.map_some, Option.getD_some, shape, splitn_word (by decide),
      splitn_word free.1, splitn_word free.2.1, joined, splitn_word free.2.2, splitn_one]
    rfl

/-- The pieces of an ATTEST line without a space in the user. -/
theorem attest_parts {user : String} (mode : AttestationMode) (free : ' ' ∉ user.toList) :
    splitn 5 ' ' (attestLine user mode) = ["ATTEST", user, mode.word] := by
  have word : ' ' ∉ mode.word.toList := by cases mode <;> decide
  have shape : attestLine user mode = "ATTEST" ++ " " ++ (user ++ " " ++ mode.word) :=
    String.ext (by simp [attestLine])
  rw [shape, splitn_word (by decide), splitn_word free, splitn_free word]

/-- The pieces of an EMULATE line without a space in the user. -/
theorem emulate_parts {recipientUser : String} (free : ' ' ∉ recipientUser.toList) :
    splitn 5 ' ' (emulateLine recipientUser) = ["EMULATE", recipientUser] := by
  have shape : emulateLine recipientUser = "EMULATE" ++ " " ++ recipientUser :=
    String.ext (by simp [emulateLine])
  rw [shape, splitn_word (by decide), splitn_free free]

/-- REGISTER is refused when one of its first three fields is missing. -/
theorem readRegister_missing {parts : List String} (missing : Missing parts.tail) :
    readRegister parts = .refuse "ERR REGISTER requires username, password, and pubkey" := by
  simp only [Missing, List.getElem?_tail] at missing
  simp only [readRegister, missing, ↓reduceIte]

/-- REGISTER is a call of the handler when none of them is. -/
theorem readRegister_present {parts : List String} (present : ¬Missing parts.tail) :
    readRegister parts = .invoke (.register (parts[1]?.getD "") (parts[2]?.getD "")
      (parts[3]?.getD "") parts[4]?) := by
  simp only [Missing, List.getElem?_tail] at present
  simp only [readRegister, present, ↓reduceIte]

/-- A registration that can be taken apart is. -/
theorem readRegister_separable {username password pubkeyHex : String} {ivkHex : Option String}
    (separable : Separable (.register username password pubkeyHex ivkHex)) :
    readRegister (splitn 5 ' ' (registerLine username password pubkeyHex ivkHex)) =
      requestOf (.register username password pubkeyHex ivkHex) := by
  rw [requestOf]
  by_cases missing : Missing (registerFields username password pubkeyHex ivkHex)
  · rw [if_pos missing]
    exact readRegister_missing missing
  · have free := separable.resolve_right missing
    rw [if_neg missing, readRegister_present missing, register_parts ivkHex free]
    cases ivkHex <;> rfl

/-- A request for an attestation that can be taken apart is. -/
theorem readAttest_separable {user : String} {mode : AttestationMode}
    (separable : Separable (.attest user mode)) :
    readAttest (splitn 5 ' ' (attestLine user mode)) = requestOf (.attest user mode) := by
  rw [requestOf]
  by_cases space : ' ' ∈ user.toList
  · have unknown := separable.resolve_left (not_not.mpr space)
    rw [if_pos space, readAttest, unknown]
  · rw [if_neg space, attest_parts mode space]
    simp only [readAttest, List.getElem?_cons_succ, List.getElem?_cons_zero, Option.getD_some,
      modeWord_word]

/-- A call that can be taken apart is, and all of it is consumed. -/
theorem readRequest_separable {call : ClientCall} (clean : Clean call)
    (separable : Separable call) (rest output : List UInt8) :
    readRequest reader (lineOf call) ⟨frameOf call ++ rest, output⟩ =
      (requestOf call, ⟨rest, output⟩) := by
  rw [readRequest_lineOf]
  cases call with
  | send sender recipient messageId payload body =>
    have small : body.length ≤ maxBlob := clean.small body rfl
    simp only [lineOf, send_parts payload separable, readSend, List.getElem?_cons_succ,
      List.getElem?_cons_zero, Option.getD_some, payloadWord_word]
    exact withBlob_data small _ _ rest output
  | register username password pubkeyHex ivkHex =>
    have frame : frameOf (.register username password pubkeyHex ivkHex) = [] := rfl
    simp only [lineOf, readRegister_separable separable, frame, List.nil_append]
  | attest user mode =>
    have frame : frameOf (.attest user mode) = [] := rfl
    simp only [lineOf, readAttest_separable separable, frame, List.nil_append]
  | emulate recipientUser payload =>
    have small : (bytes payload.toJson).length ≤ maxBlob := clean.small _ rfl
    have named : recipientUser ≠ "" := separable.2
    simp only [lineOf, emulate_parts separable.1, readPayment, List.getElem?_cons_succ,
      List.getElem?_cons_zero, Option.getD_some, named, ↓reduceIte]
    refine (withBlob_data small _ _ rest output).trans ?_
    simp only [Utf8.fromUtf8Lossy_bytes, reader.read_toJson, requestOf]
  | status => rfl
  | quit => rfl

/-- The pieces of a line before the last one allowed for hold no space. -/
theorem piece_free (line : String) (index : Nat) (early : index < 4) :
    ' ' ∉ ((splitn 5 ' ' line)[index]?.getD "").toList := by
  cases found : (splitn 5 ' ' line)[index]? with
  | none => simp
  | some piece => exact free_of_getElem?_splitn found early

/-- A call that cannot be taken apart is taken for another one, or it is refused and its blob is
left on the stream. -/
theorem readRequest_inseparable {call : ClientCall} (clean : Clean call)
    (mixed : ¬Separable call) (rest output : List UInt8) :
    (∃ invocation, (readRequest reader (lineOf call) ⟨frameOf call ++ rest, output⟩).1 =
        .invoke invocation ∧ some invocation ≠ invocationOf call) ∨
      ∃ text data, readRequest reader (lineOf call) ⟨frameOf call ++ rest, output⟩ =
          (.refuse text, ⟨frameOf call ++ rest, output⟩) ∧
        blobOf call = some data ∧ Writable (.line text) := by
  rw [readRequest_lineOf]
  have free := piece_free (lineOf call)
  generalize parted : splitn 5 ' ' (lineOf call) = parts at free
  cases call with
  | send sender recipient messageId payload body =>
    have small : body.length ≤ maxBlob := clean.small body rfl
    cases word : payloadWord parts[4]? with
    | none =>
      refine .inr ⟨"ERR malformed SEND", body, ?_, rfl, by decide⟩
      simp only [readSend, word]
    | some other =>
      refine .inl ⟨.send (parts[1]?.getD "") (parts[2]?.getD "") (parts[3]?.getD "") other body,
        ?_, ?_⟩
      · simp only [readSend, word]
        exact congrArg Prod.fst (withBlob_data small _ _ rest output)
      · intro same
        simp only [invocationOf, Option.some.injEq, Invocation.send.injEq] at same
        apply mixed
        rw [Separable, ← same.1, ← same.2.1, ← same.2.2.1]
        exact ⟨free 1 (by decide), free 2 (by decide), free 3 (by decide)⟩
  | register username password pubkeyHex ivkHex =>
    have present : ¬Missing parts.tail := fun missing => mixed (.inr (by
      rwa [registerFields, ← lineOf, parted]))
    refine .inl ⟨.register (parts[1]?.getD "") (parts[2]?.getD "") (parts[3]?.getD "") parts[4]?,
      readRegister_present present, ?_⟩
    intro same
    simp only [invocationOf, Option.some.injEq, Invocation.register.injEq] at same
    apply mixed
    refine .inl ?_
    rw [← same.1, ← same.2.1, ← same.2.2.1]
    exact ⟨free 1 (by decide), free 2 (by decide), free 3 (by decide)⟩
  | attest user mode =>
    cases word : modeWord parts[2]? with
    | none => exact absurd (.inr (by rwa [← lineOf, parted])) mixed
    | some other =>
      refine .inl ⟨.attest (parts[1]?.getD "") other, ?_, ?_⟩
      · simp only [readAttest, word]
      · intro same
        simp only [invocationOf, Option.some.injEq, Invocation.attest.injEq] at same
        apply mixed
        refine .inl ?_
        rw [← same.1]
        exact free 1 (by decide)
  | emulate recipientUser payload =>
    have small : (bytes payload.toJson).length ≤ maxBlob := clean.small _ rfl
    by_cases empty : parts[1]?.getD "" = ""
    · refine .inr ⟨"ERR EMULATE requires a recipient user", _, ?_, rfl, by decide⟩
      simp only [readPayment, empty, ↓reduceIte]
    · refine .inl ⟨.emulate (parts[1]?.getD "") payload, ?_, ?_⟩
      · simp only [readPayment, empty, ↓reduceIte]
        refine (congrArg Prod.fst (withBlob_data small _ _ rest output)).trans ?_
        simp only [Utf8.fromUtf8Lossy_bytes, reader.read_toJson]
      · intro same
        simp only [invocationOf, Option.some.injEq, Invocation.emulate.injEq, and_true] at same
        apply mixed
        rw [Separable, ← same]
        exact ⟨free 1 (by decide), empty⟩
  | status => exact absurd trivial mixed
  | quit => exact absurd trivial mixed

end Talk.Verif.MailboxSteps
