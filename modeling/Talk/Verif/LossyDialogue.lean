import Talk.Verif.Agreement

/-!
# The delivery dialogue over a connection that may break

Each end may hear only a beginning of what the other one says. The invoice is then delivered once
or not at all. A client that reports success has had its invoice accepted, and a client that does
not has either not had it delivered or has not heard the answer.
-/

namespace Talk.Verif.LossyDialogue

open Protocol ByteStream Text Hex SessionLoop ClientSteps Exchange Dialogue Agreement ZsmptClient
open Utf8 (bytes)

/-! ## The client does not look at the end -/

/-- A client with more to read. -/
def extend (client : ZsmptClient) (more : List UInt8) : ZsmptClient :=
  client.withStream (client.stream.extend more)

/-- A framing operation on the client's stream. -/
theorem stable_onStream {α : Type} {action : EStateM FramingError Conn α}
    (stable : Stable Conn.extend action) : Stable extend (onStream action) := by
  intro client after value done more
  cases ran : action.run client.stream with
  | error error stream =>
    rw [onStream_error client ran] at done
    cases done
  | ok found stream =>
    rw [onStream_ok client ran] at done
    obtain ⟨rfl, rfl⟩ := EStateM.Result.ok.inj done
    exact onStream_ok (extend client more) (stable _ _ _ ran more)

/-- Returning a value or failing is stable. -/
theorem stable_ofExcept {α : Type} (result : Except ClientError α) :
    Stable extend (ofExcept result) := by
  cases result with
  | ok value => exact stable_pure value
  | error error => exact stable_throw error

/-- Reading a status is stable. -/
theorem stable_expectStatus (start : String) : Stable extend (expectStatus start) :=
  stable_bind (stable_onStream stable_readLine) fun _ =>
    stable_ite (stable_pure _) (stable_throw _)

/-- `connect` is stable. -/
theorem stable_connect : Stable extend connect :=
  stable_bind (stable_onStream stable_readLine) fun _ =>
    stable_bind (stable_ofExcept _) fun _ => stable_modify fun _ _ => rfl

/-- `hello` is stable. -/
theorem stable_hello : Stable extend hello :=
  stable_get_bind (fun _ _ => rfl) fun _ => stable_ite (stable_throw _) <|
    stable_bind (stable_onStream (stable_writeLine _)) fun _ =>
      stable_bind (stable_expectStatus _) fun _ => stable_modify fun _ _ => rfl

/-- `authenticate` is stable. -/
theorem stable_authenticate (crypto : Crypto) (receiverPub : crypto.VerifyingKey)
    (nonce : Block 16) (issuedAt now : Int64) :
    Stable extend (authenticate crypto receiverPub nonce issuedAt now) :=
  stable_get_bind (fun _ _ => rfl) fun _ => stable_ite (stable_throw _) <|
    stable_bind (stable_onStream (stable_writeLine _)) fun _ =>
      stable_bind
        (stable_bind (stable_expectStatus _) fun _ =>
          stable_bind (stable_onStream stable_readBlob) fun _ => stable_ofExcept _) fun _ =>
        stable_bind (stable_ofExcept _) fun _ => stable_modify fun _ _ => rfl

/-- `request_address` is stable. -/
theorem stable_requestAddress (crypto : Crypto) (json : JsonReader) (user : String)
    (mode : AttestationMode) (receiverPub : crypto.VerifyingKey) :
    Stable extend (requestAddress crypto json user mode receiverPub) :=
  stable_get_bind (fun _ _ => rfl) fun _ => stable_ite (stable_throw _) <|
    stable_bind (stable_onStream (stable_writeLine _)) fun _ =>
      stable_bind (stable_expectStatus _) fun _ =>
        stable_bind (stable_onStream stable_readBlob) fun _ =>
          stable_bind (stable_ofExcept _) fun _ =>
            stable_bind (stable_modify fun _ _ => rfl) fun _ => stable_pure _

/-- `send_invoice` is stable. -/
theorem stable_sendInvoice (senderUsername messageId : String) (payload : Payload)
    (body : List UInt8) : Stable extend (sendInvoice senderUsername messageId payload body) :=
  stable_get_bind (fun _ _ => rfl) fun _ => stable_ite (stable_throw _) <|
    stable_bind (stable_onStream (stable_writeLine _)) fun _ =>
      stable_bind (stable_onStream (stable_writeBlob _)) fun _ => stable_expectStatus _

/-! ## The client writes one request at a time -/

/-- A client with other bytes to read. -/
def hearing (client : ZsmptClient) (input : List UInt8) : ZsmptClient :=
  client.withStream ⟨input, client.stream.output⟩

/-- Bytes that are put in replace those that were put in before. -/
theorem hearing_hearing (client : ZsmptClient) (first second : List UInt8) :
    hearing (hearing client first) second = hearing client second := rfl

/-- A framing operation that only reads. -/
theorem reads_onStream {α : Type} {action : EStateM FramingError Conn α}
    (reads : Reads Conn.withInput action) : Reads hearing (onStream action) := by
  intro client
  obtain ⟨input, rest⟩ := reads client.stream
  refine ⟨input, ?_⟩
  cases ran : action.run client.stream with
  | error error stream =>
    rw [ran, final_error] at rest
    rw [onStream_error client ran, final_error, rest]
    rfl
  | ok value stream =>
    rw [ran, final_ok] at rest
    rw [onStream_ok client ran, final_ok, rest]
    rfl

/-- Returning a value or failing reads nothing. -/
theorem reads_ofExcept {α : Type} (result : Except ClientError α) :
    Reads hearing (ofExcept result) := by
  cases result with
  | ok value => exact reads_pure (fun client => ⟨client.stream.input, rfl⟩) value
  | error error => exact reads_throw (fun client => ⟨client.stream.input, rfl⟩) error

/-- Reading a status takes from the input only. -/
theorem reads_expectStatus (start : String) : Reads hearing (expectStatus start) := by
  refine reads_bind hearing_hearing (reads_onStream reads_readLine) fun line => ?_
  split
  · exact reads_pure (fun client => ⟨client.stream.input, rfl⟩) ()
  · exact reads_throw (fun client => ⟨client.stream.input, rfl⟩) _

/-- Reading an AUTH reply takes from the input only. -/
theorem reads_authReply : Reads hearing authReply :=
  reads_bind hearing_hearing (reads_expectStatus _) fun _ =>
    reads_bind hearing_hearing (reads_onStream reads_readBlob) fun _ => reads_ofExcept _

/-- A program that only reads fails or returns, and leaves the rest of the client. -/
theorem reads_cases {α : Type} {program : EStateM ClientError ZsmptClient α}
    (reads : Reads hearing program) (client : ZsmptClient) :
    (∃ error input, program.run client = .error error (hearing client input)) ∨
    ∃ value input, program.run client = .ok value (hearing client input) := by
  obtain ⟨input, rest⟩ := reads client
  cases ran : program.run client with
  | error error after =>
    rw [ran, final_error] at rest
    exact .inl ⟨error, input, by rw [rest]⟩
  | ok value after =>
    rw [ran, final_ok] at rest
    exact .inr ⟨value, input, by rw [rest]⟩

/-- A step writes its line, then fails or goes on from the answer. -/
theorem ask_cases {α β : Type} {line : String} (fits : (bytes line).length ≤ maxLine)
    {answer : EStateM ClientError ZsmptClient α} (reads : Reads hearing answer)
    (finish : α → EStateM ClientError ZsmptClient β) (client : ZsmptClient) :
    let asked := client.withStream (client.stream.write (bytes line ++ crlf))
    (∃ error input, (onStream (writeLine line) >>= fun _ => answer >>= finish).run client =
      .error error (hearing asked input)) ∨
    ∃ value input, (onStream (writeLine line) >>= fun _ => answer >>= finish).run client =
      (finish value).run (hearing asked input) := by
  intro asked
  have written : (onStream (writeLine line)).run client = .ok () asked :=
    onStream_ok client (writeLine_fits fits client.stream)
  rw [run_bind_of_ok written]
  rcases reads_cases reads asked with ⟨error, input, failed⟩ | ⟨value, input, done⟩
  · exact .inl ⟨error, input, run_bind_of_error failed⟩
  · exact .inr ⟨value, input, run_bind_of_ok done⟩

/-- How a step ends: it has written its request, and is done or has failed. -/
def Asks {α : Type} (result : EStateM.Result ClientError ZsmptClient α) (client : ZsmptClient)
    (request : List UInt8) : Prop :=
  (∃ error after, result = .error error after ∧
    after.stream.output = client.stream.output ++ request) ∨
  ∃ value input, result =
    .ok value (client.withStream ⟨input, client.stream.output ++ request⟩)

/-- `hello` asks for a greeting. -/
theorem hello_asks {client : ZsmptClient} (phase : client.state = .connected)
    (fits : (bytes ("HELLO " ++ client.senderDomain)).length ≤ maxLine) :
    Asks (hello.run client) { client with state := .awaitingAuth }
      (bytes ("HELLO " ++ client.senderDomain) ++ crlf) := by
  rw [hello, EStateM.run_bind, EStateM.run_get]
  dsimp only
  rw [if_neg (by simp [phase])]
  rcases ask_cases fits (reads_expectStatus "250 ") _ client with
    ⟨error, input, failed⟩ | ⟨value, input, done⟩
  · exact .inl ⟨error, _, failed, rfl⟩
  · exact .inr ⟨(), input, done⟩

/-- `authenticate` asks for a signature. -/
theorem authenticate_asks (crypto : Crypto) (receiverPub : crypto.VerifyingKey)
    {client : ZsmptClient} (phase : client.state = .awaitingAuth) {nonce : Block 16}
    {issuedAt : Int64} (now : Int64) {challenge : Challenge}
    (issued : Challenge.issue client.senderDomain client.receiverDomain nonce issuedAt = challenge)
    (fits : (bytes (authLine challenge)).length ≤ maxLine) :
    Asks ((authenticate crypto receiverPub nonce issuedAt now).run client)
      { client with state := .authenticated } (bytes (authLine challenge) ++ crlf) := by
  rw [authenticate, EStateM.run_bind, EStateM.run_get]
  dsimp only
  rw [if_neg (by simp [phase]), issued]
  rcases ask_cases fits reads_authReply _ client with
    ⟨error, input, failed⟩ | ⟨response, input, done⟩
  · exact .inl ⟨error, _, failed, rfl⟩
  · cases verified : checkResponse crypto response receiverPub now with
    | error error =>
      rw [verified] at done
      exact .inl ⟨error, _, done, rfl⟩
    | ok value =>
      rw [verified] at done
      exact .inr ⟨(), input, done⟩

/-- `request_address` asks for an attestation. -/
theorem requestAddress_asks (crypto : Crypto) (json : JsonReader)
    (receiverPub : crypto.VerifyingKey) {client : ZsmptClient}
    (phase : client.state = .authenticated) (user : String)
    (fits : (bytes (addrLine user)).length ≤ maxLine) :
    Asks ((requestAddress crypto json user .ephemeral receiverPub).run client)
      { client with addrUser := some user, state := .addressed }
      (bytes (addrLine user) ++ crlf) := by
  rw [requestAddress, EStateM.run_bind, EStateM.run_get]
  dsimp only
  rw [if_neg (by simp [phase]), ← addrLine]
  rcases ask_cases fits (reads_expectStatus "250 ") _ client with
    ⟨error, input, failed⟩ | ⟨_, input, done⟩
  · exact .inl ⟨error, _, failed, rfl⟩
  · rw [done]
    rcases reads_cases (reads_onStream reads_readBlob) (hearing
        (client.withStream (client.stream.write (bytes (addrLine user) ++ crlf))) input) with
      ⟨error, rest, failed⟩ | ⟨blob, rest, read⟩
    · exact .inl ⟨error, _, run_bind_of_error failed, rfl⟩
    · rw [run_bind_of_ok read]
      cases verified : attestationOf crypto json blob receiverPub client.receiverDomain with
      | error error => exact .inl ⟨error, _, rfl, rfl⟩
      | ok attestation => exact .inr ⟨attestation, rest, rfl⟩

/-! ## Parts of a request -/

/-- A part of a line does not end it, and fits. -/
theorem part_of_line {text : String} (line : '\n' ∉ text.toList)
    (fits : (bytes text).length + 2 ≤ maxLine) {part : List UInt8}
    (start : part <+: bytes text ++ crlf) (cut : part ≠ bytes text ++ crlf) :
    10 ∉ part ∧ part.length ≤ maxLine := by
  have ends : bytes text ++ crlf = (bytes text ++ [13]) ++ [10] := by simp [crlf]
  have length : part.length ≤ (bytes text ++ crlf).length := start.length_le
  have size : (bytes text ++ crlf).length = (bytes text).length + 2 := by simp [crlf]
  refine ⟨?_, by omega⟩
  rw [ends] at start cut
  rcases List.prefix_concat_iff.mp start with whole | inside
  · exact absurd whole cut
  · intro member
    have member := inside.subset member
    simp [lf_free line] at member

/-- A beginning of two lists is one of the first, or all of it and a beginning of the second. -/
theorem prefix_append_cases {part front back : List UInt8} (start : part <+: front ++ back) :
    (part <+: front ∧ part ≠ front) ∨ ∃ rest, part = front ++ rest ∧ rest <+: back := by
  by_cases whole : front <+: part
  · obtain ⟨rest, rfl⟩ := whole
    exact .inr ⟨rest, rfl, (List.prefix_append_right_inj front).mp start⟩
  · have inside :=
      (List.prefix_or_prefix_of_prefix start (List.prefix_append front back)).resolve_right
      whole
    exact .inl ⟨inside, fun same => whole (same ▸ List.prefix_rfl)⟩

/-- A part of a blob is not read as a blob. -/
theorem readBlob_part {data part : List UInt8} (small : data.length ≤ maxBlob)
    (start : part <+: blobBytes data) (cut : part ≠ blobBytes data) (output : List UInt8) :
    ∃ error input, readBlob.run ⟨part, output⟩ = .error error ⟨input, output⟩ := by
  obtain ⟨missing, whole⟩ := start
  obtain ⟨input, rest⟩ := reads_readBlob ⟨part, output⟩
  cases ran : readBlob.run ⟨part, output⟩ with
  | error error after =>
    rw [ran, final_error] at rest
    exact ⟨error, input, by rw [rest]; rfl⟩
  | ok value after =>
    -- The blob would be read from the part, and what is missing left over.
    have longer := stable_readBlob _ _ _ ran missing
    have read := readBlob_data small [] output
    rw [List.append_nil, ← whole] at read
    have same := longer.symm.trans read
    have nothing : after.input ++ missing = [] :=
      congrArg (fun result => (final result).input) same
    obtain rfl : missing = [] := (List.append_eq_nil_iff.mp nothing).2
    exact absurd ((List.append_nil part).symm.trans whole) cut

/-! ## How far the client gets -/

variable {crypto : Crypto} {ω : Type}

/-- The client's steps up to ADDR. -/
def reach (delivering : Delivering crypto ω) : EStateM ClientError ZsmptClient Attestation := do
  connect
  hello
  authenticate crypto (crypto.verifyingKey delivering.key) delivering.nonce delivering.issuedAt
    delivering.now
  requestAddress crypto delivering.json delivering.invoice.recipientUser .ephemeral
    (crypto.verifyingKey delivering.key)

/-- The client before it hears anything. -/
def opened (delivering : Delivering crypto ω) (toClient : List UInt8) : ZsmptClient :=
  .opened ⟨toClient, []⟩ delivering.senderDomain

/-- The client goes up to ADDR, then on. -/
theorem clientEnd_reach (delivering : Delivering crypto ω) (toClient : List UInt8) :
    delivering.clientEnd toClient =
      (reach delivering >>= fun _ => delivering.fromInvoice).run (opened delivering toClient) := by
  rw [clientEnd_eq]
  unfold reach Delivering.fromHello Delivering.fromAuth Delivering.fromAddr
  simp only [bind_assoc]
  rfl

/-- The steps up to ADDR do not depend on what follows. -/
theorem stable_reach (delivering : Delivering crypto ω) : Stable extend (reach delivering) :=
  stable_bind stable_connect fun _ => stable_bind stable_hello fun _ =>
    stable_bind (stable_authenticate _ _ _ _ _) fun _ => stable_requestAddress _ _ _ _ _

section Client

variable {delivering : Delivering crypto ω} (ready : delivering.Ready)
include ready

/-- Having heard the greeting, the client fails after some of its requests up to ADDR, or is
answered up to there. -/
theorem reach_cases (heard : List UInt8) :
    (∃ error after, (reach delivering).run (opened delivering (delivering.greetingBytes ++ heard)) =
      .error error after ∧ after.stream.output <+: delivering.saidAddr) ∨
    ∃ attestation rest,
      (reach delivering).run (opened delivering (delivering.greetingBytes ++ heard)) =
        .ok attestation (delivering.client .addressed (some delivering.invoice.recipientUser) rest
          delivering.saidAddr) := by
  have greeted : connect.run (opened delivering (delivering.greetingBytes ++ heard)) =
      .ok () (delivering.client .connected none heard []) :=
    connect_ok (.opened ⟨[], []⟩ delivering.senderDomain) ready.receiver.1
      (free_append (by decide) (token_free ready.receiver))
      (line_fits ready (by simp [Delivering.lines])) heard []
  have helloFits : (bytes ("HELLO " ++ delivering.senderDomain)).length ≤ maxLine :=
    line_written_fits ready (by simp [Delivering.lines])
  have authFits : (bytes (authLine delivering.challenge)).length ≤ maxLine :=
    line_written_fits ready (by simp [Delivering.lines])
  have addrFits : (bytes (addrLine delivering.invoice.recipientUser)).length ≤ maxLine :=
    line_written_fits ready (by simp [Delivering.lines])
  rw [reach, run_bind_of_ok greeted]
  have greets : (delivering.client .connected none heard []).state = .connected := rfl
  rcases hello_asks greets helloFits with ⟨error, after, failed, said⟩ | ⟨_, input, done⟩
  · rw [run_bind_of_error failed]
    refine .inl ⟨error, after, rfl, ?_⟩
    rw [said, Delivering.saidAddr, Delivering.saidAuth, List.append_assoc]
    exact List.prefix_append _ _
  have done : hello.run (delivering.client .connected none heard []) =
      .ok () (delivering.client .awaitingAuth none input delivering.helloBytes) := done
  rw [run_bind_of_ok done]
  have waits : (delivering.client .awaitingAuth none input delivering.helloBytes).state =
    .awaitingAuth := rfl
  have issued : Challenge.issue (delivering.client .awaitingAuth none input
    delivering.helloBytes).senderDomain (delivering.client .awaitingAuth none input
      delivering.helloBytes).receiverDomain delivering.nonce delivering.issuedAt =
        delivering.challenge := rfl
  rcases authenticate_asks crypto (crypto.verifyingKey delivering.key) waits delivering.now issued
    authFits with ⟨error, after, failed, said⟩ | ⟨_, input, done⟩
  · rw [run_bind_of_error failed]
    refine .inl ⟨error, after, rfl, ?_⟩
    rw [said, Delivering.saidAddr]
    exact List.prefix_append _ _
  have done : (authenticate crypto (crypto.verifyingKey delivering.key) delivering.nonce
      delivering.issuedAt delivering.now).run
        (delivering.client .awaitingAuth none _ delivering.helloBytes) =
      .ok () (delivering.client .authenticated none input delivering.saidAuth) := done
  rw [run_bind_of_ok done]
  have asks : (delivering.client .authenticated none input delivering.saidAuth).state =
    .authenticated := rfl
  rcases requestAddress_asks crypto delivering.json (crypto.verifyingKey delivering.key) asks
    delivering.invoice.recipientUser addrFits with
      ⟨error, after, failed, said⟩ | ⟨attestation, rest, done⟩
  · rw [failed]
    refine .inl ⟨error, after, rfl, ?_⟩
    rw [said]
    exact List.prefix_rfl
  · exact .inr ⟨attestation, rest, done⟩

/-- A client that hears less than the greeting fails and says nothing. -/
theorem reach_unheard {toClient : List UInt8} (part : toClient <+: delivering.greetingBytes)
    (unheard : toClient ≠ delivering.greetingBytes) :
    ∃ error after, (reach delivering).run (opened delivering toClient) = .error error after ∧
      after.stream.output = [] := by
  have line : '\n' ∉ ("ZSMTP 1.0 " ++ delivering.receiverDomain).toList :=
    free_append (by decide) (token_free ready.receiver)
  have fits : (bytes ("ZSMTP 1.0 " ++ delivering.receiverDomain)).length + 2 ≤ maxLine :=
    line_fits ready (by simp [Delivering.lines])
  obtain ⟨free, short⟩ := part_of_line line fits part unheard
  obtain ⟨message, ended⟩ := readLine_truncated free short []
  have failed := onStream_error (opened delivering toClient) ended
  have failed : connect.run (opened delivering toClient) = _ := run_bind_of_error failed
  rw [reach, run_bind_of_error failed]
  exact ⟨_, _, rfl, rfl⟩

end Client

/-! ## How far the server gets -/

/-- What the server has done, and said. -/
structure Halts (delivering : Delivering crypto ω) (world : ω) (toServer : List UInt8)
    (outer : Outer ω) (emitted : List UInt8) : Prop where
  /-- What it has done. -/
  done : (final (delivering.serverEnd world toServer)).outer = outer
  /-- What it has said. -/
  said : delivering.serverOutput world toServer = emitted

/-- A server that hears a part of a line waits for the rest in vain. -/
theorem halts_of_part {delivering : Delivering crypto ω} {world : ω}
    {toServer emitted part : List UInt8} {state : ZsmptSession crypto ω × Outer ω}
    (reached : ∃ lines, delivering.serverEnd world toServer =
      serve (placed state part emitted lines))
    (free : 10 ∉ part) (short : part.length ≤ maxLine) :
    Halts delivering world toServer state.2 emitted := by
  obtain ⟨lines, served⟩ := reached
  have ended := served.trans (serve_end free short emitted lines)
  refine ⟨?_, ?_⟩
  · rw [ended]
    rfl
  · rw [Delivering.serverOutput, ended]
    rfl

/-- The loop over an INVOICE line whose blob is not read. -/
theorem serve_cut {state : ZsmptSession crypto ω × Outer ω} {text sender messageId : String}
    {payload : Payload} (free : '\n' ∉ text.toList) (fits : (bytes text).length + 2 ≤ maxLine)
    (decoded : decodeLine text = .ok (.invoice sender messageId payload []))
    {part input output : List UInt8} {error : FramingError}
    (unread : readBlob.run ⟨part, output⟩ = .error error ⟨input, output⟩) (lines : List String) :
    serve (placed state (bytes text ++ crlf ++ part) output lines) =
      .error error (placed state input output (lines ++ [text])) := by
  have read : readLine.run (placed state (bytes text ++ crlf ++ part) output lines).conn =
      .ok text ⟨part, output⟩ := readLine_text free fits part output
  have failed : (readCommand text).run ⟨part, output⟩ = .error error ⟨input, output⟩ := by
    unfold readCommand
    rw [decoded]
    exact run_bind_of_error unread
  refine serve_error ?_
  rw [turn_line read, dispatch]
  exact run_bind_of_error (onConn_error _ failed)

section Server

variable {delivering : Delivering crypto ω} (ready : delivering.Ready) (world : ω)
include ready

/-- Before ADDR is heard, the server has done nothing. -/
theorem halts_before_addr {toServer : List UInt8} (start : toServer <+: delivering.saidAddr)
    (cut : toServer ≠ delivering.saidAddr) :
    ∃ emitted, Halts delivering world toServer ⟨world, []⟩ emitted ∧
      emitted <+: delivering.toldAuth := by
  have helloLine : '\n' ∉ ("HELLO " ++ delivering.senderDomain).toList :=
    free_append (by decide) (token_free ready.sender)
  have helloFits : (bytes ("HELLO " ++ delivering.senderDomain)).length + 2 ≤ maxLine :=
    line_fits ready (by simp [Delivering.lines])
  have authLine : '\n' ∉ (authLine delivering.challenge).toList :=
    free_append (by decide) fun member => absurd (Base64.whitespace_encode member) (by decide)
  have authFits : (bytes (ZsmptClient.authLine delivering.challenge)).length + 2 ≤ maxLine :=
    line_fits ready (by simp [Delivering.lines])
  have authPart : ∀ {part}, part <+: delivering.authBytes → part ≠ delivering.authBytes →
      10 ∉ part ∧ part.length ≤ maxLine := by
    rw [Delivering.authBytes]
    generalize ZsmptClient.authLine delivering.challenge = line at authLine authFits ⊢
    exact part_of_line authLine authFits
  obtain ⟨addrLine, addrFits, -⟩ := addrLine_read ready
  rw [Delivering.saidAddr] at start cut
  rcases prefix_append_cases start with ⟨start, cut⟩ | ⟨part, rfl, inside⟩
  · rw [Delivering.saidAuth] at start cut
    rcases prefix_append_cases start with ⟨inside, cut⟩ | ⟨part, rfl, inside⟩
    · obtain ⟨free, short⟩ := part_of_line helloLine helloFits inside cut
      refine ⟨_, halts_of_part ⟨[], server_greeting ready world toServer⟩ free short, ?_⟩
      rw [Delivering.toldAuth, Delivering.toldHello, List.append_assoc]
      exact List.prefix_append _ _
    · obtain ⟨free, short⟩ := authPart inside fun same => cut (by rw [same])
      exact ⟨_, halts_of_part (server_said_hello ready world part) free short,
        List.prefix_append _ _⟩
  · obtain ⟨free, short⟩ :=
      part_of_line addrLine addrFits inside fun same => cut (by rw [same]; rfl)
    exact ⟨_, halts_of_part (server_said_auth ready world part) free short, List.prefix_rfl⟩

/-- The server after ADDR for an unknown user. -/
theorem server_said_unknown (unknown : ¬delivering.Known world)
    (short : (bytes delivering.refusal.line.render).length ≤ maxLine) (more : List UInt8) :
    ∃ lines, delivering.serverEnd world (delivering.saidAddr ++ more) =
      serve (placed (delivering.authenticated, delivering.refusedOuter world) more
        (delivering.toldAuth ++ replyBytes delivering.refusal) lines) := by
  obtain ⟨lines, before⟩ := server_said_auth ready world (delivering.addrBytes ++ more)
  rw [Delivering.saidAddr, List.append_assoc]
  exact ⟨_, before.trans (server_refusal ready world unknown short more _ lines)⟩

/-- An INVOICE whose blob is cut is not delivered. -/
theorem halts_in_blob (known : delivering.Known world) {part : List UInt8}
    (start : part <+: blobBytes delivering.invoice.body)
    (cut : part ≠ blobBytes delivering.invoice.body) :
    Halts delivering world (delivering.saidAddr ++
      (bytes (invoiceLine delivering.invoice) ++ crlf ++ part)) (delivering.attestedOuter world)
      (delivering.toldAddr world) := by
  obtain ⟨lines, before⟩ := server_said_addr ready world known
    (bytes (invoiceLine delivering.invoice) ++ crlf ++ part)
  have free : '\n' ∉ (invoiceLine delivering.invoice).toList := invoiceLine_free ready
  have fits : (bytes (invoiceLine delivering.invoice)).length + 2 ≤ maxLine :=
    line_fits ready (by simp [Delivering.lines])
  have decoded := decodeLine_invoice ready.username ready.messageId delivering.invoice.payload
  obtain ⟨error, input, unread⟩ := readBlob_part ready.small start cut (delivering.toldAddr world)
  have ended := before.trans (serve_cut free fits decoded unread lines)
  refine ⟨?_, ?_⟩
  · rw [ended]
    rfl
  · rw [Delivering.serverOutput, ended]
    rfl

/-- Before INVOICE is heard as a whole, nothing is delivered. -/
theorem halts_before_invoice (known : delivering.Known world) {part : List UInt8}
    (start : part <+: invoiceBytes delivering.invoice)
    (cut : part ≠ invoiceBytes delivering.invoice) :
    Halts delivering world (delivering.saidAddr ++ part) (delivering.attestedOuter world)
      (delivering.toldAddr world) := by
  have free : '\n' ∉ (invoiceLine delivering.invoice).toList := invoiceLine_free ready
  have fits : (bytes (invoiceLine delivering.invoice)).length + 2 ≤ maxLine :=
    line_fits ready (by simp [Delivering.lines])
  rw [invoiceBytes] at start cut
  rcases prefix_append_cases start with ⟨inside, cut⟩ | ⟨rest, rfl, inside⟩
  · obtain ⟨free, short⟩ := part_of_line free fits inside cut
    exact halts_of_part (server_said_addr ready world known part) free short
  · exact halts_in_blob ready world known inside fun same => cut (by rw [same])

/-- Once INVOICE is heard as a whole, the invoice is delivered. -/
theorem halts_delivered (known : delivering.Known world) (fits : delivering.OutcomeFits world)
    {part : List UInt8} (start : part <+: quitBytes) :
    ∃ emitted, Halts delivering world (delivering.saidInvoice ++ part)
      (delivering.deliveredOuter world) emitted ∧ delivering.toldOutcome world <+: emitted := by
  by_cases whole : part = quitBytes
  · subst whole
    obtain ⟨after, served, outer, written⟩ := server_quits ready known fits
    refine ⟨delivering.toldOutcome world ++ replyBytes (.status delivering.closingStatus),
      ⟨?_, ?_⟩, List.prefix_append _ _⟩
    · rw [served, final_ok, outer]
    · rw [Delivering.serverOutput, served, final_ok, written]
  · obtain ⟨free, short⟩ := part_of_line (by decide) (by decide) start whole
    exact ⟨_, halts_of_part (server_said_invoice ready world known fits part) free short,
      List.prefix_rfl⟩

end Server

/-! ## What makes the client fail -/

/-- `authenticate` refuses a response to a challenge that is not acceptable. -/
theorem authenticate_stale (crypto : Crypto) (key : crypto.SigningKey) {client : ZsmptClient}
    (phase : client.state = .awaitingAuth) {nonce : Block 16} {issuedAt now : Int64}
    {challenge : Challenge}
    (issued : Challenge.issue client.senderDomain client.receiverDomain nonce issuedAt = challenge)
    (lineFits : (bytes (authLine challenge)).length ≤ maxLine) (carried : challenge.Carried)
    (stale : ¬ChallengeResponse.Acceptable challenge maxChallengeAge now) (signature : List UInt8)
    (small : (bytes (challenge.toWire ++ "|" ++ Hex.encode signature)).length ≤ maxBlob)
    (rest output : List UInt8) :
    ∃ error, (authenticate crypto (crypto.verifyingKey key) nonce issuedAt now).run
        (client.withStream ⟨bytes "250 authenticated" ++ crlf ++ (blobBytes (bytes
          (challenge.toWire ++ "|" ++ Hex.encode signature)) ++ rest), output⟩) =
      .error error (client.withStream ⟨rest, output ++ (bytes (authLine challenge) ++ crlf)⟩) := by
  have written := onStream_ok (client.withStream ⟨bytes "250 authenticated" ++ crlf ++
    (blobBytes (bytes (challenge.toWire ++ "|" ++ Hex.encode signature)) ++ rest), output⟩)
    (writeLine_fits lineFits _)
  have heard := authReply_ok "250 authenticated" (by decide) (by decide) (by decide)
    carried signature small client rest (output ++ (bytes (authLine challenge) ++ crlf))
  rw [authenticate, EStateM.run_bind, EStateM.run_get]
  dsimp only
  rw [if_neg (by simp [phase])]
  simp only [withStream_senderDomain, withStream_receiverDomain, issued]
  rw [run_bind_of_ok written]
  cases verified : checkResponse crypto ⟨challenge, signature⟩ (crypto.verifyingKey key) now with
  | error error =>
    refine ⟨error, (run_bind_of_ok heard).trans ?_⟩
    rw [verified]
    rfl
  | ok value =>
    unfold checkResponse at verified
    split at verified
    · cases verified
    · rename_i accepted
      exact absurd ((ChallengeResponse.verify_ok_iff _ _ _ _ _).mp accepted).1 stale

/-- `request_address` reports a refusal. -/
theorem requestAddress_refused (crypto : Crypto) (json : JsonReader)
    (receiverPub : crypto.VerifyingKey) {client : ZsmptClient}
    (phase : client.state = .authenticated) (user : String)
    (lineFits : (bytes (addrLine user)).length ≤ maxLine) {text : String}
    (free : '\n' ∉ text.toList) (fits : (bytes text).length + 2 ≤ maxLine)
    (other : startsWith text "250 " = false) (rest output : List UInt8) :
    (requestAddress crypto json user .ephemeral receiverPub).run
        (client.withStream ⟨bytes text ++ crlf ++ rest, output⟩) =
      .error (statusError text)
        (client.withStream ⟨rest, output ++ (bytes (addrLine user) ++ crlf)⟩) := by
  have written := onStream_ok (client.withStream ⟨bytes text ++ crlf ++ rest, output⟩)
    (writeLine_fits lineFits _)
  have refused := expectStatus_other text free fits other client rest
    (output ++ (bytes (addrLine user) ++ crlf))
  rw [requestAddress, EStateM.run_bind, EStateM.run_get]
  dsimp only
  rw [if_neg (by simp [phase]), ← addrLine, run_bind_of_ok written]
  exact run_bind_of_error refused

section Fails

variable {delivering : Delivering crypto ω} (ready : delivering.Ready) {world : ω}
include ready

/-- The response to a challenge that is not acceptable is refused. -/
theorem stale_fails (stale : ¬delivering.Fresh) (more : List UInt8) :
    ∃ error after, delivering.clientEnd (delivering.toldAuth ++ more) = .error error after ∧
      after.stream.output = delivering.saidAuth := by
  have lineFits : (bytes (authLine delivering.challenge)).length ≤ maxLine :=
    line_written_fits ready (by simp [Delivering.lines])
  have waiting : (delivering.client .awaitingAuth none [] []).state = .awaitingAuth := rfl
  obtain ⟨error, refused⟩ := authenticate_stale crypto delivering.key waiting rfl lineFits
    (challenge_carried ready) stale _ (response_small ready) more delivering.helloBytes
  rw [← List.append_assoc] at refused
  rw [Delivering.toldAuth, List.append_assoc, client_told_hello ready, Delivering.fromAuth]
  exact ⟨error, _, run_bind_of_error refused, rfl⟩

/-- A refusal of ADDR is reported. -/
theorem refusal_fails (fresh : delivering.Fresh) {text : String} (free : '\n' ∉ text.toList)
    (fits : (bytes text).length + 2 ≤ maxLine) (other : startsWith text "250 " = false)
    (more : List UInt8) :
    ∃ error after, delivering.clientEnd (delivering.toldAuth ++ (bytes text ++ crlf ++ more)) =
      .error error after ∧ after.stream.output = delivering.saidAddr := by
  have lineFits : (bytes (addrLine delivering.invoice.recipientUser)).length ≤ maxLine :=
    line_written_fits ready (by simp [Delivering.lines])
  have asking : (delivering.client .authenticated none [] []).state = .authenticated := rfl
  have refused := requestAddress_refused crypto delivering.json
    (crypto.verifyingKey delivering.key) asking delivering.invoice.recipientUser lineFits free fits
    other more delivering.saidAuth
  rw [client_told_auth ready fresh, Delivering.fromAddr]
  exact ⟨_, _, run_bind_of_error refused, rfl⟩

end Fails

/-! ## Being answered, and success -/

/-- The client is answered up to ADDR. -/
def Reached (delivering : Delivering crypto ω) (toClient : List UInt8) : Prop :=
  ∃ attestation after, (reach delivering).run (opened delivering toClient) = .ok attestation after

/-- The client reports success. -/
def Succeeds (delivering : Delivering crypto ω) (toClient : List UInt8) : Prop :=
  ∃ after, delivering.clientEnd toClient = .ok () after

/-- What is answered stays so when more is heard. -/
theorem Reached.more {delivering : Delivering crypto ω} {toClient : List UInt8}
    (reached : Reached delivering toClient) (more : List UInt8) :
    Reached delivering (toClient ++ more) := by
  obtain ⟨attestation, after, done⟩ := reached
  exact ⟨attestation, _, stable_reach delivering _ _ _ done more⟩

/-- Success is to be answered up to INVOICE; what QUIT is answered does not matter. -/
theorem succeeds_iff {delivering : Delivering crypto ω} {toClient : List UInt8} :
    Succeeds delivering toClient ↔ ∃ after,
      (reach delivering >>= fun _ => deliverInvoice delivering.invoice).run
        (opened delivering toClient) = .ok () after := by
  rw [Succeeds, clientEnd_reach]
  constructor
  · rintro ⟨after, done⟩
    obtain ⟨attestation, middle, before, rest⟩ := run_bind_ok.mp done
    obtain ⟨value, last, sent, -⟩ := run_bind_ok.mp rest
    exact ⟨last, run_bind_ok.mpr ⟨attestation, middle, before, sent⟩⟩
  · rintro ⟨after, done⟩
    obtain ⟨attestation, middle, before, sent⟩ := run_bind_ok.mp done
    exact ⟨_, run_bind_ok.mpr ⟨attestation, middle, before, run_bind_ok.mpr ⟨(), after, sent, rfl⟩⟩⟩

/-- Success stays so when more is heard. -/
theorem Succeeds.more {delivering : Delivering crypto ω} {toClient : List UInt8}
    (succeeds : Succeeds delivering toClient) (more : List UInt8) :
    Succeeds delivering (toClient ++ more) := by
  obtain ⟨after, done⟩ := succeeds_iff.mp succeeds
  have stable : Stable extend (reach delivering >>= fun _ => deliverInvoice delivering.invoice) :=
    stable_bind (stable_reach delivering) fun _ => stable_sendInvoice _ _ _ _
  exact succeeds_iff.mpr ⟨_, stable _ _ _ done more⟩

/-- Success needs to be answered up to ADDR. -/
theorem Succeeds.reached {delivering : Delivering crypto ω} {toClient : List UInt8}
    (succeeds : Succeeds delivering toClient) : Reached delivering toClient := by
  obtain ⟨after, done⟩ := succeeds_iff.mp succeeds
  obtain ⟨attestation, middle, before, -⟩ := run_bind_ok.mp done
  exact ⟨attestation, middle, before⟩

section Says

variable {delivering : Delivering crypto ω} (ready : delivering.Ready)
include ready

/-- What the client says depends on whether it is answered up to ADDR. -/
theorem client_says {toClient : List UInt8} (greeted : delivering.greetingBytes <+: toClient) :
    (¬Reached delivering toClient ∧ delivering.clientOutput toClient <+: delivering.saidAddr) ∨
    (Reached delivering toClient ∧ delivering.saidInvoice <+: delivering.clientOutput toClient ∧
      delivering.clientOutput toClient <+: delivering.saidInvoice ++ quitBytes) := by
  obtain ⟨heard, rfl⟩ := greeted
  rcases reach_cases ready heard with ⟨error, after, failed, said⟩ | ⟨attestation, rest, done⟩
  · refine .inl ⟨?_, ?_⟩
    · rintro ⟨attestation, other, done⟩
      rw [failed] at done
      cases done
    · rw [Delivering.clientOutput, clientEnd_reach, run_bind_of_error failed]
      exact said
  · refine .inr ⟨⟨attestation, _, done⟩, ?_⟩
    rw [Delivering.clientOutput, clientEnd_reach, run_bind_of_ok done, client_invoice ready]
    rcases reads_cases (reads_expectStatus "250 ") (delivering.client .addressed
      (some delivering.invoice.recipientUser) rest
        (delivering.saidAddr ++ invoiceBytes delivering.invoice)) with
      ⟨error, input, failed⟩ | ⟨value, input, heard⟩
    · rw [run_bind_of_error failed]
      exact ⟨List.prefix_rfl, List.prefix_append _ _⟩
    · rw [run_bind_of_ok heard]
      obtain ⟨after, quits, said⟩ := ignore_quit (hearing (delivering.client .addressed
        (some delivering.invoice.recipientUser) rest
          (delivering.saidAddr ++ invoiceBytes delivering.invoice)) input)
      rw [quits, final_ok, said]
      exact ⟨List.prefix_append _ _, List.prefix_rfl⟩

/-- A client that has not said INVOICE is not answered up to ADDR. -/
theorem not_reached {toClient : List UInt8} (greeted : delivering.greetingBytes <+: toClient)
    (said : delivering.clientOutput toClient <+: delivering.saidAddr) :
    ¬Reached delivering toClient := by
  intro reached
  rcases client_says ready greeted with ⟨unreached, -⟩ | ⟨-, invoice, -⟩
  · exact unreached reached
  · have length := (invoice.trans said).length_le
    simp [Delivering.saidInvoice, invoiceBytes, crlf] at length

omit ready in
/-- The greeting comes before the response. -/
theorem greeted_toldAuth (more : List UInt8) :
    delivering.greetingBytes <+: delivering.toldAuth ++ more := by
  rw [Delivering.toldAuth, Delivering.toldHello, List.append_assoc, List.append_assoc]
  exact List.prefix_append _ _

/-- A client whose challenge is stale is not answered up to ADDR. -/
theorem fresh_of_reached {more : List UInt8}
    (reached : Reached delivering (delivering.toldAuth ++ more)) : delivering.Fresh := by
  by_contra stale
  obtain ⟨error, after, failed, said⟩ := stale_fails ready stale more
  refine not_reached ready (greeted_toldAuth more) ?_ reached
  rw [Delivering.clientOutput, failed, final_error, said]
  exact List.prefix_append _ _

/-- A client whose ADDR is refused is not answered. -/
theorem not_reached_refused {text : String} (free : '\n' ∉ text.toList)
    (fits : (bytes text).length + 2 ≤ maxLine) (other : startsWith text "250 " = false)
    (more : List UInt8) :
    ¬Reached delivering (delivering.toldAuth ++ (bytes text ++ crlf ++ more)) := by
  intro reached
  have fresh := fresh_of_reached ready reached
  obtain ⟨error, after, failed, said⟩ := refusal_fails ready fresh free fits other more
  refine not_reached ready (greeted_toldAuth _) ?_ reached
  rw [Delivering.clientOutput, failed, final_error, said]

end Says

/-! ## What the dialogue comes to -/

/-- What the two ends make of a connection that may break. -/
inductive Comes (delivering : Delivering crypto ω) (world : ω) (toClient toServer : List UInt8) :
    Prop
  /-- The invoice is delivered. Success means that it is accepted, and a client that hears the
  acceptance succeeds. -/
  | delivered (arrived : delivering.saidInvoice <+: toServer)
    (outer : (final (delivering.serverEnd world toServer)).outer = delivering.deliveredOuter world)
    (accepted : Succeeds delivering toClient → ∃ messageId,
      delivering.outcome world = .accepted messageId)
    (heard : ∀ messageId, delivering.outcome world = .accepted messageId →
      delivering.toldOutcome world <+: toClient → Succeeds delivering toClient)
  /-- The invoice is not delivered, and the client does not succeed. -/
  | undelivered (missed : ¬delivering.saidInvoice <+: toServer)
    (untouched : (final (delivering.serverEnd world toServer)).outer ∈
      [⟨world, []⟩, delivering.asked world, delivering.attestedOuter world])
    (fails : ¬Succeeds delivering toClient)

section Comes

variable {delivering : Delivering crypto ω} (ready : delivering.Ready) {world : ω}
  (refusable : (bytes delivering.refusal.line.render).length + 2 ≤ maxLine)
  {toClient toServer : List UInt8}
  (lossy : Lossy delivering.clientOutput (delivering.serverOutput world) toClient toServer)
include ready

omit ready in
/-- What is not all of INVOICE does not start with it. -/
theorem not_arrived {part : List UInt8} (start : part <+: invoiceBytes delivering.invoice)
    (cut : part ≠ invoiceBytes delivering.invoice) :
    ¬delivering.saidInvoice <+: delivering.saidAddr ++ part := by
  intro arrived
  rw [Delivering.saidInvoice, List.prefix_append_right_inj] at arrived
  exact cut (start.eq_of_length_le arrived.length_le)

include lossy in
/-- The client has heard the greeting, or not all of it. -/
theorem greeting_cases :
    delivering.greetingBytes <+: toClient ∨
      (toClient <+: delivering.greetingBytes ∧ toClient ≠ delivering.greetingBytes) := by
  have greeting : Emits (delivering.serverOutput world) [] delivering.greetingBytes :=
    server_emits fun more => ⟨[], server_greeting ready world more⟩
  exact lossy.symm.hears greeting List.nil_prefix

include lossy in
/-- A client that is not answered up to ADDR says nothing after it. -/
theorem unreached_says (unreached : ¬Reached delivering toClient) :
    toServer <+: delivering.saidAddr := by
  rcases greeting_cases ready lossy with greeted | ⟨part, unheard⟩
  · rcases client_says ready greeted with ⟨-, said⟩ | ⟨reached, -, -⟩
    · exact lossy.fromLeft.trans said
    · exact absurd reached unreached
  · obtain ⟨error, after, failed, silent⟩ := reach_unheard ready part unheard
    have nothing := lossy.fromLeft
    rw [Delivering.clientOutput, clientEnd_reach, run_bind_of_error failed, final_error,
      silent] at nothing
    exact nothing.trans List.nil_prefix

include lossy in
/-- A client that is answered up to ADDR has heard the greeting. -/
theorem reached_greeted (reached : Reached delivering toClient) :
    delivering.greetingBytes <+: toClient := by
  rcases greeting_cases ready lossy with greeted | ⟨part, unheard⟩
  · exact greeted
  · obtain ⟨error, after, failed, -⟩ := reach_unheard ready part unheard
    obtain ⟨attestation, other, done⟩ := reached
    rw [failed] at done
    cases done

/-- The refusal of ADDR is a line that is no success. -/
theorem refusal_line :
    ∃ status, delivering.refusal = .status status ∧ '\n' ∉ status.render.toList ∧
      startsWith status.render "250 " = false := by
  unfold Delivering.refusal
  split
  · exact ⟨_, rfl, by decide, by decide⟩
  · exact ⟨_, rfl, refusal_free (.inl rfl) (free_append (by decide) ready.userFree),
      refusal_other (.inl rfl) _⟩

include refusable lossy in
/-- A client that is answered up to ADDR has asked for a user that is known, in time. -/
theorem reached_known (reached : Reached delivering toClient) :
    delivering.Known world ∧ delivering.Fresh ∧ delivering.saidAddr <+: toServer := by
  have greeted := reached_greeted ready lossy reached
  have refused : ¬Reached delivering (delivering.toldAuth ++ (bytes "550 no" ++ crlf ++ [])) :=
    not_reached_refused ready (by decide) (by decide) (by decide) []
  have heard : delivering.saidAddr <+: toServer := by
    rcases client_says ready greeted with ⟨unreached, -⟩ | ⟨-, said, -⟩
    · exact absurd reached unreached
    · have said : delivering.saidAddr <+: delivering.clientOutput toClient :=
        (List.prefix_append _ _).trans said
      rcases List.prefix_or_prefix_of_prefix lossy.fromLeft said with start | whole
      · by_cases whole : toServer = delivering.saidAddr
        · rw [whole]
        · -- The server has said no more than its response, and a refusal could follow.
          obtain ⟨emitted, halts, short⟩ := halts_before_addr ready world start whole
          have short : toClient <+: delivering.toldAuth :=
            (halts.said ▸ lossy.fromRight : toClient <+: emitted).trans short
          obtain ⟨missing, same⟩ := short
          refine absurd ?_ refused
          rw [← same, List.append_assoc]
          exact reached.more _
      · exact whole
  obtain ⟨rest, rfl⟩ := heard
  obtain ⟨unheard, told⟩ := lossy.fromRight
  have reached := reached.more unheard
  rw [told] at reached
  by_cases known : delivering.Known world
  · obtain ⟨more, emitted⟩ := server_emits (server_said_addr ready world known) rest
    rw [← emitted, Delivering.toldAddr, List.append_assoc] at reached
    exact ⟨known, fresh_of_reached ready reached, List.prefix_append _ _⟩
  · have fits : (bytes delivering.refusal.line.render).length ≤ maxLine := by omega
    obtain ⟨more, emitted⟩ := server_emits (server_said_unknown ready world known fits) rest
    obtain ⟨status, refusal, free, other⟩ := refusal_line ready
    rw [refusal] at refusable
    rw [← emitted, refusal, replyBytes, List.append_assoc] at reached
    exact absurd reached (not_reached_refused ready free refusable other more)

/-- A client that hears no more than the attestation does not succeed. -/
theorem not_succeeds (fresh : delivering.Fresh) (short : toClient <+: delivering.toldAddr world) :
    ¬Succeeds delivering toClient := by
  intro succeeds
  obtain ⟨missing, same⟩ := short
  obtain ⟨after, done⟩ := succeeds.more (missing ++ (bytes "550 no" ++ crlf ++ []))
  have refused : (expectStatus "250 ").run (delivering.client .addressed
      (some delivering.invoice.recipientUser) (bytes "550 no" ++ crlf ++ [])
        (delivering.saidAddr ++ invoiceBytes delivering.invoice)) = .error (statusError "550 no")
      (delivering.client .addressed (some delivering.invoice.recipientUser) []
        (delivering.saidAddr ++ invoiceBytes delivering.invoice)) :=
    expectStatus_other "550 no" (by decide) (by decide) (by decide)
      (delivering.client .addressed (some delivering.invoice.recipientUser) [] []) [] _
  rw [← List.append_assoc, same, client_told_addr ready world fresh, client_invoice ready,
    run_bind_of_error refused] at done
  cases done

/-- Where the server stops once it has heard nothing after ADDR. -/
theorem untouched_up_to_addr
    (refusable : (bytes delivering.refusal.line.render).length + 2 ≤ maxLine)
    (start : toServer <+: delivering.saidAddr) :
    (final (delivering.serverEnd world toServer)).outer ∈
      [⟨world, []⟩, delivering.asked world, delivering.attestedOuter world] := by
  by_cases whole : toServer = delivering.saidAddr
  · obtain rfl : toServer = delivering.saidAddr ++ [] := by rw [whole, List.append_nil]
    by_cases known : delivering.Known world
    · have halts := halts_of_part (server_said_addr ready world known []) List.not_mem_nil
        (Nat.zero_le _)
      rw [halts.done]
      simp
    · have fits : (bytes delivering.refusal.line.render).length ≤ maxLine := by omega
      have halts := halts_of_part (server_said_unknown ready world known fits []) List.not_mem_nil
        (Nat.zero_le _)
      rw [halts.done, Delivering.refusedOuter]
      split
      · simp
      · simp
  · obtain ⟨emitted, halts, -⟩ := halts_before_addr ready world start whole
    rw [halts.done]
    simp

include refusable lossy in
/-- Whatever of the two streams is lost, the dialogue comes to one of these. -/
theorem lossy_comes (fits : delivering.OutcomeFits world)
    (single : ReasonsFree (delivering.outcome world)) :
    Comes delivering world toClient toServer := by
  by_cases reached : Reached delivering toClient
  · obtain ⟨known, fresh, rest, rfl⟩ := reached_known ready refusable lossy reached
    have greeted := reached_greeted ready lossy reached
    have said : rest <+: invoiceBytes delivering.invoice ++ quitBytes := by
      rcases client_says ready greeted with ⟨unreached, -⟩ | ⟨-, -, said⟩
      · exact absurd reached unreached
      · have said := lossy.fromLeft.trans said
        rw [Delivering.saidInvoice, List.append_assoc] at said
        exact (List.prefix_append_right_inj _).mp said
    rcases prefix_append_cases said with ⟨start, cut⟩ | ⟨part, rfl, start⟩
    · have halts := halts_before_invoice ready world known start cut
      refine .undelivered (not_arrived start cut) ?_ ?_
      · rw [halts.done]
        simp
      · exact not_succeeds ready fresh (halts.said ▸ lossy.fromRight)
    · have arrived : delivering.saidAddr ++ (invoiceBytes delivering.invoice ++ part) =
          delivering.saidInvoice ++ part := by
        rw [Delivering.saidInvoice, List.append_assoc]
      rw [arrived] at lossy ⊢
      obtain ⟨emitted, halts, told⟩ := halts_delivered ready world known fits start
      obtain ⟨request, reply, settled⟩ := settles ready fresh known fits single
      refine .delivered (List.prefix_append _ _) halts.done ?_ ?_
      · intro succeeds
        obtain ⟨unheard, same⟩ : toClient <+: emitted := halts.said ▸ lossy.fromRight
        obtain ⟨more, same'⟩ := told
        have succeeds := succeeds.more unheard
        rw [same, ← same'] at succeeds
        exact (settled.reported more).ok.mp succeeds
      · rintro messageId accepted ⟨more, rfl⟩
        exact (settled.reported more).ok.mpr ⟨messageId, accepted⟩
  · have start := unreached_says ready lossy reached
    refine .undelivered ?_ (untouched_up_to_addr ready refusable start)
      fun succeeds => reached succeeds.reached
    intro arrived
    have length := (arrived.trans start).length_le
    simp [Delivering.saidInvoice, invoiceBytes, crlf] at length

end Comes

end Talk.Verif.LossyDialogue
