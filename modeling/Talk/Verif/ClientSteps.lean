import Talk.Protocol.Client

/-!
# The steps of the client

Each step writes one request before it reads. So its request is on the stream whatever the
server answers, and when the expected answer is there the step consumes exactly that.
-/

namespace Talk.Verif.ClientSteps

open Protocol ByteStream Text Hex ZsmptClient
open Utf8 (bytes)

/-! ## Going forward -/

/-- A framing operation goes forward on the client's stream. -/
theorem forward_onStream {α : Type} {action : EStateM FramingError Conn α}
    (forward : Forward id action) : Forward ZsmptClient.stream (onStream action) := by
  intro client
  have step := forward client.stream
  cases done : action.run client.stream with
  | ok value stream =>
    rw [done] at step
    rw [onStream_ok client done]
    exact step
  | error error stream =>
    rw [done] at step
    rw [onStream_error client done]
    exact step

/-- Returning a value or failing goes forward. -/
theorem forward_ofExcept {α : Type} (result : Except ClientError α) :
    Forward ZsmptClient.stream (ofExcept result) := by
  cases result with
  | ok value => exact forward_pure value
  | error error => exact forward_throw error

/-- Reading a status goes forward. -/
theorem forward_expectStatus (start : String) :
    Forward ZsmptClient.stream (expectStatus start) :=
  forward_bind (forward_onStream forward_readLine) fun _ =>
    forward_ite (forward_pure _) (forward_throw _)

/-- Reading an AUTH reply goes forward. -/
theorem forward_authReply : Forward ZsmptClient.stream authReply :=
  forward_bind (forward_expectStatus _) fun _ =>
    forward_bind (forward_onStream forward_readBlob) fun _ => forward_ofExcept _

/-- `authenticate` goes forward. -/
theorem forward_authenticate (crypto : Crypto) (receiverPub : crypto.VerifyingKey)
    (nonce : Block 16) (issuedAt now : Int64) :
    Forward ZsmptClient.stream (authenticate crypto receiverPub nonce issuedAt now) :=
  forward_bind forward_get fun _ => forward_ite (forward_throw _) <|
    forward_bind (forward_onStream (forward_writeLine _)) fun _ =>
      forward_bind forward_authReply fun _ =>
        forward_bind (forward_ofExcept _) fun _ => forward_modify fun _ => rfl

/-- `request_address` goes forward. -/
theorem forward_requestAddress (crypto : Crypto) (json : JsonReader) (user : String)
    (mode : AttestationMode) (receiverPub : crypto.VerifyingKey) :
    Forward ZsmptClient.stream (requestAddress crypto json user mode receiverPub) :=
  forward_bind forward_get fun _ => forward_ite (forward_throw _) <|
    forward_bind (forward_onStream (forward_writeLine _)) fun _ =>
      forward_bind (forward_expectStatus _) fun _ =>
        forward_bind (forward_onStream forward_readBlob) fun _ =>
          forward_bind (forward_ofExcept _) fun _ =>
            forward_bind (forward_modify fun _ => rfl) fun _ => forward_pure _

/-- `send_invoice` goes forward. -/
theorem forward_sendInvoice (senderUsername messageId : String) (payload : Payload)
    (body : List UInt8) :
    Forward ZsmptClient.stream (sendInvoice senderUsername messageId payload body) :=
  forward_bind forward_get fun _ => forward_ite (forward_throw _) <|
    forward_bind (forward_onStream (forward_writeLine _)) fun _ =>
      forward_bind (forward_onStream (forward_writeBlob _)) fun _ => forward_expectStatus _

/-- QUIT goes forward. -/
theorem forward_ignore_quit : Forward ZsmptClient.stream (ignore quit) := fun client =>
  (forward_bind (forward_onStream (forward_writeLine _)) fun _ => forward_expectStatus _ :
    Forward ZsmptClient.stream quit) client

/-! ## The request is written first -/

/-- A program that starts with a write has written it, whatever follows. -/
theorem line_written {α : Type} {line : String} (fits : (bytes line).length ≤ maxLine)
    {rest : Unit → EStateM ClientError ZsmptClient α}
    (forward : ∀ value, Forward ZsmptClient.stream (rest value)) (client : ZsmptClient) :
    client.stream.output ++ (bytes line ++ crlf) <+:
      (final ((onStream (writeLine line) >>= rest).run client)).stream.output := by
  have written := onStream_ok client (writeLine_fits fits client.stream)
  have kept : (final ((onStream (writeLine line)).run client)).stream.output <+:
      (final ((onStream (writeLine line) >>= rest).run client)).stream.output :=
    forward_extends forward client
  rwa [written] at kept

/-- `hello` writes its line. -/
theorem hello_written {client : ZsmptClient} (phase : client.state = .connected)
    (fits : (bytes ("HELLO " ++ client.senderDomain)).length ≤ maxLine) :
    client.stream.output ++ (bytes ("HELLO " ++ client.senderDomain) ++ crlf) <+:
      (final (hello.run client)).stream.output := by
  rw [hello, EStateM.run_bind, EStateM.run_get]
  dsimp only
  rw [if_neg (by simp [phase])]
  refine line_written fits (fun _ => ?_) client
  exact forward_bind (forward_expectStatus _) fun _ => forward_modify fun _ => rfl

/-- `authenticate` writes its line. -/
theorem authenticate_written (crypto : Crypto) (receiverPub : crypto.VerifyingKey)
    {client : ZsmptClient} (phase : client.state = .awaitingAuth) {nonce : Block 16}
    {issuedAt : Int64} (now : Int64) {challenge : Challenge}
    (issued : Challenge.issue client.senderDomain client.receiverDomain nonce issuedAt = challenge)
    (fits : (bytes (authLine challenge)).length ≤ maxLine) :
    client.stream.output ++ (bytes (authLine challenge) ++ crlf) <+:
      (final ((authenticate crypto receiverPub nonce issuedAt now).run client)).stream.output := by
  rw [authenticate, EStateM.run_bind, EStateM.run_get]
  dsimp only
  rw [if_neg (by simp [phase]), issued]
  generalize authLine challenge = line at fits ⊢
  refine line_written fits (fun _ => ?_) client
  exact forward_bind forward_authReply fun _ =>
    forward_bind (forward_ofExcept _) fun _ => forward_modify fun _ => rfl

/-- The line `request_address` writes. -/
def addrLine (user : String) : String := "ADDR " ++ AttestationMode.ephemeral.word ++ " " ++ user

/-- `request_address` writes its line. -/
theorem requestAddress_written (crypto : Crypto) (json : JsonReader)
    (receiverPub : crypto.VerifyingKey) {client : ZsmptClient}
    (phase : client.state = .authenticated) (user : String)
    (fits : (bytes (addrLine user)).length ≤ maxLine) :
    client.stream.output ++ (bytes (addrLine user) ++ crlf) <+:
      (final ((requestAddress crypto json user .ephemeral receiverPub).run
        client)).stream.output := by
  rw [requestAddress, EStateM.run_bind, EStateM.run_get]
  dsimp only
  rw [if_neg (by simp [phase]), ← addrLine]
  refine line_written fits (fun _ => ?_) client
  exact forward_bind (forward_expectStatus _) fun _ =>
    forward_bind (forward_onStream forward_readBlob) fun _ =>
      forward_bind (forward_ofExcept _) fun _ =>
        forward_bind (forward_modify fun _ => rfl) fun _ => forward_pure _

/-- The line `send_invoice` writes. -/
def invoiceLine (invoice : Invoice) : String :=
  "INVOICE " ++ invoice.senderUsername ++ " " ++ invoice.messageId ++ " " ++ invoice.payload.word

/-- The bytes `send_invoice` writes. -/
def invoiceBytes (invoice : Invoice) : List UInt8 :=
  bytes (invoiceLine invoice) ++ crlf ++ blobBytes invoice.body

/-- `send_invoice` for an invoice. -/
def deliverInvoice (invoice : Invoice) : EStateM ClientError ZsmptClient Unit :=
  sendInvoice invoice.senderUsername invoice.messageId invoice.payload invoice.body

/-- `send_invoice` writes its line and its blob, then reads. -/
theorem sendInvoice_run {client : ZsmptClient} (phase : client.state = .addressed)
    {invoice : Invoice} (fits : (bytes (invoiceLine invoice)).length ≤ maxLine)
    (small : invoice.body.length ≤ maxBlob) :
    (deliverInvoice invoice).run client =
      (expectStatus "250 ").run
        (client.withStream (client.stream.write (invoiceBytes invoice))) := by
  have written := onStream_ok client (writeLine_fits fits client.stream)
  have blob := onStream_ok
    (client.withStream (client.stream.write (bytes (invoiceLine invoice) ++ crlf)))
    (writeBlob_fits small _)
  rw [deliverInvoice, sendInvoice, EStateM.run_bind, EStateM.run_get]
  dsimp only
  rw [if_neg (by simp [phase]), ← invoiceLine, EStateM.run_bind, written]
  dsimp only
  rw [EStateM.run_bind, blob]
  simp only [withStream_withStream, withStream_stream, Conn.write, invoiceBytes,
    List.append_assoc]

/-- `send_invoice` writes its request. -/
theorem sendInvoice_written {client : ZsmptClient} (phase : client.state = .addressed)
    {invoice : Invoice} (fits : (bytes (invoiceLine invoice)).length ≤ maxLine)
    (small : invoice.body.length ≤ maxBlob) :
    client.stream.output ++ invoiceBytes invoice <+:
      (final ((deliverInvoice invoice).run client)).stream.output := by
  rw [sendInvoice_run phase fits small]
  exact (forward_expectStatus "250 "
    (client.withStream (client.stream.write (invoiceBytes invoice)))).2

/-! ## The expected answer is consumed -/

/-- A line that greets is consumed and gives the receiver's domain. -/
theorem connect_line (client : ZsmptClient) {line : LineWire} {domain : String}
    (named : domain ≠ "") (greets : line.text = "ZSMTP 1.0 " ++ domain)
    (rest output : List UInt8) :
    connect.run (client.withStream ⟨line.wire ++ rest, output⟩) =
      .ok () ({ client with receiverDomain := domain }.withStream ⟨rest, output⟩) := by
  have read := onStream_ok (client.withStream ⟨line.wire ++ rest, output⟩)
    (readLine_wire line rest output)
  have found : greetingDomain line.text = .ok domain := by
    simp only [greets, greetingDomain, stripStart_append, named, ↓reduceIte]
  simp only [connect, EStateM.run_bind, read, found, ZsmptClient.ofExcept, EStateM.run_pure,
    withStream_withStream]
  rfl

/-- The greeting is consumed and gives the receiver's domain. -/
theorem connect_ok (client : ZsmptClient) {domain : String} (named : domain ≠ "")
    (free : '\n' ∉ ("ZSMTP 1.0 " ++ domain).toList)
    (fits : (bytes ("ZSMTP 1.0 " ++ domain)).length + 2 ≤ maxLine) (rest output : List UInt8) :
    connect.run (client.withStream ⟨bytes ("ZSMTP 1.0 " ++ domain) ++ crlf ++ rest, output⟩) =
      .ok () ({ client with receiverDomain := domain }.withStream ⟨rest, output⟩) := by
  rw [← LineWire.wire_ofText _ free fits]
  exact connect_line client named rfl rest output

/-- `hello` consumes its status. -/
theorem hello_ok {client : ZsmptClient} (phase : client.state = .connected)
    (lineFits : (bytes ("HELLO " ++ client.senderDomain)).length ≤ maxLine) {status : String}
    (free : '\n' ∉ status.toList) (fits : (bytes status).length + 2 ≤ maxLine)
    (starts : startsWith status "250 " = true) (rest output : List UInt8) :
    hello.run (client.withStream ⟨bytes status ++ crlf ++ rest, output⟩) =
      .ok () ({ client with state := .awaitingAuth }.withStream
        ⟨rest, output ++ (bytes ("HELLO " ++ client.senderDomain) ++ crlf)⟩) := by
  have written := onStream_ok (client.withStream ⟨bytes status ++ crlf ++ rest, output⟩)
    (writeLine_fits lineFits _)
  have heard := expectStatus_ok status free fits starts client rest
    (output ++ (bytes ("HELLO " ++ client.senderDomain) ++ crlf))
  refine run_bind_ok.mpr ⟨_, _, rfl, ?_⟩
  rw [if_neg (by simp [phase])]
  refine run_bind_ok.mpr ⟨(), _, written, ?_⟩
  exact run_bind_ok.mpr ⟨(), _, heard, rfl⟩

/-- `authenticate` consumes a response that verifies. -/
theorem authenticate_heard (crypto : Crypto) {receiverPub : crypto.VerifyingKey}
    {client : ZsmptClient} (phase : client.state = .awaitingAuth) {nonce : Block 16}
    {issuedAt now : Int64} {challenge : Challenge}
    (issued : Challenge.issue client.senderDomain client.receiverDomain nonce issuedAt = challenge)
    (lineFits : (bytes (authLine challenge)).length ≤ maxLine) {blob : List UInt8}
    (small : blob.length ≤ maxBlob) {response : ChallengeResponse}
    (carries : responseOf blob = .ok response)
    (verified : response.verify crypto receiverPub maxChallengeAge now = .ok ())
    (rest output : List UInt8) :
    (authenticate crypto receiverPub nonce issuedAt now).run
        (client.withStream ⟨bytes "250 authenticated" ++ crlf ++ (blobBytes blob ++ rest),
          output⟩) =
      .ok () ({ client with state := .authenticated }.withStream
        ⟨rest, output ++ (bytes (authLine challenge) ++ crlf)⟩) := by
  have written := onStream_ok
    (client.withStream ⟨bytes "250 authenticated" ++ crlf ++ (blobBytes blob ++ rest), output⟩)
    (writeLine_fits lineFits _)
  have status := expectStatus_ok "250 authenticated" (by decide) (by decide)
    (by decide : startsWith "250 authenticated" "250 " = true) client (blobBytes blob ++ rest)
    (output ++ (bytes (authLine challenge) ++ crlf))
  have heard : authReply.run (client.withStream ⟨bytes "250 authenticated" ++ crlf ++
      (blobBytes blob ++ rest), output ++ (bytes (authLine challenge) ++ crlf)⟩) =
      .ok response (client.withStream ⟨rest, output ++ (bytes (authLine challenge) ++ crlf)⟩) := by
    simp only [authReply, EStateM.run_bind, status, onStream_readBlob small, carries,
      ZsmptClient.ofExcept, EStateM.run_pure]
  have checked : checkResponse crypto response receiverPub now = .ok () := by
    rw [checkResponse, verified]
  refine run_bind_ok.mpr ⟨_, _, rfl, ?_⟩
  rw [if_neg (by simp [phase])]
  simp only [withStream_senderDomain, withStream_receiverDomain, issued]
  refine run_bind_ok.mpr ⟨(), _, written, ?_⟩
  refine run_bind_ok.mpr ⟨_, _, heard, ?_⟩
  rw [checked]
  rfl

/-- `authenticate` consumes the receiver's response and verifies it. -/
theorem authenticate_ok (crypto : Crypto) (key : crypto.SigningKey) {client : ZsmptClient}
    (phase : client.state = .awaitingAuth) {nonce : Block 16} {issuedAt now : Int64}
    {challenge : Challenge}
    (issued : Challenge.issue client.senderDomain client.receiverDomain nonce issuedAt = challenge)
    (lineFits : (bytes (authLine challenge)).length ≤ maxLine) (carried : challenge.Carried)
    (acceptable : ChallengeResponse.Acceptable challenge maxChallengeAge now)
    (small : (bytes (challenge.toWire ++ "|" ++ Hex.encode
      (ChallengeResponse.respond crypto challenge key).signature)).length ≤ maxBlob)
    (rest output : List UInt8) :
    (authenticate crypto (crypto.verifyingKey key) nonce issuedAt now).run
        (client.withStream ⟨bytes "250 authenticated" ++ crlf ++ (blobBytes (bytes
          (challenge.toWire ++ "|" ++ Hex.encode
            (ChallengeResponse.respond crypto challenge key).signature)) ++ rest), output⟩) =
      .ok () ({ client with state := .authenticated }.withStream
        ⟨rest, output ++ (bytes (authLine challenge) ++ crlf)⟩) :=
  authenticate_heard crypto phase issued lineFits small (responseOf_wire carried _)
    (ChallengeResponse.verify_respond crypto key acceptable) rest output

/-- `request_address` consumes an attestation that verifies. -/
theorem requestAddress_heard (crypto : Crypto) (json : JsonReader)
    {receiverPub : crypto.VerifyingKey} {client : ZsmptClient}
    (phase : client.state = .authenticated) {user : String} {mode : AttestationMode}
    (lineFits : (bytes ("ADDR " ++ mode.word ++ " " ++ user)).length ≤ maxLine)
    {blob : List UInt8} (small : blob.length ≤ maxBlob) {attestation : Attestation}
    (carries : attestationOf crypto json blob receiverPub client.receiverDomain = .ok attestation)
    (rest output : List UInt8) :
    (requestAddress crypto json user mode receiverPub).run
        (client.withStream ⟨bytes "250 address attestation" ++ crlf ++ (blobBytes blob ++ rest),
          output⟩) =
      .ok attestation ({ client with addrUser := some user, state := .addressed }.withStream
        ⟨rest, output ++ (bytes ("ADDR " ++ mode.word ++ " " ++ user) ++ crlf)⟩) := by
  have written := onStream_ok (client.withStream ⟨bytes "250 address attestation" ++ crlf ++
    (blobBytes blob ++ rest), output⟩) (writeLine_fits lineFits _)
  have status := expectStatus_ok "250 address attestation" (by decide) (by decide)
    (by decide : startsWith "250 address attestation" "250 " = true) client
    (blobBytes blob ++ rest)
    (output ++ (bytes ("ADDR " ++ mode.word ++ " " ++ user) ++ crlf))
  have read := onStream_readBlob small client rest
    (output ++ (bytes ("ADDR " ++ mode.word ++ " " ++ user) ++ crlf))
  refine run_bind_ok.mpr ⟨_, _, rfl, ?_⟩
  rw [if_neg (by simp [phase])]
  refine run_bind_ok.mpr ⟨(), _, written, ?_⟩
  refine run_bind_ok.mpr ⟨(), _, status, ?_⟩
  refine run_bind_ok.mpr ⟨_, _, read, ?_⟩
  rw [withStream_receiverDomain, carries]
  rfl

/-- `request_address` consumes the receiver's attestation and verifies it. -/
theorem requestAddress_ok (crypto : Crypto) (json : JsonReader) (key : crypto.SigningKey)
    {client : ZsmptClient} (phase : client.state = .authenticated) (user address pubkey : String)
    (lineFits : (bytes (addrLine user)).length ≤ maxLine) {attestation : Attestation}
    (signed : Attestation.sign crypto client.receiverDomain user .ephemeral address pubkey key =
      attestation)
    (small : (bytes attestation.toJson).length ≤ maxBlob) (rest output : List UInt8) :
    (requestAddress crypto json user .ephemeral (crypto.verifyingKey key)).run
        (client.withStream ⟨bytes "250 address attestation" ++ crlf ++
          (blobBytes (bytes attestation.toJson) ++ rest), output⟩) =
      .ok attestation ({ client with addrUser := some user, state := .addressed }.withStream
        ⟨rest, output ++ (bytes (addrLine user) ++ crlf)⟩) := by
  have verified : attestationOf crypto json (bytes attestation.toJson) (crypto.verifyingKey key)
      client.receiverDomain = .ok attestation := by
    have genuine := Attestation.verify_sign crypto client.receiverDomain user .ephemeral address
      pubkey key
    rw [signed] at genuine
    simp only [attestationOf, Attestation.fromJson, Utf8.fromUtf8Lossy_bytes, json.read_toJson,
      genuine]
  exact requestAddress_heard crypto json phase lineFits small verified rest output

/-- Reading a status writes nothing. -/
theorem expectStatus_output (start : String) (client : ZsmptClient) :
    (final ((expectStatus start).run client)).stream.output = client.stream.output := by
  have kept := congrArg Conn.output (readLine_final client.stream)
  rw [expectStatus, EStateM.run_bind]
  cases read : readLine.run client.stream with
  | ok line stream =>
    rw [read] at kept
    rw [onStream_ok client read]
    dsimp only
    split
    · exact kept
    · exact kept
  | error error stream =>
    rw [read] at kept
    rw [onStream_error client read]
    exact kept

/-- QUIT is written and whatever follows is ignored. -/
theorem ignore_quit (client : ZsmptClient) :
    ∃ after, (ignore quit).run client = .ok () after ∧
      after.stream.output = client.stream.output ++ (bytes "QUIT" ++ crlf) := by
  refine ⟨_, rfl, ?_⟩
  have written := onStream_ok client
    (writeLine_fits (by decide : (bytes "QUIT").length ≤ maxLine) client.stream)
  change (final (quit.run client)).stream.output = _
  rw [quit, EStateM.run_bind, written]
  exact expectStatus_output "221 " _

/-! ## What a step that returns has done -/

/-- The domains of the session are the same. -/
def SameDomains (client after : ZsmptClient) : Prop :=
  after.senderDomain = client.senderDomain ∧ after.receiverDomain = client.receiverDomain

/-- The domains stay the same along two steps. -/
theorem SameDomains.trans {first second third : ZsmptClient} (one : SameDomains first second)
    (two : SameDomains second third) : SameDomains first third :=
  ⟨two.1.trans one.1, two.2.trans one.2⟩

/-- A status that is read changes only the stream. -/
theorem expectStatus_done {start : String} {client after : ZsmptClient}
    (done : (expectStatus start).run client = .ok () after) :
    ∃ stream, after = client.withStream stream := by
  obtain ⟨status, middle, read, done⟩ := run_bind_ok.mp done
  obtain ⟨stream, -, rfl⟩ := onStream_ok_iff.mp read
  split at done
  · cases done
    exact ⟨stream, rfl⟩
  · cases done

/-- A value that is returned was there. -/
theorem ofExcept_done {α : Type} {result : Except ClientError α} {client after : ZsmptClient}
    {value : α} (done : (ZsmptClient.ofExcept result).run client = .ok value after) :
    result = .ok value ∧ after = client := by
  cases result with
  | error error => cases done
  | ok found =>
    cases done
    exact ⟨rfl, rfl⟩

/-- `connect` has read a greeting that names a domain. -/
theorem connect_done {client after : ZsmptClient} (done : connect.run client = .ok () after) :
    ∃ (line : LineWire) (domain : String) (stream : Conn), domain ≠ "" ∧
      line.text = "ZSMTP 1.0 " ++ domain ∧
      client.stream = ⟨line.wire ++ stream.input, stream.output⟩ ∧
      after = { client with receiverDomain := domain }.withStream stream := by
  obtain ⟨greeting, middle, read, done⟩ := run_bind_ok.mp done
  obtain ⟨stream, heard, rfl⟩ := onStream_ok_iff.mp read
  obtain ⟨line, rfl, whole⟩ := readLine_line heard
  obtain ⟨domain, _, found, moved⟩ := run_bind_ok.mp done
  obtain ⟨found, rfl⟩ := ofExcept_done found
  cases moved
  unfold greetingDomain at found
  split at found
  · cases found
  rename_i receiver stripped
  split at found
  · cases found
  rename_i named
  cases found
  exact ⟨line, domain, stream, named, eq_append_of_stripStart stripped, whole, rfl⟩

/-- A step that was done was in order, has written its line, and its rest was done. -/
theorem ordered_done {α : Type} {phase : ClientState} {message : String}
    {line : ZsmptClient → String} {rest : ZsmptClient → EStateM ClientError ZsmptClient α}
    {client after : ZsmptClient} {value : α}
    (done : (get >>= fun client : ZsmptClient =>
      if client.state ≠ phase then throw (.order message)
      else onStream (writeLine (line client)) >>= fun _ => rest client : EStateM ClientError
        ZsmptClient α).run client = .ok value after) :
    client.state = phase ∧ (bytes (line client)).length ≤ maxLine ∧
      ∃ stream, (rest client).run (client.withStream stream) = .ok value after := by
  obtain ⟨_, _, got, done⟩ := run_bind_ok.mp done
  obtain ⟨rfl, rfl⟩ := EStateM.Result.ok.inj got
  split at done
  · cases done
  rename_i ordered
  obtain ⟨_, _, sent, done⟩ := run_bind_ok.mp done
  obtain ⟨stream, written, rfl⟩ := onStream_ok_iff.mp sent
  obtain ⟨fits, -⟩ := writeLine_ok_iff.mp written
  exact ⟨not_not.mp ordered, fits, stream, done⟩

/-- `hello` has written its line and read a status. -/
theorem hello_done {client after : ZsmptClient} (done : hello.run client = .ok () after) :
    (bytes ("HELLO " ++ client.senderDomain)).length ≤ maxLine ∧ SameDomains client after := by
  obtain ⟨-, fits, _, done⟩ := ordered_done done
  obtain ⟨_, _, heard, moved⟩ := run_bind_ok.mp done
  obtain ⟨_, rfl⟩ := expectStatus_done heard
  cases moved
  exact ⟨fits, rfl, rfl⟩

/-- `authenticate` has written its line and read a blob with a response that verifies. -/
theorem authenticate_done {crypto : Crypto} {receiverPub : crypto.VerifyingKey}
    {nonce : Block 16} {issuedAt now : Int64} {client after : ZsmptClient}
    (done : (authenticate crypto receiverPub nonce issuedAt now).run client = .ok () after) :
    (bytes (authLine (Challenge.issue client.senderDomain client.receiverDomain nonce
      issuedAt))).length ≤ maxLine ∧
    (∃ (blob : List UInt8) (response : ChallengeResponse), blob.length ≤ maxBlob ∧
      responseOf blob = .ok response ∧
      response.verify crypto receiverPub maxChallengeAge now = .ok ()) ∧
    SameDomains client after := by
  obtain ⟨-, fits, _, done⟩ := ordered_done done
  obtain ⟨response, _, replied, done⟩ := run_bind_ok.mp done
  obtain ⟨_, _, status, replied⟩ := run_bind_ok.mp replied
  obtain ⟨_, rfl⟩ := expectStatus_done status
  obtain ⟨blob, _, read, replied⟩ := run_bind_ok.mp replied
  obtain ⟨_, taken, rfl⟩ := onStream_ok_iff.mp read
  obtain ⟨carries, rfl⟩ := ofExcept_done replied
  obtain ⟨_, _, checked, moved⟩ := run_bind_ok.mp done
  obtain ⟨accepted, rfl⟩ := ofExcept_done checked
  cases moved
  refine ⟨fits, ⟨blob, response, readBlob_small taken, carries, ?_⟩, rfl, rfl⟩
  unfold checkResponse at accepted
  split at accepted
  · cases accepted
  · assumption

/-- `request_address` was in order, has written its line and read a blob with an attestation
that verifies. -/
theorem requestAddress_done {crypto : Crypto} {json : JsonReader} {user : String}
    {mode : AttestationMode} {receiverPub : crypto.VerifyingKey} {client after : ZsmptClient}
    {attestation : Attestation}
    (done : (requestAddress crypto json user mode receiverPub).run client =
      .ok attestation after) :
    client.state = .authenticated ∧
    (bytes ("ADDR " ++ mode.word ++ " " ++ user)).length ≤ maxLine ∧
    (∃ blob : List UInt8, blob.length ≤ maxBlob ∧
      attestationOf crypto json blob receiverPub client.receiverDomain = .ok attestation) ∧
    SameDomains client after := by
  obtain ⟨phase, fits, _, done⟩ := ordered_done done
  obtain ⟨_, _, heard, done⟩ := run_bind_ok.mp done
  obtain ⟨_, rfl⟩ := expectStatus_done heard
  obtain ⟨blob, _, read, done⟩ := run_bind_ok.mp done
  obtain ⟨_, taken, rfl⟩ := onStream_ok_iff.mp read
  obtain ⟨found, _, carried, done⟩ := run_bind_ok.mp done
  obtain ⟨carries, rfl⟩ := ofExcept_done carried
  obtain ⟨_, _, moved, done⟩ := run_bind_ok.mp done
  cases moved
  cases done
  exact ⟨phase, fits, ⟨blob, readBlob_small taken, carries⟩, rfl, rfl⟩

/-- `send_invoice` has written its line and its blob. -/
theorem sendInvoice_done {invoice : Invoice} {client after : ZsmptClient}
    (done : (deliverInvoice invoice).run client = .ok () after) :
    (bytes (invoiceLine invoice)).length ≤ maxLine ∧ invoice.body.length ≤ maxBlob ∧
      SameDomains client after := by
  obtain ⟨-, fits, _, done⟩ := ordered_done done
  obtain ⟨_, _, sent, done⟩ := run_bind_ok.mp done
  obtain ⟨_, blob, rfl⟩ := onStream_ok_iff.mp sent
  obtain ⟨_, rfl⟩ := expectStatus_done done
  refine ⟨fits, ?_, rfl, rfl⟩
  by_contra large
  rw [writeBlob_large (Nat.lt_of_not_le large)] at blob
  cases blob

/-- A framing operation keeps the domains, even if it fails. -/
theorem onStream_sameDomains {α : Type} (action : EStateM FramingError Conn α)
    (client : ZsmptClient) : SameDomains client (final ((onStream action).run client)) := by
  cases done : action.run client.stream with
  | ok value stream =>
    rw [onStream_ok client done]
    exact ⟨rfl, rfl⟩
  | error error stream =>
    rw [onStream_error client done]
    exact ⟨rfl, rfl⟩

/-- Reading a status keeps the domains, even if it fails. -/
theorem expectStatus_sameDomains (start : String) (client : ZsmptClient) :
    SameDomains client (final ((expectStatus start).run client)) := by
  have step := onStream_sameDomains readLine client
  rw [expectStatus, EStateM.run_bind]
  cases read : (onStream readLine).run client with
  | error error after =>
    rw [read] at step
    exact step
  | ok line after =>
    rw [read] at step
    dsimp only
    split
    · exact step
    · exact step

/-- QUIT keeps the domains, however it ends. -/
theorem ignore_quit_done {client after : ZsmptClient}
    (done : (ignore quit).run client = .ok () after) : SameDomains client after := by
  have ended : final (quit.run client) = after := (EStateM.Result.ok.inj done).2
  rw [← ended, quit, run_bind_of_ok (onStream_ok client
    (writeLine_fits (by decide : (bytes "QUIT").length ≤ maxLine) client.stream))]
  exact SameDomains.trans ⟨rfl, rfl⟩ (expectStatus_sameDomains "221 " _)

/-! ## How a status is classified -/

/-- A status is transient exactly when its code is. -/
theorem statusError_render (status : Status) :
    statusError status.render =
      if status.code.isTransient then .retryLater status.render else .rejected status.render := by
  have word := splitWhitespace_cons (isToken_toString status.code.value.toNat) status.message
  have code : ((splitWhitespace status.render).head?.bind (parseUnsigned (2 ^ 16))).getD 0 =
      status.code.value.toNat := by
    rw [Status.render, word, List.head?_cons, Option.bind_some,
      parseUnsigned_toString status.code.value.toNat_lt, Option.getD_some]
  rw [statusError, code, UInt16.ofNat_toNat]

/-- A status with the expected start is consumed, even if its text breaks the line. -/
theorem expectStatus_start {start tail : String}
    (free : '\n' ∉ start.toList ∧ '\x0d' ∉ start.toList)
    (fits : (bytes (start ++ tail)).length + 2 ≤ maxLine) (client : ZsmptClient)
    (rest output : List UInt8) :
    ∃ after, (expectStatus start).run
        (client.withStream ⟨bytes (start ++ tail) ++ crlf ++ rest, output⟩) = .ok () after ∧
      after.stream.output = output := by
  obtain ⟨line, stream, read, same, starts⟩ := readLine_start free fits rest output
  have heard := onStream_ok (client.withStream ⟨bytes (start ++ tail) ++ crlf ++ rest, output⟩) read
  refine ⟨client.withStream stream, ?_, same⟩
  rw [expectStatus, run_bind_of_ok heard, if_pos starts]
  rfl

end Talk.Verif.ClientSteps
