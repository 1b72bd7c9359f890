import Talk.Protocol.Attestation
import Talk.Protocol.Codec
import Talk.Protocol.Framing

/-!
# The ZSMTP client

The outbound engine: it reads the greeting, then drives HELLO, AUTH, ADDR, INVOICE and QUIT in
this order and checks the receiver's signatures. Random bytes and clock readings are arguments.
-/

namespace Talk.Protocol

open ByteStream Text Hex
open Utf8 (bytes fromUtf8Lossy)

/-- `ClientState`. -/
inductive ClientState where
  /-- The greeting was read. -/
  | connected
  /-- HELLO was answered. -/
  | awaitingAuth
  /-- The receiver's key was verified. -/
  | authenticated
  /-- An address was attested. -/
  | addressed
  deriving DecidableEq

/-- `ClientError`. -/
inductive ClientError where
  /-- A framing error. -/
  | framing (error : FramingError)
  /-- A transport error. -/
  | io
  /-- The greeting is not the protocol's. -/
  | badGreeting (line : String)
  /-- A reply that is neither the expected one nor transient. -/
  | rejected (status : String)
  /-- A transient failure. -/
  | retryLater (status : String)
  /-- The receiver's key was not verified. -/
  | auth (message : String)
  /-- The attestation was not verified. -/
  | badAttestation (message : String)
  /-- A step out of order. -/
  | order (message : String)
  deriving DecidableEq

/-- `ZsmptClient`. -/
structure ZsmptClient where
  /-- The stream. -/
  stream : Conn
  /-- The phase. -/
  state : ClientState
  /-- The sender's domain. -/
  senderDomain : String
  /-- The receiver's domain, from the greeting. -/
  receiverDomain : String
  /-- The user an address was requested for. -/
  addrUser : Option String
  deriving DecidableEq

namespace ZsmptClient

/-- Run a framing operation on the client's stream. -/
def onStream {α : Type} (action : EStateM FramingError Conn α) :
    EStateM ClientError ZsmptClient α := fun client =>
  match action.run client.stream with
  | .ok value stream => .ok value { client with stream := stream }
  | .error error stream => .error (.framing error) { client with stream := stream }

/-- Return a value or fail. -/
def ofExcept {α : Type} (result : Except ClientError α) : EStateM ClientError ZsmptClient α :=
  match result with
  | .ok value => pure value
  | .error error => throw error

/-- `status_error`: a status whose first word is not a 4xx number is a rejection. -/
def statusError (status : String) : ClientError :=
  let code := ((splitWhitespace status).head?.bind (parseUnsigned (2 ^ 16))).getD 0
  if (StatusCode.mk (UInt16.ofNat code)).isTransient then .retryLater status
  else .rejected status

/-- Read a status line that must start with `start`. -/
def expectStatus (start : String) : EStateM ClientError ZsmptClient Unit := do
  let status ← onStream readLine
  if startsWith status start then pure ()
  else throw (statusError status)

/-- The client before the greeting is read. -/
def opened (stream : Conn) (senderDomain : String) : ZsmptClient :=
  ⟨stream, .connected, senderDomain, "", none⟩

/-- The domain a greeting announces. -/
def greetingDomain (greeting : String) : Except ClientError String :=
  match stripStart "ZSMTP 1.0 " greeting with
  | none => .error (.badGreeting greeting)
  | some receiver => if receiver = "" then .error (.badGreeting greeting) else .ok receiver

/-- `connect`, on an opened client. -/
def connect : EStateM ClientError ZsmptClient Unit := do
  let greeting ← onStream readLine
  let receiver ← ofExcept (greetingDomain greeting)
  modify fun client => { client with receiverDomain := receiver }

/-- What a client's program returns. -/
def answerOf {α : Type} : EStateM.Result ClientError ZsmptClient α → Except ClientError α
  | .ok value _ => .ok value
  | .error error _ => .error error

/-- Why no connection over TLS comes up. -/
inductive TransportError where
  /-- The server name is not one. -/
  | serverName (text : String)
  /-- The address is not reached, or the TLS handshake fails. -/
  | io

/-- The error as `connect_tcp_tls` reports it. -/
def TransportError.toClient : TransportError → ClientError
  | .serverName text => .auth ("invalid server name: " ++ text)
  | .io => .io

/-- `connect_tcp_tls`: `dial` is the connection over TLS to an address under a server name, which
fails or gives all that the peer says. -/
def connectTcpTls (dial : String → String → Except TransportError (List UInt8))
    (addr serverName senderDomain : String) : Except ClientError ZsmptClient :=
  match dial addr serverName with
  | .error error => .error error.toClient
  | .ok input =>
    match connect.run (opened ⟨input, []⟩ senderDomain) with
    | .error error _ => .error error
    | .ok () client => .ok client

/-- `hello`. -/
def hello : EStateM ClientError ZsmptClient Unit := do
  let client ← get
  if client.state ≠ .connected then throw (.order "hello already sent")
  else
    onStream (writeLine ("HELLO " ++ client.senderDomain))
    expectStatus "250 "
    modify fun client => { client with state := .awaitingAuth }

/-- The response an AUTH blob carries: everything after the last separator is the signature. -/
def responseOf (blob : List UInt8) : Except ClientError ChallengeResponse :=
  match rsplitOnce '|' (fromUtf8Lossy blob) with
  | none => .error (.auth "malformed auth response")
  | some (challengeWire, signatureHex) =>
    match Challenge.fromWire challengeWire with
    | none => .error (.auth "malformed challenge")
    | some challenge =>
      match Hex.decode signatureHex with
      | none => .error (.auth "malformed signature")
      | some signature => .ok ⟨challenge, signature⟩

/-- The line that presents a challenge. -/
def authLine (challenge : Challenge) : String := "AUTH " ++ Base64.encode (bytes challenge.toWire)

/-- `verify`, with its error as the client reports it. -/
def checkResponse (crypto : Crypto) (response : ChallengeResponse)
    (receiverPub : crypto.VerifyingKey) (now : Int64) : Except ClientError Unit :=
  match response.verify crypto receiverPub maxChallengeAge now with
  | .error error => .error (.auth error.text)
  | .ok () => .ok ()

/-- The reply to AUTH: a status, then the response. -/
def authReply : EStateM ClientError ZsmptClient ChallengeResponse := do
  expectStatus "250 "
  let blob ← onStream readBlob
  ofExcept (responseOf blob)

/-- `authenticate`: the challenge is issued at `issuedAt` and the response verified at `now`. -/
def authenticate (crypto : Crypto) (receiverPub : crypto.VerifyingKey) (nonce : Block 16)
    (issuedAt now : Int64) : EStateM ClientError ZsmptClient Unit := do
  let client ← get
  if client.state ≠ .awaitingAuth then throw (.order "authenticate out of sequence")
  else
    onStream (writeLine (authLine
      (Challenge.issue client.senderDomain client.receiverDomain nonce issuedAt)))
    let response ← authReply
    ofExcept (checkResponse crypto response receiverPub now)
    modify fun client => { client with state := .authenticated }

/-- The attestation an ADDR blob carries, once verified. -/
def attestationOf (crypto : Crypto) (json : JsonReader) (blob : List UInt8)
    (receiverPub : crypto.VerifyingKey) (receiverDomain : String) :
    Except ClientError Attestation :=
  match Attestation.fromJson json (fromUtf8Lossy blob) with
  | .error error => .error (.badAttestation error.text)
  | .ok attestation =>
    match attestation.verify crypto receiverPub receiverDomain with
    | .error error => .error (.badAttestation error.text)
    | .ok () => .ok attestation

/-- `request_address`. -/
def requestAddress (crypto : Crypto) (json : JsonReader) (user : String) (mode : AttestationMode)
    (receiverPub : crypto.VerifyingKey) : EStateM ClientError ZsmptClient Attestation := do
  let client ← get
  if client.state ≠ .authenticated then throw (.order "request_address out of sequence")
  else
    onStream (writeLine ("ADDR " ++ mode.word ++ " " ++ user))
    expectStatus "250 "
    let blob ← onStream readBlob
    let attestation ← ofExcept (attestationOf crypto json blob receiverPub client.receiverDomain)
    modify fun client => { client with addrUser := some user, state := .addressed }
    pure attestation

/-- `send_invoice`. -/
def sendInvoice (senderUsername messageId : String) (payload : Payload) (body : List UInt8) :
    EStateM ClientError ZsmptClient Unit := do
  let client ← get
  if client.state ≠ .addressed then throw (.order "send_invoice out of sequence")
  else
    onStream (writeLine
      ("INVOICE " ++ senderUsername ++ " " ++ messageId ++ " " ++ payload.word))
    onStream (writeBlob body)
    expectStatus "250 "

/-- `quit`. -/
def quit : EStateM ClientError ZsmptClient Unit := do
  onStream (writeLine "QUIT")
  expectStatus "221 "

/-- Run a step and ignore how it ends. -/
def ignore (action : EStateM ClientError ZsmptClient Unit) :
    EStateM ClientError ZsmptClient Unit := fun client =>
  .ok () (final (action.run client))

/-- What one delivery takes: who sends what to whom. -/
structure Invoice where
  /-- The authorizing local user. -/
  senderUsername : String
  /-- The recipient's user name. -/
  recipientUser : String
  /-- The message id. -/
  messageId : String
  /-- How the invoice is carried. -/
  payload : Payload
  /-- The invoice. -/
  body : List UInt8
  deriving DecidableEq

/-- `send_invoice_over`. -/
def sendInvoiceOver (crypto : Crypto) (json : JsonReader) (invoice : Invoice)
    (receiverPub : crypto.VerifyingKey) (nonce : Block 16) (issuedAt now : Int64) :
    EStateM ClientError ZsmptClient Unit := do
  hello
  authenticate crypto receiverPub nonce issuedAt now
  let _ ← requestAddress crypto json invoice.recipientUser .ephemeral receiverPub
  sendInvoice invoice.senderUsername invoice.messageId invoice.payload invoice.body
  ignore quit

end ZsmptClient

/-- `SendInvoice`. -/
structure SendInvoice (crypto : Crypto) where
  /-- Where the receiver listens. -/
  endpoint : String
  /-- The receiver's domain. -/
  receiverDomain : String
  /-- The sender's domain. -/
  senderDomain : String
  /-- The authorizing local user. -/
  senderUsername : String
  /-- The recipient's user name. -/
  recipientUser : String
  /-- The receiver's domain key. -/
  receiverPub : crypto.VerifyingKey
  /-- The message id. -/
  messageId : String
  /-- How the invoice is carried. -/
  payload : Payload
  /-- The invoice. -/
  body : List UInt8

namespace SendInvoice

variable {crypto : Crypto}

/-- What is handed to the client. -/
def invoice (send : SendInvoice crypto) : ZsmptClient.Invoice :=
  ⟨send.senderUsername, send.recipientUser, send.messageId, send.payload, send.body⟩

/-- The dialogue of `deliver` with a peer that says `input`. -/
def converse (json : JsonReader) (send : SendInvoice crypto) (nonce : Block 16)
    (issuedAt now : Int64) (input : List UInt8) : EStateM.Result ClientError ZsmptClient Unit :=
  (do
    ZsmptClient.connect
    ZsmptClient.sendInvoiceOver crypto json send.invoice send.receiverPub nonce issuedAt now).run
    (ZsmptClient.opened ⟨input, []⟩ send.senderDomain)

/-- `deliver`: `dial` is the connection over TLS to an endpoint under a server name, which fails
or gives all that the peer says. -/
def deliver (json : JsonReader) (dial : String → String → Except ClientError (List UInt8))
    (send : SendInvoice crypto) (nonce : Block 16) (issuedAt now : Int64) :
    Except ClientError Unit :=
  match dial send.endpoint send.receiverDomain with
  | .error error => .error error
  | .ok input =>
    match send.converse json nonce issuedAt now input with
    | .error error _ => .error error
    | .ok () _ => .ok ()

end SendInvoice

namespace ZsmptClient

/-! ## Steps on a known reply

Each step is a write, then a read of a reply the server has put on the stream. The lemmas give
the state after the step when the reply is the expected one. -/

/-- The client with another stream. -/
def withStream (client : ZsmptClient) (stream : Conn) : ZsmptClient :=
  { client with stream := stream }

/-- A stream that is put in replaces one that was put in before. -/
@[simp] theorem withStream_withStream (client : ZsmptClient) (first second : Conn) :
    (client.withStream first).withStream second = client.withStream second := rfl

/-- The stream of a client is the one that was put in. -/
@[simp] theorem withStream_stream (client : ZsmptClient) (stream : Conn) :
    (client.withStream stream).stream = stream := rfl

/-- The phase does not depend on the stream. -/
@[simp] theorem withStream_state (client : ZsmptClient) (stream : Conn) :
    (client.withStream stream).state = client.state := rfl

/-- The sender's domain does not depend on the stream. -/
@[simp] theorem withStream_senderDomain (client : ZsmptClient) (stream : Conn) :
    (client.withStream stream).senderDomain = client.senderDomain := rfl

/-- The receiver's domain does not depend on the stream. -/
@[simp] theorem withStream_receiverDomain (client : ZsmptClient) (stream : Conn) :
    (client.withStream stream).receiverDomain = client.receiverDomain := rfl

/-- A framing operation that succeeds changes only the stream. -/
theorem onStream_ok {α : Type} {action : EStateM FramingError Conn α} (client : ZsmptClient)
    {value : α} {stream : Conn} (done : action.run client.stream = .ok value stream) :
    (onStream action).run client = .ok value (client.withStream stream) := by
  simp only [onStream, EStateM.run] at done ⊢
  rw [done]
  rfl

/-- A framing operation that fails changes only the stream. -/
theorem onStream_error {α : Type} {action : EStateM FramingError Conn α} (client : ZsmptClient)
    {error : FramingError} {stream : Conn}
    (failed : action.run client.stream = .error error stream) :
    (onStream action).run client = .error (.framing error) (client.withStream stream) := by
  simp only [onStream, EStateM.run] at failed ⊢
  rw [failed]
  rfl

/-- A framing operation that returns does so on the stream alone. -/
theorem onStream_ok_iff {α : Type} {action : EStateM FramingError Conn α}
    {client after : ZsmptClient} {value : α} :
    (onStream action).run client = .ok value after ↔
      ∃ stream, action.run client.stream = .ok value stream ∧
        after = client.withStream stream := by
  unfold onStream
  simp only [EStateM.run]
  cases action client.stream <;>
    simp [withStream, eq_comm]

/-- An expected status is consumed. -/
theorem expectStatus_ok (status : String) {start : String} (free : '\n' ∉ status.toList)
    (fits : (bytes status).length + 2 ≤ maxLine) (starts : startsWith status start = true)
    (client : ZsmptClient) (rest output : List UInt8) :
    (expectStatus start).run (client.withStream ⟨bytes status ++ crlf ++ rest, output⟩) =
      .ok () (client.withStream ⟨rest, output⟩) := by
  have read := onStream_ok (client.withStream ⟨bytes status ++ crlf ++ rest, output⟩)
    (readLine_text free fits rest output)
  simp only [expectStatus, EStateM.run_bind, read, starts, ↓reduceIte, EStateM.run_pure,
    withStream_withStream]

/-- A status other than the expected one is reported. -/
theorem expectStatus_other (status : String) {start : String} (free : '\n' ∉ status.toList)
    (fits : (bytes status).length + 2 ≤ maxLine) (other : startsWith status start = false)
    (client : ZsmptClient) (rest output : List UInt8) :
    (expectStatus start).run (client.withStream ⟨bytes status ++ crlf ++ rest, output⟩) =
      .error (statusError status) (client.withStream ⟨rest, output⟩) := by
  have read := onStream_ok (client.withStream ⟨bytes status ++ crlf ++ rest, output⟩)
    (readLine_text free fits rest output)
  simp only [expectStatus, EStateM.run_bind, read, other, Bool.false_eq_true, ↓reduceIte,
    run_throw, withStream_withStream]

/-- A blob is read from the client's stream. -/
theorem onStream_readBlob {data : List UInt8} (small : data.length ≤ maxBlob)
    (client : ZsmptClient) (rest output : List UInt8) :
    (onStream readBlob).run (client.withStream ⟨blobBytes data ++ rest, output⟩) =
      .ok data (client.withStream ⟨rest, output⟩) :=
  onStream_ok (client.withStream ⟨blobBytes data ++ rest, output⟩)
    (readBlob_data small rest output)

/-- The response a server builds is the one the client reads from its blob. -/
theorem responseOf_wire {challenge : Challenge} (carried : challenge.Carried)
    (signature : List UInt8) :
    responseOf (bytes (challenge.toWire ++ "|" ++ Hex.encode signature)) =
      .ok ⟨challenge, signature⟩ := by
  simp only [responseOf, Utf8.fromUtf8Lossy_bytes,
    rsplitOnce_join challenge.toWire (Challenge.free_hex signature),
    Challenge.fromWire_toWire carried, Hex.decode_encode]

/-- An AUTH reply with a carried challenge is read as that response. -/
theorem authReply_ok (status : String) (free : '\n' ∉ status.toList)
    (fits : (bytes status).length + 2 ≤ maxLine) (starts : startsWith status "250 " = true)
    {challenge : Challenge} (carried : challenge.Carried) (signature : List UInt8)
    (small : (bytes (challenge.toWire ++ "|" ++ Hex.encode signature)).length ≤ maxBlob)
    (client : ZsmptClient) (rest output : List UInt8) :
    authReply.run (client.withStream ⟨bytes status ++ crlf ++
      (blobBytes (bytes (challenge.toWire ++ "|" ++ Hex.encode signature)) ++ rest), output⟩) =
      .ok ⟨challenge, signature⟩ (client.withStream ⟨rest, output⟩) := by
  simp only [authReply, EStateM.run_bind, expectStatus_ok status free fits starts,
    onStream_readBlob small, responseOf_wire carried, ofExcept, EStateM.run_pure]

end ZsmptClient

end Talk.Protocol
