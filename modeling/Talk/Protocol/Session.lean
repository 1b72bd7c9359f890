import Talk.Protocol.Attestation
import Talk.Protocol.Codec
import Talk.Protocol.Framing

/-!
# The ZSMTP server session

The state machine over the command vocabulary and the loop that drives it from a stream. The
sink, the directory and the address provider are trait objects in the source: here they are
functions over a world of their own, and every call to one of them is recorded with its
arguments and its answer.
-/

namespace Talk.Protocol

open ByteStream Text Hex
open Utf8 (bytes fromUtf8Lossy)

/-! ## The objects a session calls -/

/-- The arguments of `DeliverySink::deliver`. -/
structure Delivery where
  /-- The sender's mailbox. -/
  senderMailbox : String
  /-- The message id. -/
  messageId : String
  /-- The recipient's mailbox. -/
  recipientMailbox : String
  /-- How the invoice is carried. -/
  payload : Payload
  /-- The invoice. -/
  body : List UInt8
  deriving DecidableEq

/-- `DeliveryOutcome`. -/
inductive DeliveryOutcome where
  /-- Accepted, 250. -/
  | accepted (messageId : String)
  /-- Refused for good, 550. -/
  | rejected (reason : String)
  /-- Refused for now, 450. -/
  | retryLater (reason : String)
  deriving DecidableEq

/-- One call of a session to an object it holds, with the answer. -/
inductive Call where
  /-- `DeliverySink::deliver`. -/
  | deliver (delivery : Delivery) (outcome : DeliveryOutcome)
  /-- `UserDirectory::user_exists`. -/
  | userExists (username : String) (answer : Bool)
  /-- `AddressProvider::mint`. -/
  | mint (mode : AttestationMode) (minted : MintedAddress)
  deriving DecidableEq

/-- Whether a call is a delivery. -/
def Call.isDeliver : Call → Bool
  | .deliver _ _ => true
  | _ => false

/-- The world behind the trait objects, and the calls made so far. -/
structure Outer (ω : Type) where
  /-- The state the objects share. -/
  world : ω
  /-- The calls, oldest first. -/
  calls : List Call
  deriving DecidableEq

/-! ## Sessions -/

/-- `SessionState`. -/
inductive SessionState where
  /-- Awaiting HELLO. -/
  | greeting
  /-- HELLO received, awaiting AUTH. -/
  | awaitingAuth
  /-- The challenge has been signed. -/
  | authenticated
  deriving DecidableEq

/-- `SessionError`. -/
inductive SessionError where
  /-- A command the session does not answer with a status. -/
  | state (message : String)
  deriving DecidableEq

/-- `Reply`. -/
inductive Reply where
  /-- A status line. -/
  | status (status : Status)
  /-- A status line and a blob. -/
  | statusWithBlob (status : Status) (blob : List UInt8)
  deriving DecidableEq

/-- The status of a reply. -/
def Reply.line : Reply → Status
  | .status line => line
  | .statusWithBlob line _ => line

/-- `DomainKey`. -/
structure DomainKey (crypto : Crypto) where
  /-- The domain the key is for. -/
  domain : String
  /-- The private key. -/
  signing : crypto.SigningKey

/-- `ZsmptSession`. -/
structure ZsmptSession (crypto : Crypto) (ω : Type) where
  /-- The phase. -/
  state : SessionState
  /-- This server's domain. -/
  domain : String
  /-- This server's key. -/
  domainKey : DomainKey crypto
  /-- The peer's domain, once authenticated. -/
  peerDomain : Option String
  /-- The recipient of the last ADDR. -/
  addrUser : Option String
  /-- Where invoices go. -/
  sink : Option (Delivery → ω → DeliveryOutcome × ω)
  /-- The registered users. -/
  directory : Option (String → ω → Bool × ω)
  /-- Mints addresses. -/
  addressProvider : AttestationMode → ω → MintedAddress × ω

variable {crypto : Crypto} {ω : Type}

namespace ZsmptSession

/-- `with_domain_key`, then the attached objects. -/
def withDomainKey (domain : String) (signing : crypto.SigningKey)
    (sink : Option (Delivery → ω → DeliveryOutcome × ω))
    (directory : Option (String → ω → Bool × ω))
    (addressProvider : AttestationMode → ω → MintedAddress × ω) : ZsmptSession crypto ω where
  state := .greeting
  domain := domain
  domainKey := ⟨domain, signing⟩
  peerDomain := none
  addrUser := none
  sink := sink
  directory := directory
  addressProvider := addressProvider

/-- `greeting`. -/
def greeting (session : ZsmptSession crypto ω) : String := "ZSMTP 1.0 " ++ session.domain

/-- What one command leaves behind. -/
structure Handled (crypto : Crypto) (ω : Type) where
  /-- The reply or the error. -/
  result : Except SessionError Reply
  /-- The session. -/
  session : ZsmptSession crypto ω
  /-- The world and the calls. -/
  outer : Outer ω

/-- A status that changes nothing. -/
def refuse (session : ZsmptSession crypto ω) (outer : Outer ω) (code : StatusCode)
    (message : String) : Handled crypto ω :=
  ⟨.ok (.status ⟨code, message⟩), session, outer⟩

/-- `on_hello`. -/
def onHello (session : ZsmptSession crypto ω) (domain : String) (outer : Outer ω) :
    Handled crypto ω :=
  if session.state ≠ .greeting then ⟨.error (.state "HELLO already sent"), session, outer⟩
  else if domain = "" then session.refuse outer .syntaxError "HELLO requires a domain"
  else ⟨.ok (.status ⟨.ok, "Hello " ++ domain⟩), { session with state := .awaitingAuth }, outer⟩

/-- `on_auth`. -/
def onAuth (session : ZsmptSession crypto ω) (challengeWire : List UInt8) (outer : Outer ω) :
    Handled crypto ω :=
  if session.state ≠ .awaitingAuth then
    session.refuse outer .badSequence "AUTH not expected now"
  else match Challenge.fromWire (fromUtf8Lossy challengeWire) with
  | none => session.refuse outer .syntaxError "malformed challenge"
  | some challenge =>
    let response := ChallengeResponse.respond crypto challenge session.domainKey.signing
    let wire := challenge.toWire ++ "|" ++ Hex.encode response.signature
    ⟨.ok (.statusWithBlob ⟨.ok, "authenticated"⟩ (bytes wire)),
      { session with state := .authenticated, peerDomain := some challenge.senderDomain }, outer⟩

/-- The attestation mode of an address mode. -/
def attestationMode : AddrMode → AttestationMode
  | .ephemeral => .ephemeral
  | .attested => .attested

/-- The directory's answer; without a directory every user is known. -/
def userKnown (session : ZsmptSession crypto ω) (user : String) (outer : Outer ω) :
    Bool × Outer ω :=
  match session.directory with
  | none => (true, outer)
  | some directory =>
    let (answer, world) := directory user outer.world
    (answer, ⟨world, outer.calls ++ [.userExists user answer]⟩)

/-- `on_addr`. -/
def onAddr (session : ZsmptSession crypto ω) (mode : AddrMode) (user : String)
    (outer : Outer ω) : Handled crypto ω :=
  if session.state ≠ .authenticated then
    session.refuse outer .notAuthed "authenticate first"
  else if user = "" then session.refuse outer .syntaxError "ADDR requires a user"
  else
    let (known, outer) := session.userKnown user outer
    if known = false then session.refuse outer .permReject ("no such user: " ++ user)
    else
      let mode := attestationMode mode
      let (minted, world) := session.addressProvider mode outer.world
      let attestation := Attestation.sign crypto session.domain user mode minted.address
        minted.pubkey session.domainKey.signing
      ⟨.ok (.statusWithBlob ⟨.ok, "address attestation"⟩ (bytes attestation.toJson)),
        { session with addrUser := some user }, ⟨world, outer.calls ++ [.mint mode minted]⟩⟩

/-- The status an outcome is reported as. -/
def outcomeStatus : DeliveryOutcome → Status
  | .accepted messageId => ⟨.okQueued, "accepted into inbox (" ++ messageId ++ ")"⟩
  | .rejected reason => ⟨.permReject, reason⟩
  | .retryLater reason => ⟨.tryLater, reason⟩

/-- `on_invoice`. -/
def onInvoice (session : ZsmptSession crypto ω) (senderUser messageId : String)
    (payload : Payload) (body : List UInt8) (outer : Outer ω) : Handled crypto ω :=
  if session.state ≠ .authenticated then
    session.refuse outer .notAuthed "authenticate first"
  else if messageId = "" then session.refuse outer .syntaxError "INVOICE requires a message id"
  else match session.addrUser with
  | none => session.refuse outer .badSequence "INVOICE requires a prior ADDR"
  | some recipientUser =>
    match session.peerDomain with
    | none => session.refuse outer .badSequence "INVOICE requires a sender"
    | some senderDomain =>
      match session.sink with
      | none =>
        session.refuse outer .okQueued ("accepted into inbox (" ++ messageId ++ ")")
      | some sink =>
        let delivery : Delivery := ⟨senderUser ++ "@" ++ senderDomain, messageId,
          recipientUser ++ "@" ++ session.domain, payload, body⟩
        let (outcome, world) := sink delivery outer.world
        ⟨.ok (.status (outcomeStatus outcome)), session,
          ⟨world, outer.calls ++ [.deliver delivery outcome]⟩⟩

/-- `handle`. -/
def handle (session : ZsmptSession crypto ω) (command : Command) (outer : Outer ω) :
    Handled crypto ω :=
  match command with
  | .hello domain => session.onHello domain outer
  | .auth challenge => session.onAuth challenge outer
  | .addr mode user => session.onAddr mode user outer
  | .invoice sender messageId payload body =>
    session.onInvoice sender messageId payload body outer
  | .status _ _ => ⟨.error (.state "unexpected STATUS from client"), session, outer⟩
  | .quit => session.refuse outer .closing (session.domain ++ " closing connection")

end ZsmptSession

/-! ## The loop over a stream -/

/-- `write_reply`. -/
def writeReply (reply : Reply) : EStateM FramingError Conn Unit :=
  match reply with
  | .status status => writeLine status.render
  | .statusWithBlob status blob => do
    writeLine status.render
    writeBlob blob

/-- The state of a running session. The lines handed to `decodeLine` are kept for the
specification; nothing reads them. -/
structure Running (crypto : Crypto) (ω : Type) where
  /-- The stream. -/
  conn : Conn
  /-- The session. -/
  session : ZsmptSession crypto ω
  /-- The world and the calls. -/
  outer : Outer ω
  /-- The lines handed to `decodeLine`. -/
  lines : List String

/-- Run a framing operation on the stream of a running session. -/
def onConn {α : Type} (action : EStateM FramingError Conn α) :
    EStateM FramingError (Running crypto ω) α := fun running =>
  match action.run running.conn with
  | .ok value conn => .ok value { running with conn := conn }
  | .error error conn => .error error { running with conn := conn }

/-- The next line; none when the peer has closed the stream or broken the framing. -/
def nextLine : EStateM FramingError Conn (Option String) := fun conn =>
  match readLine.run conn with
  | .ok line conn => .ok (some line) conn
  | .error (.protocol _) conn => .ok none conn
  | .error error conn => .error error conn

/-- The command of a line, an INVOICE with its blob; none for a line that does not decode. -/
def readCommand (line : String) : EStateM FramingError Conn (Option Command) :=
  match decodeLine line with
  | .error _ => pure none
  | .ok (.invoice sender messageId payload _) => do
    let body ← readBlob
    pure (some (.invoice sender messageId payload body))
  | .ok command => pure (some command)

/-- The reply to a line that does not decode. -/
def unknownCommand : Reply := .status ⟨.syntaxError, "unknown command"⟩

/-- The reply written for a handled command. -/
def replyOf : Except SessionError Reply → Reply
  | .ok reply => reply
  | .error _ => .status ⟨.badSequence, "command not allowed now"⟩

/-- Handle a command and write its reply. -/
def answer (command : Command) : EStateM FramingError (Running crypto ω) Unit := do
  let running ← get
  let handled := running.session.handle command running.outer
  set { running with session := handled.session, outer := handled.outer }
  onConn (writeReply (replyOf handled.result))

/-- Decode a line and answer it; whether the loop goes on. -/
def dispatch (line : String) : EStateM FramingError (Running crypto ω) Bool := do
  match ← onConn (readCommand line) with
  | none =>
    onConn (writeReply unknownCommand)
    pure true
  | some command =>
    answer command
    pure (decide (command ≠ .quit))

/-- One turn of the loop; whether the loop goes on. -/
def turn : EStateM FramingError (Running crypto ω) Bool := do
  match ← onConn nextLine with
  | none => pure false
  | some line =>
    modify fun running => { running with lines := running.lines ++ [line] }
    dispatch line

/-- The loop, for at most `fuel` turns. -/
def loop : Nat → EStateM FramingError (Running crypto ω) Unit
  | 0 => pure ()
  | fuel + 1 => do
    match ← turn with
    | false => pure ()
    | true => loop fuel

/-- `run`: the greeting, then the loop. Each turn that goes on has consumed a byte, so the fuel
does not run out. -/
def run : EStateM FramingError (Running crypto ω) Unit := do
  let running ← get
  onConn (writeLine running.session.greeting)
  loop (running.conn.input.length + 1)

end Talk.Protocol
