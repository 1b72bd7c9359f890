import Talk.Lib.Loop
import Talk.Protocol.Attestation
import Talk.Protocol.Envelope
import Talk.Protocol.Framing

/-!
# The local mailbox channel

The socket on which a local client asks the daemon to send, to attest, to register, to simulate a
payment or to report its status. The server splits a command line at its first four spaces; SEND
and EMULATE carry a blob. The handler is a trait object in the source: here it is functions over a
world of its own. The server keeps a log of its turns: the line it took for a command, what it asked
of the handler, and the answer it then writes.
-/

namespace Talk.Protocol.Mailbox

open ByteStream Text Json
open Utf8 (bytes fromUtf8Lossy)

/-! ## Simulated payments -/

/-- `EmulatePayload`. -/
structure EmulatePayload where
  /-- The sender's display name. -/
  senderName : String
  /-- The transparent source address. -/
  senderAddress : String
  /-- The amount, as a decimal text. -/
  amount : String
  /-- The invoice. -/
  invoice : List UInt8
  deriving DecidableEq

/-- `EmulatePayload::to_json`: the fields in their order, without spaces. -/
def EmulatePayload.toJson (payload : EmulatePayload) : String :=
  "\x7b\"sender_name\":" ++ jsonString payload.senderName
    ++ ",\"sender_address\":" ++ jsonString payload.senderAddress
    ++ ",\"amount\":" ++ jsonString payload.amount
    ++ ",\"invoice\":" ++ jsonBytes payload.invoice ++ "\x7d"

/-- The reader of simulated payments, with the one law the channel relies on. -/
structure EmulateReader where
  /-- `EmulatePayload::from_json`, `serde_json::from_str`. -/
  read : String → Option EmulatePayload
  /-- What the writer wrote is read back. -/
  read_toJson : ∀ payload, read payload.toJson = some payload

/-- The payment the writer has written, and nothing else. -/
def readEmulate (text : String) : Option EmulatePayload := do
  let (senderName, text) ← readField "\x7b\"sender_name\":" text.toList
  let (senderAddress, text) ← readField ",\"sender_address\":" text
  let (amount, text) ← readField ",\"amount\":" text
  let text ← expect ",\"invoice\":" text
  let (invoice, text) ← readBytes text
  let rest ← expect "\x7d" text
  if rest = [] then some ⟨senderName, senderAddress, amount, invoice⟩ else none

/-- A written payment is read back. -/
theorem readEmulate_toJson (payload : EmulatePayload) :
    readEmulate payload.toJson = some payload := by
  have last : ∀ close : String, expect close close.toList = some [] := by
    intro close
    simpa using expect_append close []
  unfold readEmulate EmulatePayload.toJson
  -- The reader and the writer share the field names; as literals they would be evaluated.
  generalize "\x7b\"sender_name\":" = first, ",\"sender_address\":" = second,
    ",\"amount\":" = third, ",\"invoice\":" = fourth, "\x7d" = close
  simp only [String.toList_append, List.append_assoc, readField_append, Option.bind_eq_bind,
    Option.bind_some, expect_append, readBytes_jsonBytes, last, ↓reduceIte]

/-- The strict reader obeys the law. -/
def EmulateReader.strict : EmulateReader := ⟨readEmulate, readEmulate_toJson⟩

/-! ## The handler -/

/-- A result with the text of the reply. -/
inductive TextResult where
  /-- Done. -/
  | ok (text : String)
  /-- Refused. -/
  | error (text : String)
  deriving DecidableEq

/-- `SendResult`. -/
abbrev SendResult := TextResult

/-- `EmulateResult`. -/
abbrev EmulateResult := TextResult

/-- `AttestResult`. -/
inductive AttestResult where
  /-- The signed attestation. -/
  | ok (blob : List UInt8)
  /-- Refused. -/
  | error (text : String)
  deriving DecidableEq

/-- `RegisterResult`. -/
inductive RegisterResult where
  /-- Registered. -/
  | ok
  /-- Refused. -/
  | error (text : String)
  deriving DecidableEq

/-- `AsyncSecureMailboxHandler`, over the world it acts on. -/
structure Handler (ω : Type) where
  /-- `send`. -/
  send : String → String → String → Payload → List UInt8 → ω → SendResult × ω
  /-- `attest`. -/
  attest : String → AttestationMode → ω → AttestResult × ω
  /-- `register`. -/
  register : String → String → String → Option String → ω → RegisterResult × ω
  /-- `status`. -/
  status : ω → String × ω
  /-- `emulate`. -/
  emulate : String → EmulatePayload → ω → EmulateResult × ω

/-- One call of a method of the handler. -/
inductive Invocation where
  /-- `send`. -/
  | send (sender recipient messageId : String) (payload : Payload) (body : List UInt8)
  /-- `attest`. -/
  | attest (user : String) (mode : AttestationMode)
  /-- `register`. -/
  | register (username password pubkeyHex : String) (ivkHex : Option String)
  /-- `status`. -/
  | status
  /-- `emulate`. -/
  | emulate (recipientUser : String) (payload : EmulatePayload)
  deriving DecidableEq

/-- What the server writes in answer to a line. -/
inductive Answer where
  /-- A status line. -/
  | line (text : String)
  /-- `OK attestation` and a blob. -/
  | attestation (blob : List UInt8)
  deriving DecidableEq

/-- The line of a text result. -/
def TextResult.answer : TextResult → Answer
  | .ok text => .line ("OK " ++ text)
  | .error text => .line ("ERR " ++ text)

/-- The answer to ATTEST. -/
def AttestResult.answer : AttestResult → Answer
  | .ok blob => .attestation blob
  | .error text => .line ("ERR " ++ text)

/-- The line of a registration. -/
def RegisterResult.answer : RegisterResult → Answer
  | .ok => .line "OK registered"
  | .error text => .line ("ERR " ++ text)

variable {ω : Type}

/-- Call the handler. -/
def Handler.invoke (handler : Handler ω) (world : ω) : Invocation → Answer × ω
  | .send sender recipient messageId payload body =>
    (handler.send sender recipient messageId payload body world).map TextResult.answer id
  | .attest user mode => (handler.attest user mode world).map AttestResult.answer id
  | .register username password pubkeyHex ivkHex =>
    (handler.register username password pubkeyHex ivkHex world).map RegisterResult.answer id
  | .status => (handler.status world).map (fun text => .line ("OK " ++ text)) id
  | .emulate recipientUser payload =>
    (handler.emulate recipientUser payload world).map TextResult.answer id

/-! ## The server -/

/-- What the server makes of a line and of the blob behind it. -/
inductive Request where
  /-- It answers without the handler. -/
  | refuse (text : String)
  /-- It calls the handler. -/
  | invoke (invocation : Invocation)
  /-- It says goodbye. -/
  | quit
  deriving DecidableEq

/-- The call a request makes. -/
def Request.invocation : Request → Option Invocation
  | .invoke invocation => some invocation
  | _ => none

/-- The answer to a request. -/
def Request.answer (handler : Handler ω) (world : ω) : Request → Answer × ω
  | .refuse text => (.line text, world)
  | .invoke invocation => handler.invoke world invocation
  | .quit => (.line "OK bye", world)

/-- The payload word of a SEND line. -/
def payloadWord (word : Option String) : Option Payload :=
  if word = some "sealed" then some .sealed
  else if word = some "plaintext" then some .plaintext
  else none

/-- The mode word of an ATTEST line. -/
def modeWord (word : Option String) : Option AttestationMode :=
  if word = some "ephemeral" then some .ephemeral
  else if word = some "attested" then some .attested
  else none

/-- Read the blob of a command; a blob that cannot be read is answered with a text. -/
def withBlob (missing : String) (next : List UInt8 → Request) (conn : Conn) : Request × Conn :=
  match readBlob.run conn with
  | .error _ conn => (.refuse missing, conn)
  | .ok blob conn => (next blob, conn)

/-- SEND. -/
def readSend (parts : List String) (conn : Conn) : Request × Conn :=
  let sender := parts[1]?.getD ""
  let recipient := parts[2]?.getD ""
  let messageId := parts[3]?.getD ""
  match payloadWord parts[4]? with
  | none => (.refuse "ERR malformed SEND", conn)
  | some payload =>
    withBlob "ERR missing SEND blob"
      (fun body => .invoke (.send sender recipient messageId payload body)) conn

/-- REGISTER. -/
def readRegister (parts : List String) : Request :=
  let username := parts[1]?.getD ""
  let password := parts[2]?.getD ""
  let pubkeyHex := parts[3]?.getD ""
  let ivkHex := parts[4]?
  if username = "" ∨ password = "" ∨ pubkeyHex = "" then
    .refuse "ERR REGISTER requires username, password, and pubkey"
  else .invoke (.register username password pubkeyHex ivkHex)

/-- ATTEST. -/
def readAttest (parts : List String) : Request :=
  let user := parts[1]?.getD ""
  match modeWord parts[2]? with
  | none => .refuse "ERR malformed ATTEST"
  | some mode => .invoke (.attest user mode)

/-- EMULATE. -/
def readPayment (reader : EmulateReader) (parts : List String) (conn : Conn) : Request × Conn :=
  let recipientUser := parts[1]?.getD ""
  if recipientUser = "" then (.refuse "ERR EMULATE requires a recipient user", conn)
  else
    withBlob "ERR missing EMULATE blob"
      (fun blob =>
        match reader.read (fromUtf8Lossy blob) with
        | none => .refuse "ERR malformed EMULATE payload"
        | some payload => .invoke (.emulate recipientUser payload)) conn

/-- What a line asks for; SEND and EMULATE read their blob from the stream. -/
def readRequest (reader : EmulateReader) (line : String) (conn : Conn) : Request × Conn :=
  let parts := splitn 5 ' ' line
  let verb := toAsciiUppercase (parts.headD "")
  if verb = "SEND" then readSend parts conn
  else if verb = "REGISTER" then (readRegister parts, conn)
  else if verb = "ATTEST" then (readAttest parts, conn)
  else if verb = "EMULATE" then readPayment reader parts conn
  else if verb = "STATUS" then (.invoke .status, conn)
  else if verb = "QUIT" then (.quit, conn)
  else (.refuse "ERR unknown command", conn)

/-- Write an answer. -/
def writeAnswer : Answer → EStateM FramingError Conn Unit
  | .line text => writeLine text
  | .attestation blob => do
    writeLine "OK attestation"
    writeBlob blob

/-- One turn of the server. -/
structure Turn where
  /-- The line taken for a command. -/
  line : String
  /-- The call of the handler. -/
  invoked : Option Invocation
  /-- The answer to be written. -/
  answer : Answer
  deriving DecidableEq

/-- A running server. -/
structure Serving (ω : Type) where
  /-- The stream. -/
  conn : Conn
  /-- The world of the handler. -/
  world : ω
  /-- The turns so far, oldest first. -/
  turns : List Turn
  deriving DecidableEq

/-- One pass of the loop of `serve`; whether it goes on. A line that cannot be read ends the loop
without an error. -/
def turn (handler : Handler ω) (reader : EmulateReader) :
    EStateM FramingError (Serving ω) Bool := fun serving =>
  match readLine.run serving.conn with
  | .error _ conn => .ok false { serving with conn := conn }
  | .ok line conn =>
    let (request, conn) := readRequest reader line conn
    let (answer, world) := request.answer handler serving.world
    let turns := serving.turns ++ [⟨line, request.invocation, answer⟩]
    match (writeAnswer answer).run conn with
    | .error error conn => .error error ⟨conn, world, turns⟩
    | .ok _ conn => .ok (decide (request ≠ .quit)) ⟨conn, world, turns⟩

/-- `serve`: the loop over all that the client sends. Each turn that goes on has consumed a byte. -/
def serve (handler : Handler ω) (reader : EmulateReader) (world : ω) (input : List UInt8) :
    EStateM.Result FramingError (Serving ω) Unit :=
  Loop.drain (fun serving => serving.conn.input.length) (turn handler reader)
    ⟨⟨input, []⟩, world, []⟩

/-! ## The client -/

/-- `SEND <sender> <recipient> <message-id> <payload>`. -/
def sendLine (sender recipient messageId : String) (payload : Payload) : String :=
  "SEND " ++ sender ++ " " ++ recipient ++ " " ++ messageId ++ " " ++ payload.word

/-- `REGISTER <username> <password> <pubkey-hex> [ivk-hex]`. -/
def registerLine (username password pubkeyHex : String) (ivkHex : Option String) : String :=
  let ivk := (ivkHex.map fun ivk => " " ++ ivk).getD ""
  "REGISTER " ++ username ++ " " ++ password ++ " " ++ pubkeyHex ++ ivk

/-- `EMULATE <recipient-user>`. -/
def emulateLine (recipientUser : String) : String := "EMULATE " ++ recipientUser

/-- `ATTEST <user> <ephemeral|attested>`. -/
def attestLine (user : String) (mode : AttestationMode) : String :=
  "ATTEST " ++ user ++ " " ++ mode.word

namespace SecureMailboxClient

/-- `send`. -/
def send (sender recipient messageId : String) (payload : Payload) (body : List UInt8) :
    EStateM FramingError Conn String := do
  writeLine (sendLine sender recipient messageId payload)
  writeBlob body
  readLine

/-- `status`. -/
def status : EStateM FramingError Conn String := do
  writeLine "STATUS"
  readLine

/-- `register`. -/
def register (username password pubkeyHex : String) (ivkHex : Option String) :
    EStateM FramingError Conn String := do
  writeLine (registerLine username password pubkeyHex ivkHex)
  readLine

/-- `quit`. -/
def quit : EStateM FramingError Conn String := do
  writeLine "QUIT"
  readLine

/-- `emulate`, with the payload it builds from its last four arguments. -/
def emulate (recipientUser : String) (payload : EmulatePayload) :
    EStateM FramingError Conn String := do
  writeLine (emulateLine recipientUser)
  writeBlob (bytes payload.toJson)
  readLine

/-- `attest`: the attestation, or the server's line. The source turns framing errors into texts;
here they stay errors, apart from the server's line. -/
def attest (user : String) (mode : AttestationMode) :
    EStateM FramingError Conn (Except String (List UInt8)) := do
  writeLine (attestLine user mode)
  let line ← readLine
  if startsWith line "OK " then
    let blob ← readBlob
    pure (.ok blob)
  else pure (.error line)

end SecureMailboxClient

/-- One call of a method of the client, with its arguments. -/
inductive ClientCall where
  /-- `send`. -/
  | send (sender recipient messageId : String) (payload : Payload) (body : List UInt8)
  /-- `register`. -/
  | register (username password pubkeyHex : String) (ivkHex : Option String)
  /-- `attest`. -/
  | attest (user : String) (mode : AttestationMode)
  /-- `emulate`. -/
  | emulate (recipientUser : String) (payload : EmulatePayload)
  /-- `status`. -/
  | status
  /-- `quit`. -/
  | quit
  deriving DecidableEq

/-- The reply `attest` returns. -/
def attestReply : Except String (List UInt8) → Answer
  | .ok blob => .attestation blob
  | .error line => .line line

/-- Make a call. -/
def ClientCall.perform : ClientCall → EStateM FramingError Conn Answer
  | .send sender recipient messageId payload body =>
    Answer.line <$> SecureMailboxClient.send sender recipient messageId payload body
  | .register username password pubkeyHex ivkHex =>
    Answer.line <$> SecureMailboxClient.register username password pubkeyHex ivkHex
  | .attest user mode => attestReply <$> SecureMailboxClient.attest user mode
  | .emulate recipientUser payload =>
    Answer.line <$> SecureMailboxClient.emulate recipientUser payload
  | .status => Answer.line <$> SecureMailboxClient.status
  | .quit => Answer.line <$> SecureMailboxClient.quit

/-- Calls one after the other on one connection, each with what it returns. -/
def performAll : List ClientCall → Conn → List (ClientCall × Except FramingError Answer) × Conn
  | [], conn => ([], conn)
  | call :: calls, conn =>
    match call.perform.run conn with
    | .ok answer conn =>
      let (rest, conn) := performAll calls conn
      ((call, .ok answer) :: rest, conn)
    | .error error conn =>
      let (rest, conn) := performAll calls conn
      ((call, .error error) :: rest, conn)

end Talk.Protocol.Mailbox
