import Talk.Lib.Exchange
import Talk.Verif.ClientSteps
import Talk.Verif.SessionLoop

/-!
# The delivery dialogue

One delivery of an invoice over one connection: the client of the sending server against a fresh
session of the receiving one. The requests and replies are written down as bytes, and each end is
shown to produce its side of the dialogue from the other's, one exchange after the other.
-/

namespace Talk.Verif.Dialogue

open Protocol ByteStream Text Hex SessionLoop ClientSteps Exchange
open Utf8 (bytes)

/-! ## The two ends -/

/-- One delivery: the parties, the invoice, the random bytes and clock readings of the client,
and the objects of the server. -/
structure Delivering (crypto : Crypto) (ω : Type) where
  /-- The JSON reader. -/
  json : JsonReader
  /-- The receiver's key. -/
  key : crypto.SigningKey
  /-- The sender's domain. -/
  senderDomain : String
  /-- The receiver's domain. -/
  receiverDomain : String
  /-- Who sends what to whom. -/
  invoice : ZsmptClient.Invoice
  /-- The nonce of the challenge. -/
  nonce : Block 16
  /-- When the challenge is issued. -/
  issuedAt : Int64
  /-- When the response is verified. -/
  now : Int64
  /-- The receiver's sink. -/
  sink : Delivery → ω → DeliveryOutcome × ω
  /-- The receiver's directory. -/
  directory : Option (String → ω → Bool × ω)
  /-- The receiver's random bytes. -/
  entropy : ω → Block 32 × ω

variable {crypto : Crypto} {ω : Type}

namespace Delivering

/-- `PlaceholderAddressProvider` over the world's random bytes. -/
def addressProvider (delivering : Delivering crypto ω) : AttestationMode → ω → MintedAddress × ω :=
  fun _ world => (placeholderMint (delivering.entropy world).1, (delivering.entropy world).2)

/-- The session `serve_connection` builds. -/
def session (delivering : Delivering crypto ω) : ZsmptSession crypto ω :=
  .withDomainKey delivering.receiverDomain delivering.key (some delivering.sink)
    delivering.directory delivering.addressProvider

/-- How the server ends, from all it hears. -/
def serverEnd (delivering : Delivering crypto ω) (world : ω) (toServer : List UInt8) :
    EStateM.Result FramingError (Running crypto ω) Unit :=
  run.run (placed (delivering.session, ⟨world, []⟩) toServer [] [])

/-- What the server emits. -/
def serverOutput (delivering : Delivering crypto ω) (world : ω) (toServer : List UInt8) :
    List UInt8 :=
  (final (delivering.serverEnd world toServer)).conn.output

/-- How the client ends, from all it hears. -/
def clientEnd (delivering : Delivering crypto ω) (toClient : List UInt8) :
    EStateM.Result ClientError ZsmptClient Unit :=
  (do
    ZsmptClient.connect
    ZsmptClient.sendInvoiceOver crypto delivering.json delivering.invoice
      (crypto.verifyingKey delivering.key) delivering.nonce delivering.issuedAt
      delivering.now).run
    (.opened ⟨toClient, []⟩ delivering.senderDomain)

/-- What the client emits. -/
def clientOutput (delivering : Delivering crypto ω) (toClient : List UInt8) : List UInt8 :=
  (final (delivering.clientEnd toClient)).stream.output

/-! ## What is exchanged -/

/-- The challenge the client issues. -/
def challenge (delivering : Delivering crypto ω) : Challenge :=
  .issue delivering.senderDomain delivering.receiverDomain delivering.nonce delivering.issuedAt

/-- The text of the receiver's response. -/
def responseWire (delivering : Delivering crypto ω) : String :=
  delivering.challenge.toWire ++ "|" ++ Hex.encode
    (ChallengeResponse.respond crypto delivering.challenge delivering.key).signature

/-- The outer state once the directory has been asked. -/
def asked (delivering : Delivering crypto ω) (world : ω) : Outer ω :=
  (delivering.session.userKnown delivering.invoice.recipientUser ⟨world, []⟩).2

/-- The address minted for the recipient. -/
def minted (delivering : Delivering crypto ω) (world : ω) : MintedAddress :=
  placeholderMint (delivering.entropy (delivering.asked world).world).1

/-- The attestation of that address. -/
def attestation (delivering : Delivering crypto ω) (world : ω) : Attestation :=
  .sign crypto delivering.receiverDomain delivering.invoice.recipientUser .ephemeral
    (delivering.minted world).address (delivering.minted world).pubkey delivering.key

/-- The outer state once the address is attested. -/
def attestedOuter (delivering : Delivering crypto ω) (world : ω) : Outer ω :=
  ⟨(delivering.entropy (delivering.asked world).world).2,
    (delivering.asked world).calls ++ [.mint .ephemeral (delivering.minted world)]⟩

/-- What the sink is handed. -/
def delivery (delivering : Delivering crypto ω) : Delivery where
  senderMailbox := delivering.invoice.senderUsername ++ "@" ++ delivering.senderDomain
  messageId := delivering.invoice.messageId
  recipientMailbox := delivering.invoice.recipientUser ++ "@" ++ delivering.receiverDomain
  payload := delivering.invoice.payload
  body := delivering.invoice.body

/-- The sink's answer. -/
def outcome (delivering : Delivering crypto ω) (world : ω) : DeliveryOutcome :=
  (delivering.sink delivering.delivery (delivering.attestedOuter world).world).1

/-- The outer state once the invoice is delivered. -/
def deliveredOuter (delivering : Delivering crypto ω) (world : ω) : Outer ω :=
  ⟨(delivering.sink delivering.delivery (delivering.attestedOuter world).world).2,
    (delivering.attestedOuter world).calls ++
      [.deliver delivering.delivery (delivering.outcome world)]⟩

/-- The status that answers HELLO. -/
def helloStatus (delivering : Delivering crypto ω) : Status :=
  ⟨.ok, "Hello " ++ delivering.senderDomain⟩

/-- The status that answers QUIT. -/
def closingStatus (delivering : Delivering crypto ω) : Status :=
  ⟨.closing, delivering.receiverDomain ++ " closing connection"⟩

/-- The command lines and the status lines of the dialogue that do not depend on the sink. -/
def lines (delivering : Delivering crypto ω) : List String :=
  ["ZSMTP 1.0 " ++ delivering.receiverDomain, "HELLO " ++ delivering.senderDomain,
    delivering.helloStatus.render, ZsmptClient.authLine delivering.challenge,
    addrLine delivering.invoice.recipientUser, invoiceLine delivering.invoice,
    delivering.closingStatus.render]

/-- The names are well formed and every line fits. -/
structure Ready (delivering : Delivering crypto ω) : Prop where
  /-- The sender's domain is a token. -/
  sender : IsToken delivering.senderDomain
  /-- The sender's domain holds no separator. -/
  senderFree : '|' ∉ delivering.senderDomain.toList
  /-- The receiver's domain is a token. -/
  receiver : IsToken delivering.receiverDomain
  /-- The receiver's domain holds no separator. -/
  receiverFree : '|' ∉ delivering.receiverDomain.toList
  /-- The recipient holds no line break. -/
  userFree : '\n' ∉ delivering.invoice.recipientUser.toList
  /-- The sender's name is a token. -/
  username : IsToken delivering.invoice.senderUsername
  /-- The message id is a token. -/
  messageId : IsToken delivering.invoice.messageId
  /-- The invoice fits into a blob. -/
  small : delivering.invoice.body.length ≤ maxBlob
  /-- Every line fits into 4094 bytes. -/
  fits : ∀ line ∈ delivering.lines, (bytes line).length ≤ 4094

/-- The response is verified at most 300 seconds after the challenge. -/
def Punctual (delivering : Delivering crypto ω) : Prop :=
  delivering.issuedAt.toInt ≤ delivering.now.toInt ∧
    delivering.now.toInt ≤ delivering.issuedAt.toInt + 300

/-- The challenge is acceptable when the response is verified. -/
def Fresh (delivering : Delivering crypto ω) : Prop :=
  ChallengeResponse.Acceptable delivering.challenge maxChallengeAge delivering.now

end Delivering

/-! ## Consequences of being ready -/

/-- A token holds no line break. -/
theorem token_free {text : String} (token : IsToken text) : '\n' ∉ text.toList :=
  fun member => absurd (token.2 '\n' member) (by decide)

/-- A text before and after which nothing breaks the line. -/
theorem free_append {left right : String} (leftFree : '\n' ∉ left.toList)
    (rightFree : '\n' ∉ right.toList) : '\n' ∉ (left ++ right).toList := by
  rw [String.toList_append, List.mem_append, not_or]
  exact ⟨leftFree, rightFree⟩

section Ready

variable {delivering : Delivering crypto ω} (ready : delivering.Ready)
include ready

/-- A line of the dialogue fits the reader's limit. -/
theorem line_fits {line : String} (member : line ∈ delivering.lines) :
    (bytes line).length + 2 ≤ maxLine := by
  have fits := ready.fits line member
  have limit : maxLine = 4096 := rfl
  omega

/-- A line of the dialogue fits the writer's limit. -/
theorem line_written_fits {line : String} (member : line ∈ delivering.lines) :
    (bytes line).length ≤ maxLine := by
  have fits := line_fits ready member
  omega

/-- The wire format carries the challenge. -/
theorem challenge_carried : delivering.challenge.Carried :=
  ⟨ready.senderFree, ready.receiverFree⟩

/-- A clock that moves by at most 300 seconds leaves the challenge acceptable. -/
theorem fresh_of_punctual (punctual : delivering.Punctual) : delivering.Fresh := by
  refine ⟨ready.sender.1, ready.receiver.1, ?_⟩
  obtain ⟨forward, within⟩ := punctual
  have age : (delivering.now - delivering.issuedAt).toInt =
      delivering.now.toInt - delivering.issuedAt.toInt := by
    rw [Int64.toInt_sub]
    exact Int.bmod_eq_of_le (by omega) (by omega)
  have limit : maxChallengeAge.toInt = 300 := by decide
  have zero : (0 : Int64).toInt = 0 := by decide
  refine decide_eq_true ⟨?_, ?_⟩
  · rw [Int64.le_iff_toInt_le]
    change (delivering.now - delivering.issuedAt).toInt ≤ _
    omega
  · rw [Int64.le_iff_toInt_le]
    change _ ≤ (delivering.now - delivering.issuedAt).toInt
    omega

/-- The response fits into a blob. -/
theorem response_small : (bytes delivering.responseWire).length ≤ maxBlob := by
  have fits := ready.fits (ZsmptClient.authLine delivering.challenge)
    (by simp [Delivering.lines])
  have base64 := Base64.length_le_encode (bytes delivering.challenge.toWire)
  have size : (ChallengeResponse.respond crypto delivering.challenge
      delivering.key).signature.length = 64 := (crypto.sign _ _).property
  have one : (bytes "|").length = 1 := by decide
  have limit : maxBlob = 1048576 := rfl
  simp only [ZsmptClient.authLine, Utf8.bytes_append, List.length_append] at fits
  simp only [Delivering.responseWire, Utf8.bytes_append, List.length_append,
    length_bytes_encode, size, one]
  omega

/-- The attestation fits into a blob. -/
theorem attestation_small (world : ω) :
    (bytes (delivering.attestation world).toJson).length ≤ maxBlob := by
  have json := length_toJson (delivering.attestation world)
  have greeting := ready.fits ("ZSMTP 1.0 " ++ delivering.receiverDomain)
    (by simp [Delivering.lines])
  have addr := ready.fits (addrLine delivering.invoice.recipientUser) (by simp [Delivering.lines])
  have random := (delivering.entropy (delivering.asked world).world).1.property
  have size : (delivering.attestation world).signature.length = 64 := (crypto.sign _ _).property
  have address : (bytes (delivering.attestation world).address).length = 70 := by
    change (bytes ("taddr-" ++ Hex.encode _)).length = 70
    rw [Utf8.bytes_append, List.length_append, length_bytes_encode, random]
    decide
  have pubkey : (bytes (delivering.attestation world).pubkey).length = 64 := by
    change (bytes (Hex.encode _)).length = 64
    rw [length_bytes_encode, random]
  have domain : (delivering.attestation world).domain = delivering.receiverDomain := rfl
  have user : (delivering.attestation world).user = delivering.invoice.recipientUser := rfl
  have limit : maxBlob = 1048576 := rfl
  simp only [addrLine, Utf8.bytes_append, List.length_append] at greeting addr
  rw [domain, user, address, pubkey, size] at json
  omega

end Ready

/-! ## The bytes of the dialogue -/

/-- QUIT. -/
def quitBytes : List UInt8 := bytes "QUIT" ++ crlf

namespace Delivering

variable (delivering : Delivering crypto ω)

/-- The greeting. -/
def greetingBytes : List UInt8 := bytes ("ZSMTP 1.0 " ++ delivering.receiverDomain) ++ crlf

/-- HELLO. -/
def helloBytes : List UInt8 := bytes ("HELLO " ++ delivering.senderDomain) ++ crlf

/-- AUTH. -/
def authBytes : List UInt8 := bytes (ZsmptClient.authLine delivering.challenge) ++ crlf

/-- ADDR. -/
def addrBytes : List UInt8 := bytes (addrLine delivering.invoice.recipientUser) ++ crlf

/-- The reply to HELLO. -/
def helloReply : Reply := .status delivering.helloStatus

/-- The reply to AUTH. -/
def authReply : Reply := .statusWithBlob ⟨.ok, "authenticated"⟩ (bytes delivering.responseWire)

/-- The reply to ADDR for a known user. -/
def addrReply (world : ω) : Reply :=
  .statusWithBlob ⟨.ok, "address attestation"⟩ (bytes (delivering.attestation world).toJson)

/-- The reply to ADDR for a user that is empty or unknown. -/
def refusal : Reply :=
  if delivering.invoice.recipientUser = "" then .status ⟨.syntaxError, "ADDR requires a user"⟩
  else .status ⟨.permReject, "no such user: " ++ delivering.invoice.recipientUser⟩

/-- The reply to INVOICE. -/
def outcomeReply (world : ω) : Reply :=
  .status (ZsmptSession.outcomeStatus (delivering.outcome world))

/-- The session once HELLO is answered. -/
def greeted : ZsmptSession crypto ω := { delivering.session with state := .awaitingAuth }

/-- The session once AUTH is answered. -/
def authenticated : ZsmptSession crypto ω :=
  { delivering.session with
    state := .authenticated, peerDomain := some delivering.senderDomain }

/-- The session once ADDR is answered. -/
def addressed : ZsmptSession crypto ω :=
  { delivering.authenticated with addrUser := some delivering.invoice.recipientUser }

/-- The directory knows the recipient. -/
def Known (world : ω) : Prop :=
  delivering.invoice.recipientUser ≠ "" ∧
    (delivering.session.userKnown delivering.invoice.recipientUser ⟨world, []⟩).1 = true

/-- The outer state once ADDR is refused. -/
def refusedOuter (world : ω) : Outer ω :=
  if delivering.invoice.recipientUser = "" then ⟨world, []⟩ else delivering.asked world

end Delivering

/-! ## The server's side -/

/-- A status is writable when it fits. -/
theorem writable_status {status : Status} (fits : (bytes status.render).length ≤ maxLine) :
    Writable (.status status) :=
  ⟨fits, Nat.zero_le _⟩

/-- A status with a blob is writable when both fit. -/
theorem writable_blob {status : Status} {blob : List UInt8}
    (fits : (bytes status.render).length ≤ maxLine) (small : blob.length ≤ maxBlob) :
    Writable (.statusWithBlob status blob) :=
  ⟨fits, small⟩

section Server

variable {delivering : Delivering crypto ω} (ready : delivering.Ready) (world : ω)
include ready

/-- The server greets before it hears anything. -/
theorem server_greeting (input : List UInt8) :
    delivering.serverEnd world input =
      serve (placed (delivering.session, ⟨world, []⟩) input delivering.greetingBytes []) := by
  have fits : (bytes delivering.session.greeting).length ≤ maxLine :=
    line_written_fits ready (by simp [Delivering.lines, ZsmptSession.greeting, Delivering.session,
      ZsmptSession.withDomainKey])
  exact run_greeting (placed (delivering.session, ⟨world, []⟩) input [] []) fits

/-- The server answers HELLO. -/
theorem server_hello (rest output : List UInt8) (lines : List String) :
    serve (placed (delivering.session, ⟨world, []⟩) (delivering.helloBytes ++ rest) output lines) =
      serve (placed (delivering.greeted, ⟨world, []⟩) rest
        (output ++ replyBytes delivering.helloReply)
        (lines ++ ["HELLO " ++ delivering.senderDomain])) := by
  have fits : (bytes ("HELLO " ++ delivering.senderDomain)).length + 2 ≤ maxLine :=
    line_fits ready (by simp [Delivering.lines])
  have writable : Writable delivering.helloReply :=
    writable_status (line_written_fits ready (by simp [Delivering.lines]))
  have handled : delivering.session.handle (.hello delivering.senderDomain) ⟨world, []⟩ =
      ⟨.ok delivering.helloReply, delivering.greeted, ⟨world, []⟩⟩ := by
    change delivering.session.onHello delivering.senderDomain ⟨world, []⟩ = _
    rw [ZsmptSession.onHello, if_neg (by simp [Delivering.session, ZsmptSession.withDomainKey]),
      if_neg ready.sender.1]
    rfl
  exact serve_line (free_append (by decide) (token_free ready.sender)) fits
    (decodeLine_hello ready.sender.2) rfl (by simp) handled writable rest output lines

/-- The server answers AUTH with its response. -/
theorem server_auth (rest output : List UInt8) (lines : List String) :
    serve (placed (delivering.greeted, ⟨world, []⟩) (delivering.authBytes ++ rest) output lines) =
      serve (placed (delivering.authenticated, ⟨world, []⟩) rest
        (output ++ replyBytes delivering.authReply)
        (lines ++ [ZsmptClient.authLine delivering.challenge])) := by
  have free : '\n' ∉ (ZsmptClient.authLine delivering.challenge).toList :=
    free_append (by decide) fun member => absurd (Base64.whitespace_encode member) (by decide)
  have fits : (bytes (ZsmptClient.authLine delivering.challenge)).length + 2 ≤ maxLine :=
    line_fits ready (by simp [Delivering.lines])
  have writable : Writable delivering.authReply :=
    writable_blob (by decide) (response_small ready)
  have handled : delivering.greeted.handle (.auth (bytes delivering.challenge.toWire))
      ⟨world, []⟩ = ⟨.ok delivering.authReply, delivering.authenticated, ⟨world, []⟩⟩ := by
    change delivering.greeted.onAuth (bytes delivering.challenge.toWire) ⟨world, []⟩ = _
    rw [ZsmptSession.onAuth, if_neg (by simp [Delivering.greeted]), Utf8.fromUtf8Lossy_bytes,
      Challenge.fromWire_toWire (challenge_carried ready)]
    rfl
  exact serve_line free fits (decodeLine_auth _) rfl (by simp) handled writable rest output lines

/-- The server reads an ADDR line. -/
theorem addrLine_read :
    '\n' ∉ (addrLine delivering.invoice.recipientUser).toList ∧
      (bytes (addrLine delivering.invoice.recipientUser)).length + 2 ≤ maxLine ∧
      decodeLine (addrLine delivering.invoice.recipientUser) =
        .ok (.addr .ephemeral delivering.invoice.recipientUser) :=
  ⟨free_append (by decide) ready.userFree, line_fits ready (by simp [Delivering.lines]),
    by rw [addrLine]; exact decodeLine_addr .ephemeral delivering.invoice.recipientUser⟩

/-- The server answers ADDR for a known user with its attestation. -/
theorem server_addr (known : delivering.Known world) (rest output : List UInt8)
    (lines : List String) :
    serve (placed (delivering.authenticated, ⟨world, []⟩) (delivering.addrBytes ++ rest) output
        lines) =
      serve (placed (delivering.addressed, delivering.attestedOuter world) rest
        (output ++ replyBytes (delivering.addrReply world))
        (lines ++ [addrLine delivering.invoice.recipientUser])) := by
  obtain ⟨free, fits, decoded⟩ := addrLine_read ready
  have writable : Writable (delivering.addrReply world) :=
    writable_blob (by decide) (attestation_small ready world)
  have handled : delivering.authenticated.handle (.addr .ephemeral delivering.invoice.recipientUser)
      ⟨world, []⟩ =
        ⟨.ok (delivering.addrReply world), delivering.addressed,
          delivering.attestedOuter world⟩ := by
    have answer : (delivering.authenticated.userKnown delivering.invoice.recipientUser
      ⟨world, []⟩).1 = true := known.2
    change delivering.authenticated.onAddr .ephemeral delivering.invoice.recipientUser
      ⟨world, []⟩ = _
    rw [ZsmptSession.onAddr, if_neg (by simp [Delivering.authenticated]), if_neg known.1]
    simp only [answer, Bool.true_eq_false, ↓reduceIte]
    rfl
  exact serve_line free fits decoded rfl (by simp) handled writable rest output lines

/-- The server refuses ADDR for a user that is empty or unknown. -/
theorem server_refusal (unknown : ¬delivering.Known world)
    (short : (bytes delivering.refusal.line.render).length ≤ maxLine) (rest output : List UInt8)
    (lines : List String) :
    serve (placed (delivering.authenticated, ⟨world, []⟩) (delivering.addrBytes ++ rest) output
        lines) =
      serve (placed (delivering.authenticated, delivering.refusedOuter world) rest
        (output ++ replyBytes delivering.refusal)
        (lines ++ [addrLine delivering.invoice.recipientUser])) := by
  obtain ⟨free, fits, decoded⟩ := addrLine_read ready
  have writable : Writable delivering.refusal := by
    refine ⟨short, ?_⟩
    unfold Delivering.refusal
    split_ifs <;> exact Nat.zero_le _
  have handled : delivering.authenticated.handle (.addr .ephemeral delivering.invoice.recipientUser)
      ⟨world, []⟩ =
        ⟨.ok delivering.refusal, delivering.authenticated, delivering.refusedOuter world⟩ := by
    change delivering.authenticated.onAddr .ephemeral delivering.invoice.recipientUser
      ⟨world, []⟩ = _
    rw [ZsmptSession.onAddr, if_neg (by simp [Delivering.authenticated]), Delivering.refusal,
      Delivering.refusedOuter]
    by_cases empty : delivering.invoice.recipientUser = ""
    · simp only [empty, ↓reduceIte]
      rfl
    · have answer : (delivering.authenticated.userKnown delivering.invoice.recipientUser
          ⟨world, []⟩).1 = false := Bool.eq_false_iff.mpr fun known => unknown ⟨empty, known⟩
      simp only [empty, ↓reduceIte, answer]
      rfl
  exact serve_line free fits decoded rfl (by simp) handled writable rest output lines

omit world in
/-- The INVOICE line is one line. -/
theorem invoiceLine_free : '\n' ∉ (invoiceLine delivering.invoice).toList := by
  have word : '\n' ∉ delivering.invoice.payload.word.toList := by
    cases delivering.invoice.payload <;> decide
  exact free_append (free_append (free_append (free_append (free_append (by decide)
    (token_free ready.username)) (by decide)) (token_free ready.messageId)) (by decide)) word

/-- The server answers INVOICE with the sink's outcome. -/
theorem server_invoice
    (short : (bytes (ZsmptSession.outcomeStatus (delivering.outcome world)).render).length ≤
      maxLine) (rest output : List UInt8) (lines : List String) :
    serve (placed (delivering.addressed, delivering.attestedOuter world)
        (invoiceBytes delivering.invoice ++ rest) output lines) =
      serve (placed (delivering.addressed, delivering.deliveredOuter world) rest
        (output ++ replyBytes (delivering.outcomeReply world))
        (lines ++ [invoiceLine delivering.invoice])) := by
  have free := invoiceLine_free ready
  have fits : (bytes (invoiceLine delivering.invoice)).length + 2 ≤ maxLine :=
    line_fits ready (by simp [Delivering.lines])
  have handled : delivering.addressed.handle (.invoice delivering.invoice.senderUsername
      delivering.invoice.messageId delivering.invoice.payload delivering.invoice.body)
      (delivering.attestedOuter world) =
        ⟨.ok (delivering.outcomeReply world), delivering.addressed,
          delivering.deliveredOuter world⟩ := by
    change delivering.addressed.onInvoice delivering.invoice.senderUsername
      delivering.invoice.messageId delivering.invoice.payload delivering.invoice.body
      (delivering.attestedOuter world) = _
    rw [ZsmptSession.onInvoice, if_neg (by simp [Delivering.addressed, Delivering.authenticated]),
      if_neg ready.messageId.1]
    rfl
  rw [invoiceBytes, List.append_assoc]
  exact serve_invoice free fits
    (decodeLine_invoice ready.username ready.messageId delivering.invoice.payload) ready.small
    handled (writable_status short) rest output lines

/-- QUIT ends the session. -/
theorem server_quit (state : ZsmptSession crypto ω) (own : state.domain = delivering.receiverDomain)
    (outer : Outer ω) (rest output : List UInt8) (lines : List String) :
    serve (placed (state, outer) (quitBytes ++ rest) output lines) =
      .ok () (placed (state, outer) rest
        (output ++ replyBytes (.status delivering.closingStatus)) (lines ++ ["QUIT"])) := by
  have read : readLine.run ⟨bytes "QUIT" ++ crlf ++ rest, output⟩ = .ok "QUIT" ⟨rest, output⟩ :=
    readLine_text (by decide) (by decide) rest output
  have whole : (readCommand "QUIT").run ⟨rest, output⟩ = .ok (some .quit) ⟨rest, output⟩ := by
    simp only [readCommand, decodeLine_quit, EStateM.run_pure]
  have writable : Writable (.status delivering.closingStatus) :=
    writable_status (line_written_fits ready (by simp [Delivering.lines]))
  have closes : state.handle .quit outer =
      ⟨.ok (.status delivering.closingStatus), state, outer⟩ := by
    change state.refuse outer .closing (state.domain ++ " closing connection") = _
    rw [own]
    rfl
  have done := turn_command (placed (state, outer) (quitBytes ++ rest) output lines)
    read whole (by
      change Writable (replyOf (state.handle .quit outer).result)
      rw [closes]
      exact writable)
  rw [serve_stop done]
  simp only [placed, closes, replyOf, Conn.write]

end Server

/-! ## The client's side -/

namespace Delivering

variable (delivering : Delivering crypto ω)

/-- The client in a phase, at a place of its stream. -/
def client (phase : ClientState) (addrUser : Option String) (input output : List UInt8) :
    ZsmptClient :=
  ⟨⟨input, output⟩, phase, delivering.senderDomain, delivering.receiverDomain, addrUser⟩

/-- The client's steps from INVOICE on. -/
def fromInvoice : EStateM ClientError ZsmptClient Unit := do
  deliverInvoice delivering.invoice
  ZsmptClient.ignore ZsmptClient.quit

/-- The client's steps from ADDR on. -/
def fromAddr : EStateM ClientError ZsmptClient Unit := do
  let _ ← ZsmptClient.requestAddress crypto delivering.json delivering.invoice.recipientUser
    .ephemeral (crypto.verifyingKey delivering.key)
  delivering.fromInvoice

/-- The client's steps from AUTH on. -/
def fromAuth : EStateM ClientError ZsmptClient Unit := do
  ZsmptClient.authenticate crypto (crypto.verifyingKey delivering.key) delivering.nonce
    delivering.issuedAt delivering.now
  delivering.fromAddr

/-- The client's steps from HELLO on. -/
def fromHello : EStateM ClientError ZsmptClient Unit := do
  ZsmptClient.hello
  delivering.fromAuth

end Delivering

/-- The client starts with the greeting. -/
theorem clientEnd_eq (delivering : Delivering crypto ω) (input : List UInt8) :
    delivering.clientEnd input =
      (ZsmptClient.connect >>= fun _ => delivering.fromHello).run
        (.opened ⟨input, []⟩ delivering.senderDomain) := rfl

/-- The steps from INVOICE on go forward. -/
theorem forward_fromInvoice (delivering : Delivering crypto ω) :
    Forward ZsmptClient.stream delivering.fromInvoice :=
  forward_bind (forward_sendInvoice _ _ _ _) fun _ => forward_ignore_quit

/-- The steps from ADDR on go forward. -/
theorem forward_fromAddr (delivering : Delivering crypto ω) :
    Forward ZsmptClient.stream delivering.fromAddr :=
  forward_bind (forward_requestAddress _ _ _ _ _) fun _ => forward_fromInvoice delivering

/-- The steps from AUTH on go forward. -/
theorem forward_fromAuth (delivering : Delivering crypto ω) :
    Forward ZsmptClient.stream delivering.fromAuth :=
  forward_bind (forward_authenticate _ _ _ _ _) fun _ => forward_fromAddr delivering

/-- A success status starts as the client expects it. -/
theorem starts_ok (message : String) : startsWith (Status.render ⟨.ok, message⟩) "250 " = true := by
  have code : toString StatusCode.ok.value.toNat ++ " " = "250 " := by decide
  rw [Status.render, code]
  exact startsWith_append _ _

section Client

variable {delivering : Delivering crypto ω} (ready : delivering.Ready) (world : ω)
include ready

/-- The client hears the greeting. -/
theorem client_greeting (rest : List UInt8) :
    delivering.clientEnd (delivering.greetingBytes ++ rest) =
      delivering.fromHello.run (delivering.client .connected none rest []) := by
  rw [clientEnd_eq]
  exact run_bind_of_ok (connect_ok (.opened ⟨[], []⟩ delivering.senderDomain) ready.receiver.1
    (free_append (by decide) (token_free ready.receiver))
    (line_fits ready (by simp [Delivering.lines])) rest [])

/-- The client hears the reply to HELLO. -/
theorem client_hello (rest output : List UInt8) :
    delivering.fromHello.run (delivering.client .connected none
        (replyBytes delivering.helloReply ++ rest) output) =
      delivering.fromAuth.run (delivering.client .awaitingAuth none rest
        (output ++ delivering.helloBytes)) := by
  have free : '\n' ∉ delivering.helloStatus.render.toList :=
    free_append (by simp [Delivering.helloStatus]; decide)
      (free_append (by decide) (token_free ready.sender))
  have lineFits : (bytes ("HELLO " ++ delivering.senderDomain)).length ≤ maxLine :=
    line_written_fits ready (by simp [Delivering.lines])
  have connected : (delivering.client .connected none [] []).state = .connected := rfl
  exact run_bind_of_ok (hello_ok connected lineFits free
    (line_fits ready (by simp [Delivering.lines])) (starts_ok _) rest output)

/-- The client hears the response to a fresh challenge. -/
theorem client_auth (fresh : delivering.Fresh) (rest output : List UInt8) :
    delivering.fromAuth.run (delivering.client .awaitingAuth none
        (replyBytes delivering.authReply ++ rest) output) =
      delivering.fromAddr.run (delivering.client .authenticated none rest
        (output ++ delivering.authBytes)) := by
  have lineFits : (bytes (ZsmptClient.authLine delivering.challenge)).length ≤ maxLine :=
    line_written_fits ready (by simp [Delivering.lines])
  have waiting : (delivering.client .awaitingAuth none [] []).state = .awaitingAuth := rfl
  have heard := authenticate_ok crypto delivering.key waiting rfl lineFits
    (challenge_carried ready) fresh (response_small ready) rest output
  rw [← List.append_assoc] at heard
  exact run_bind_of_ok heard

/-- The client hears the attestation. -/
theorem client_addr (rest output : List UInt8) :
    delivering.fromAddr.run (delivering.client .authenticated none
        (replyBytes (delivering.addrReply world) ++ rest) output) =
      delivering.fromInvoice.run (delivering.client .addressed
        (some delivering.invoice.recipientUser) rest (output ++ delivering.addrBytes)) := by
  have lineFits : (bytes (addrLine delivering.invoice.recipientUser)).length ≤ maxLine :=
    line_written_fits ready (by simp [Delivering.lines])
  have authenticated : (delivering.client .authenticated none [] []).state = .authenticated := rfl
  have heard := requestAddress_ok crypto delivering.json delivering.key authenticated
    delivering.invoice.recipientUser (delivering.minted world).address
    (delivering.minted world).pubkey lineFits rfl (attestation_small ready world) rest output
  rw [← List.append_assoc] at heard
  exact run_bind_of_ok heard

/-- The client has written its invoice and expects the outcome. -/
theorem client_invoice (input output : List UInt8) :
    delivering.fromInvoice.run (delivering.client .addressed
        (some delivering.invoice.recipientUser) input output) =
      (ZsmptClient.expectStatus "250 " >>= fun _ => ZsmptClient.ignore ZsmptClient.quit).run
        (delivering.client .addressed (some delivering.invoice.recipientUser) input
          (output ++ invoiceBytes delivering.invoice)) := by
  have fits : (bytes (invoiceLine delivering.invoice)).length ≤ maxLine :=
    line_written_fits ready (by simp [Delivering.lines])
  have addressed : (delivering.client .addressed (some delivering.invoice.recipientUser) input
      output).state = .addressed := rfl
  rw [Delivering.fromInvoice, EStateM.run_bind, sendInvoice_run addressed fits ready.small,
    EStateM.run_bind]
  rfl

/-- An accepted invoice is reported as success, and the client quits. -/
theorem client_accepted {messageId : String}
    (accepted : delivering.outcome world = .accepted messageId)
    (short : (bytes (ZsmptSession.outcomeStatus (delivering.outcome world)).render).length ≤ 4094)
    (rest output : List UInt8) :
    ∃ after, delivering.fromInvoice.run (delivering.client .addressed
        (some delivering.invoice.recipientUser) (replyBytes (delivering.outcomeReply world) ++ rest)
        output) = .ok () after ∧
      after.stream.output = output ++ invoiceBytes delivering.invoice ++ quitBytes := by
  have text : (ZsmptSession.outcomeStatus (delivering.outcome world)).render =
      "250 " ++ ("accepted into inbox (" ++ messageId ++ ")") := by
    have code : toString StatusCode.okQueued.value.toNat ++ " " = "250 " := by decide
    rw [accepted, ZsmptSession.outcomeStatus, Status.render, code]
  have limit : maxLine = 4096 := rfl
  have fits : (bytes ("250 " ++ ("accepted into inbox (" ++ messageId ++ ")"))).length + 2 ≤
      maxLine := by
    rw [← text]
    omega
  obtain ⟨middle, heard, same⟩ := expectStatus_start (by decide) fits
    (delivering.client .addressed (some delivering.invoice.recipientUser) [] []) rest
    (output ++ invoiceBytes delivering.invoice)
  obtain ⟨after, quit, written⟩ := ignore_quit middle
  refine ⟨after, ?_, by rw [written, same]; rfl⟩
  rw [client_invoice ready, Delivering.outcomeReply, replyBytes, text]
  exact (run_bind_of_ok heard).trans quit

/-- Any other outcome is reported as its status, and the client stops. -/
theorem client_refused
    (other :
      startsWith (ZsmptSession.outcomeStatus (delivering.outcome world)).render "250 " = false)
    (free : '\n' ∉ (ZsmptSession.outcomeStatus (delivering.outcome world)).render.toList)
    (short : (bytes (ZsmptSession.outcomeStatus (delivering.outcome world)).render).length ≤ 4094)
    (rest output : List UInt8) :
    delivering.fromInvoice.run (delivering.client .addressed
        (some delivering.invoice.recipientUser) (replyBytes (delivering.outcomeReply world) ++ rest)
        output) =
      .error (ZsmptClient.statusError
          (ZsmptSession.outcomeStatus (delivering.outcome world)).render)
        (delivering.client .addressed (some delivering.invoice.recipientUser) rest
          (output ++ invoiceBytes delivering.invoice)) := by
  have limit : maxLine = 4096 := rfl
  rw [client_invoice ready]
  exact run_bind_of_error (ZsmptClient.expectStatus_other _ free (by omega) other
    (delivering.client .addressed (some delivering.invoice.recipientUser) [] []) rest
    (output ++ invoiceBytes delivering.invoice))

end Client

/-! ## The dialogue, one exchange after the other -/

namespace Delivering

variable (delivering : Delivering crypto ω)

/-- What the client says up to AUTH. -/
def saidAuth : List UInt8 := delivering.helloBytes ++ delivering.authBytes

/-- What the client says up to ADDR. -/
def saidAddr : List UInt8 := delivering.saidAuth ++ delivering.addrBytes

/-- What the client says up to INVOICE. -/
def saidInvoice : List UInt8 := delivering.saidAddr ++ invoiceBytes delivering.invoice

/-- What the server says up to the reply to HELLO. -/
def toldHello : List UInt8 := delivering.greetingBytes ++ replyBytes delivering.helloReply

/-- What the server says up to the reply to AUTH. -/
def toldAuth : List UInt8 := delivering.toldHello ++ replyBytes delivering.authReply

/-- What the server says up to the reply to ADDR. -/
def toldAddr (world : ω) : List UInt8 :=
  delivering.toldAuth ++ replyBytes (delivering.addrReply world)

/-- What the server says up to the reply to INVOICE. -/
def toldOutcome (world : ω) : List UInt8 :=
  delivering.toldAddr world ++ replyBytes (delivering.outcomeReply world)

/-- The outcome's status line fits. -/
def OutcomeFits (world : ω) : Prop :=
  (bytes (ZsmptSession.outcomeStatus (delivering.outcome world)).render).length ≤ 4094

end Delivering

section Exchanges

variable {delivering : Delivering crypto ω} (ready : delivering.Ready) (world : ω)
include ready

/-- A server that has heard HELLO goes on in a session that was greeted. -/
theorem server_said_hello (more : List UInt8) :
    ∃ lines, delivering.serverEnd world (delivering.helloBytes ++ more) =
      serve (placed (delivering.greeted, ⟨world, []⟩) more delivering.toldHello lines) :=
  ⟨_, (server_greeting ready world _).trans (server_hello ready world more _ _)⟩

/-- A server that has heard AUTH goes on in a session that is authenticated. -/
theorem server_said_auth (more : List UInt8) :
    ∃ lines, delivering.serverEnd world (delivering.saidAuth ++ more) =
      serve (placed (delivering.authenticated, ⟨world, []⟩) more delivering.toldAuth
        lines) := by
  obtain ⟨lines, before⟩ := server_said_hello ready world (delivering.authBytes ++ more)
  rw [Delivering.saidAuth, List.append_assoc]
  exact ⟨_, before.trans (server_auth ready world more _ lines)⟩

/-- The server after ADDR for a known user. -/
theorem server_said_addr (known : delivering.Known world) (more : List UInt8) :
    ∃ lines, delivering.serverEnd world (delivering.saidAddr ++ more) =
      serve (placed (delivering.addressed, delivering.attestedOuter world) more
        (delivering.toldAddr world) lines) := by
  obtain ⟨lines, before⟩ := server_said_auth ready world (delivering.addrBytes ++ more)
  rw [Delivering.saidAddr, List.append_assoc]
  exact ⟨_, before.trans (server_addr ready world known more _ lines)⟩

/-- A server that has heard INVOICE goes on with what the delivery has left. -/
theorem server_said_invoice (known : delivering.Known world) (fits : delivering.OutcomeFits world)
    (more : List UInt8) :
    ∃ lines, delivering.serverEnd world (delivering.saidInvoice ++ more) =
      serve (placed (delivering.addressed, delivering.deliveredOuter world) more
        (delivering.toldOutcome world) lines) := by
  obtain ⟨lines, before⟩ := server_said_addr ready world known
    (invoiceBytes delivering.invoice ++ more)
  rw [Delivering.saidInvoice, List.append_assoc]
  exact ⟨_, before.trans (server_invoice ready world (Nat.le_trans fits (by decide)) more _ lines)⟩

/-- The client after the reply to HELLO. -/
theorem client_told_hello (more : List UInt8) :
    delivering.clientEnd (delivering.toldHello ++ more) =
      delivering.fromAuth.run
        (delivering.client .awaitingAuth none more delivering.helloBytes) := by
  rw [Delivering.toldHello, List.append_assoc]
  exact (client_greeting ready _).trans (client_hello ready more [])

/-- The client after the reply to AUTH. -/
theorem client_told_auth (fresh : delivering.Fresh) (more : List UInt8) :
    delivering.clientEnd (delivering.toldAuth ++ more) =
      delivering.fromAddr.run (delivering.client .authenticated none more delivering.saidAuth) := by
  rw [Delivering.toldAuth, List.append_assoc]
  exact (client_told_hello ready _).trans (client_auth ready fresh more _)

/-- The client after the reply to ADDR. -/
theorem client_told_addr (fresh : delivering.Fresh) (more : List UInt8) :
    delivering.clientEnd (delivering.toldAddr world ++ more) =
      delivering.fromInvoice.run (delivering.client .addressed
        (some delivering.invoice.recipientUser) more delivering.saidAddr) := by
  rw [Delivering.toldAddr, List.append_assoc]
  exact (client_told_auth ready fresh _).trans (client_addr ready world more _)

/-- The client says HELLO once it has heard the greeting. -/
theorem client_emits_hello :
    Emits delivering.clientOutput delivering.greetingBytes delivering.helloBytes := by
  intro more
  have fits : (bytes ("HELLO " ++ delivering.senderDomain)).length ≤ maxLine :=
    line_written_fits ready (by simp [Delivering.lines])
  have connected : (delivering.client .connected none more []).state = .connected := rfl
  rw [Delivering.clientOutput, client_greeting ready]
  exact (hello_written connected fits).trans
    (forward_extends (fun _ => forward_fromAuth delivering) _)

/-- The client says AUTH once it has heard the reply to HELLO. -/
theorem client_emits_auth :
    Emits delivering.clientOutput delivering.toldHello delivering.saidAuth := by
  intro more
  have fits : (bytes (ZsmptClient.authLine delivering.challenge)).length ≤ maxLine :=
    line_written_fits ready (by simp [Delivering.lines])
  have waiting : (delivering.client .awaitingAuth none more delivering.helloBytes).state =
    .awaitingAuth := rfl
  have issued : Challenge.issue (delivering.client .awaitingAuth none more
    delivering.helloBytes).senderDomain (delivering.client .awaitingAuth none more
      delivering.helloBytes).receiverDomain delivering.nonce delivering.issuedAt =
        delivering.challenge := rfl
  have written := authenticate_written crypto (crypto.verifyingKey delivering.key) waiting
    delivering.now issued fits
  rw [Delivering.clientOutput, client_told_hello ready, Delivering.saidAuth, Delivering.authBytes,
    Delivering.fromAuth]
  generalize ZsmptClient.authLine delivering.challenge = line at written ⊢
  exact written.trans (forward_extends (fun _ => forward_fromAddr delivering) _)

/-- The client says ADDR once it has heard the response to a fresh challenge. -/
theorem client_emits_addr (fresh : delivering.Fresh) :
    Emits delivering.clientOutput delivering.toldAuth delivering.saidAddr := by
  intro more
  have fits : (bytes (addrLine delivering.invoice.recipientUser)).length ≤ maxLine :=
    line_written_fits ready (by simp [Delivering.lines])
  have authenticated : (delivering.client .authenticated none more delivering.saidAuth).state =
    .authenticated := rfl
  rw [Delivering.clientOutput, client_told_auth ready fresh]
  exact (requestAddress_written crypto delivering.json (crypto.verifyingKey delivering.key)
    authenticated delivering.invoice.recipientUser fits).trans
      (forward_extends (fun _ => forward_fromInvoice delivering) _)

/-- The client says INVOICE once it has heard the attestation. -/
theorem client_emits_invoice (fresh : delivering.Fresh) :
    Emits delivering.clientOutput (delivering.toldAddr world) delivering.saidInvoice := by
  intro more
  have fits : (bytes (invoiceLine delivering.invoice)).length ≤ maxLine :=
    line_written_fits ready (by simp [Delivering.lines])
  have addressed : (delivering.client .addressed (some delivering.invoice.recipientUser) more
    delivering.saidAddr).state = .addressed := rfl
  have written := sendInvoice_written addressed fits ready.small
  rw [Delivering.clientOutput, client_told_addr ready world fresh, Delivering.fromInvoice]
  exact written.trans (forward_extends (fun _ => forward_ignore_quit) _)

end Exchanges

/-- What the server has written when it enters its loop is what it has emitted. -/
theorem server_emits {delivering : Delivering crypto ω} {world : ω} {heard emitted : List UInt8}
    {state : ZsmptSession crypto ω × Outer ω}
    (reached : ∀ more, ∃ lines, delivering.serverEnd world (heard ++ more) =
      serve (placed state more emitted lines)) :
    Emits (delivering.serverOutput world) heard emitted := by
  intro more
  obtain ⟨lines, served⟩ := reached more
  rw [Delivering.serverOutput, served]
  exact serve_output (placed state more emitted lines)

end Talk.Verif.Dialogue
