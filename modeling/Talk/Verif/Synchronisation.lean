import Talk.Lib.Transition
import Talk.Verif.SessionLoop

/-!
# Staying in step with the peer

A request is a line and, for an INVOICE line, the blob that follows it. The loop reads the blob
only after the line has decoded, and a reply that echoes the peer's text has to fit the writer's
limit. While every INVOICE line decodes and every echo fits, the lines handed to the decoder are
the lines of the requests, and each request is answered by one status line, in order.
-/

namespace Talk.Verif.Synchronisation

open Protocol ByteStream SessionLoop
open Utf8 (bytes)

variable {crypto : Crypto} {ω : Type}

/-! ## Requests -/

/-- One request of a client. -/
structure Request where
  /-- The command line. -/
  line : LineWire
  /-- The blob behind it. -/
  blob : Option BlobWire
  /-- Exactly the lines whose verb is INVOICE are followed by a blob. -/
  paired : blob.isSome ↔ lineVerb line.text = "INVOICE"

namespace Request

/-- The bytes of the blob. -/
def blobWire (request : Request) : List UInt8 :=
  match request.blob with
  | none => []
  | some blob => blob.wire

/-- The bytes of a request. -/
def wire (request : Request) : List UInt8 := request.line.wire ++ request.blobWire

/-- The content of the blob. -/
def body (request : Request) : List UInt8 :=
  match request.blob with
  | none => []
  | some blob => blob.data

/-- A decoded command, an INVOICE with its body. -/
def withBody (body : List UInt8) : Except CodecError Command → Option Command
  | .error _ => none
  | .ok (.invoice sender messageId payload _) => some (.invoice sender messageId payload body)
  | .ok command => some command

/-- The command a request stands for; none when its line does not decode. -/
def command (request : Request) : Option Command :=
  withBody request.body (decodeLine request.line.text)

end Request

/-- The requests up to and including the first QUIT. -/
def upToQuit : List Request → List Request
  | [] => []
  | request :: requests =>
    if request.command = some .quit then [request] else request :: upToQuit requests

/-- The reply to a request, and what it leaves behind. -/
def respond (state : ZsmptSession crypto ω × Outer ω) (request : Request) :
    Reply × (ZsmptSession crypto ω × Outer ω) :=
  match request.command with
  | none => (unknownCommand, state)
  | some command =>
    let handled := state.1.handle command state.2
    (replyOf handled.result, (handled.session, handled.outer))

/-- What a request leaves behind. -/
def respondStep (state : ZsmptSession crypto ω × Outer ω) (request : Request) :
    ZsmptSession crypto ω × Outer ω :=
  (respond state request).2

/-- The replies to requests, one each. -/
def replies (state : ZsmptSession crypto ω × Outer ω) : List Request → List Reply
  | [] => []
  | request :: requests =>
    (respond state request).1 :: replies (respond state request).2 requests

/-- Every request has one reply. -/
theorem length_replies (state : ZsmptSession crypto ω × Outer ω) (requests : List Request) :
    (replies state requests).length = requests.length := by
  induction requests generalizing state with
  | nil => rfl
  | cons request requests ih => simp [replies, ih]

/-- The loop stays in step: it decodes the requests' lines and no others, and answers each
request up to the first QUIT with one status line. -/
structure InStep (session : ZsmptSession crypto ω) (outer : Outer ω)
    (requests : List Request) : Prop where
  /-- The lines handed to the decoder. -/
  lines : (final (run.run ⟨⟨requests.flatMap Request.wire, []⟩, session, outer, []⟩)).lines =
    (upToQuit requests).map fun request => request.line.text
  /-- The bytes written: the greeting and the replies. -/
  output : (final (run.run ⟨⟨requests.flatMap Request.wire, []⟩, session, outer, []⟩)).conn.output =
    bytes session.greeting ++ crlf ++
      (replies (session, outer) (upToQuit requests)).flatMap replyBytes
  /-- Every reply is a single line, with its blob. -/
  single : ∀ reply ∈ replies (session, outer) (upToQuit requests),
    '\n' ∉ reply.line.render.toList

/-! ## When an echo fits -/

/-- The text an outcome is reported with fits and is a single line. -/
def OutcomeFits : DeliveryOutcome → Prop
  | .accepted messageId => 26 + (bytes messageId).length ≤ maxLine ∧ '\n' ∉ messageId.toList
  | .rejected reason => 4 + (bytes reason).length ≤ maxLine ∧ '\n' ∉ reason.toList
  | .retryLater reason => 4 + (bytes reason).length ≤ maxLine ∧ '\n' ∉ reason.toList

/-- The attestation the session signs for a user. -/
def attested (session : ZsmptSession crypto ω) (mode : AddrMode) (user : String)
    (outer : Outer ω) : Attestation :=
  let mode := ZsmptSession.attestationMode mode
  let minted := (session.addressProvider mode (session.userKnown user outer).2.world).1
  Attestation.sign crypto session.domain user mode minted.address minted.pubkey
    session.domainKey.signing

/-- What the reply to a command repeats fits into a line, and the attestation into a blob. The
numbers are the lengths of the fixed text around the echo. -/
def EchoFits (session : ZsmptSession crypto ω) (outer : Outer ω) : Command → Prop
  | .hello domain => session.state = .greeting → 10 + (bytes domain).length ≤ maxLine
  | .auth _ => True
  | .addr mode user => session.state = .authenticated → user ≠ "" →
    if (session.userKnown user outer).1 = true then
      (bytes (attested session mode user outer).toJson).length ≤ maxBlob
    else 18 + (bytes user).length ≤ maxLine
  | .invoice sender messageId payload body => session.state = .authenticated → messageId ≠ "" →
    ∀ recipient peer, session.addrUser = some recipient → session.peerDomain = some peer →
      match session.sink with
      | none => 26 + (bytes messageId).length ≤ maxLine
      | some sink => OutcomeFits (sink ⟨sender ++ "@" ++ peer, messageId,
          recipient ++ "@" ++ session.domain, payload, body⟩ outer.world).1
  | .status _ _ => True
  | .quit => 23 + (bytes session.domain).length ≤ maxLine ∧ '\n' ∉ session.domain.toList

/-- An INVOICE line decodes, and the echo of every command fits. -/
structure Answerable (state : ZsmptSession crypto ω × Outer ω) (request : Request) : Prop where
  /-- Only a line with another verb may fail to decode. -/
  decodes : request.command = none → lineVerb request.line.text ≠ "INVOICE"
  /-- The echo fits. -/
  fits : ∀ command, request.command = some command → EchoFits state.1 state.2 command

/-! ## Replies -/

/-- A reply the framing can write, on a single line. -/
structure Clean (reply : Reply) : Prop where
  /-- It can be written. -/
  writable : Writable reply
  /-- It is a single line. -/
  single : '\n' ∉ reply.line.render.toList

/-- A status is clean when its code has three digits and its text is a short single line. -/
theorem clean_status {code : StatusCode} {message : String}
    (digits : (bytes (toString code.value.toNat ++ " ")).length = 4 ∧
      '\n' ∉ (toString code.value.toNat ++ " ").toList)
    (fits : 4 + (bytes message).length ≤ maxLine) (free : '\n' ∉ message.toList) :
    Clean (.status ⟨code, message⟩) := by
  refine ⟨⟨?_, Nat.zero_le _⟩, ?_⟩
  · change (bytes (toString code.value.toNat ++ " " ++ message)).length ≤ maxLine
    rw [Utf8.bytes_append, List.length_append, digits.1]
    exact fits
  · change '\n' ∉ (toString code.value.toNat ++ " " ++ message).toList
    rw [String.toList_append, List.mem_append, not_or]
    exact ⟨digits.2, free⟩

/-- A status with a blob is clean when the status is and the blob is within the limit. -/
theorem clean_blob {code : StatusCode} {message : String} {blob : List UInt8}
    (digits : (bytes (toString code.value.toNat ++ " ")).length = 4 ∧
      '\n' ∉ (toString code.value.toNat ++ " ").toList)
    (fits : 4 + (bytes message).length ≤ maxLine) (free : '\n' ∉ message.toList)
    (small : blob.length ≤ maxBlob) : Clean (.statusWithBlob ⟨code, message⟩ blob) :=
  have status := clean_status digits fits free
  ⟨⟨status.writable.1, small⟩, status.single⟩

/-- The report of an accepted delivery is clean when the message id is short. -/
theorem clean_accepted {messageId : String} (fits : 26 + (bytes messageId).length ≤ maxLine)
    (free : '\n' ∉ messageId.toList) :
    Clean (.status ⟨.okQueued, "accepted into inbox (" ++ messageId ++ ")"⟩) := by
  have start : (bytes "accepted into inbox (").length = 21 ∧
      '\n' ∉ "accepted into inbox (".toList := by decide
  have close : (bytes ")").length = 1 ∧ '\n' ∉ ")".toList := by decide
  refine clean_status (by decide) ?_ ?_
  · simp only [Utf8.bytes_append, List.length_append, start.1, close.1]
    omega
  · simp only [String.toList_append, List.mem_append, not_or]
    exact ⟨⟨start.2, free⟩, close.2⟩

/-- The report of an outcome that fits is clean. -/
theorem clean_outcome {outcome : DeliveryOutcome} (fits : OutcomeFits outcome) :
    Clean (.status (ZsmptSession.outcomeStatus outcome)) := by
  cases outcome with
  | accepted messageId => exact clean_accepted fits.1 fits.2
  | rejected reason => exact clean_status (by decide) fits.1 fits.2
  | retryLater reason => exact clean_status (by decide) fits.1 fits.2

/-- The reply to HELLO is clean. -/
theorem clean_hello {session : ZsmptSession crypto ω} {outer : Outer ω} {domain : String}
    (fits : EchoFits session outer (.hello domain)) (free : '\n' ∉ domain.toList) :
    Clean (replyOf (session.onHello domain outer).result) := by
  unfold ZsmptSession.onHello
  split_ifs with phase empty
  · exact clean_status (by decide) (by decide) (by decide)
  · exact clean_status (by decide) (by decide) (by decide)
  · have start : (bytes "Hello ").length = 6 ∧ '\n' ∉ "Hello ".toList := by decide
    have short := fits (by simpa using phase)
    refine clean_status (by decide) ?_ ?_
    · rw [Utf8.bytes_append, List.length_append, start.1]
      omega
    · rw [String.toList_append, List.mem_append, not_or]
      exact ⟨start.2, free⟩

/-- The reply to AUTH is clean: the response is not much longer than the challenge. -/
theorem clean_auth {session : ZsmptSession crypto ω} {outer : Outer ω} {challenge : List UInt8}
    (short : challenge.length ≤ maxLine) :
    Clean (replyOf (session.onAuth challenge outer).result) := by
  unfold ZsmptSession.onAuth
  split_ifs with phase
  · exact clean_status (by decide) (by decide) (by decide)
  · split
    · exact clean_status (by decide) (by decide) (by decide)
    · rename_i issued read
      refine clean_blob (by decide) (by decide) (by decide) ?_
      have text := Utf8.length_fromUtf8Lossy challenge
      have wire := Challenge.length_toWire read
      have size : (ChallengeResponse.respond crypto issued
          session.domainKey.signing).signature.length = 64 := (crypto.sign _ _).property
      have one : (bytes "|").length = 1 := by decide
      have limits : maxLine = 4096 ∧ maxBlob = 1048576 := by decide
      simp only [Utf8.bytes_append, List.length_append, Hex.length_bytes_encode, size, one]
      omega

/-- The reply to ADDR is clean. -/
theorem clean_addr {session : ZsmptSession crypto ω} {outer : Outer ω} {mode : AddrMode}
    {user : String} (fits : EchoFits session outer (.addr mode user))
    (free : '\n' ∉ user.toList) :
    Clean (replyOf (session.onAddr mode user outer).result) := by
  unfold ZsmptSession.onAddr
  split_ifs with phase empty
  · exact clean_status (by decide) (by decide) (by decide)
  · exact clean_status (by decide) (by decide) (by decide)
  · have short := fits (by simpa using phase) empty
    by_cases known : (session.userKnown user outer).1 = true
    · simp only [known, ↓reduceIte, Bool.true_eq_false] at short ⊢
      exact clean_blob (by decide) (by decide) (by decide) short
    · have unknown : (session.userKnown user outer).1 = false := by simpa using known
      have start : (bytes "no such user: ").length = 14 ∧ '\n' ∉ "no such user: ".toList := by
        decide
      simp only [unknown, ↓reduceIte, Bool.false_eq_true] at short ⊢
      refine clean_status (by decide) ?_ ?_
      · rw [Utf8.bytes_append, List.length_append, start.1]
        omega
      · rw [String.toList_append, List.mem_append, not_or]
        exact ⟨start.2, free⟩

/-- The reply to INVOICE is clean. -/
theorem clean_invoice {session : ZsmptSession crypto ω} {outer : Outer ω}
    {sender messageId : String} {payload : Payload} {body : List UInt8}
    (fits : EchoFits session outer (.invoice sender messageId payload body))
    (free : '\n' ∉ messageId.toList) :
    Clean (replyOf (session.onInvoice sender messageId payload body outer).result) := by
  unfold ZsmptSession.onInvoice
  split_ifs with phase empty
  · exact clean_status (by decide) (by decide) (by decide)
  · exact clean_status (by decide) (by decide) (by decide)
  · split
    · exact clean_status (by decide) (by decide) (by decide)
    · rename_i recipient addressed
      split
      · exact clean_status (by decide) (by decide) (by decide)
      · rename_i peer greeted
        have short := fits (by simpa using phase) empty recipient peer addressed greeted
        split
        · rename_i unattached
          rw [unattached] at short
          exact clean_accepted short free
        · rename_i sink attached
          rw [attached] at short
          exact clean_outcome short

/-- The reply to QUIT is clean. -/
theorem clean_quit {session : ZsmptSession crypto ω} {outer : Outer ω}
    (fits : EchoFits session outer .quit) :
    Clean (replyOf (session.handle .quit outer).result) := by
  have close : (bytes " closing connection").length = 19 ∧
      '\n' ∉ " closing connection".toList := by decide
  refine clean_status (by decide) ?_ ?_
  · rw [Utf8.bytes_append, List.length_append, close.1]
    have short := fits.1
    omega
  · rw [String.toList_append, List.mem_append, not_or]
    exact ⟨fits.2, close.2⟩

/-! ## Requests and turns -/

/-- What a request's line decodes to. -/
theorem command_cases (request : Request) :
    (∃ error, decodeLine request.line.text = .error error ∧ request.command = none) ∨
    (∃ sender messageId payload blob, request.blob = some blob ∧
      decodeLine request.line.text = .ok (.invoice sender messageId payload []) ∧
      request.command = some (.invoice sender messageId payload blob.data)) ∨
    (∃ command, command.isInvoice = false ∧ request.blob = none ∧
      decodeLine request.line.text = .ok command ∧ request.command = some command) := by
  cases decoded : decodeLine request.line.text with
  | error error => exact .inl ⟨error, rfl, by rw [Request.command, decoded]; rfl⟩
  | ok command =>
    have verb := isInvoice_iff_verb decoded
    by_cases invoice : command.isInvoice = true
    · cases decodes_of_decodeLine decoded with
      | invoice sender messageId payload =>
        obtain ⟨blob, attached⟩ :=
          Option.isSome_iff_exists.mp (request.paired.mpr (verb.mp invoice))
        exact .inr (.inl ⟨sender, messageId, payload, blob, attached, rfl,
          by rw [Request.command, decoded, Request.body, attached]; rfl⟩)
      | hello => cases invoice
      | auth => cases invoice
      | addr => cases invoice
      | status => cases invoice
      | quit => cases invoice
    · have other : command.isInvoice = false := by simpa using invoice
      have unattached : request.blob = none := by
        rw [← Option.not_isSome_iff_eq_none, request.paired, ← verb]
        exact invoice
      refine .inr (.inr ⟨command, other, unattached, rfl, ?_⟩)
      cases command with
      | invoice => cases other
      | _ =>
        rw [Request.command, decoded]
        rfl

/-- The reply to an answerable request is clean. -/
theorem clean_respond {state : ZsmptSession crypto ω × Outer ω} {request : Request}
    (answerable : Answerable state request) : Clean (respond state request).1 := by
  have free := request.line.text_free
  unfold respond
  rcases command_cases request with ⟨error, -, none⟩ |
    ⟨sender, messageId, payload, blob, -, decoded, some⟩ | ⟨command, other, -, decoded, some⟩
  · rw [none]
    exact clean_status (by decide) (by decide) (by decide)
  · rw [some]
    exact clean_invoice (answerable.fits _ some) fun member =>
      free ((sublist_of_echo decoded rfl).subset member)
  · have fits := answerable.fits _ some
    rw [some]
    cases command with
    | hello domain =>
      exact clean_hello fits fun member =>
        free ((sublist_of_echo decoded rfl).subset member)
    | auth challenge =>
      exact clean_auth (le_trans (length_of_auth decoded) request.line.text_short)
    | addr mode user =>
      exact clean_addr fits fun member =>
        free ((sublist_of_echo decoded rfl).subset member)
    | invoice => cases other
    | status => exact clean_status (by decide) (by decide) (by decide)
    | quit => exact clean_quit fits

/-- One turn answers one request and leaves the rest of the input. -/
theorem turn_request {state : ZsmptSession crypto ω × Outer ω} {request : Request}
    (answerable : Answerable state request) (rest output : List UInt8) (lines : List String) :
    turn.run (placed state (request.wire ++ rest) output lines) =
      .ok (decide (request.command ≠ some .quit))
        (placed (respondStep state request) rest
          (output ++ replyBytes (respond state request).1) (lines ++ [request.line.text])) := by
  have writable := (clean_respond answerable).writable
  have goesOn : ∀ command : Command,
      decide (Option.some command ≠ some .quit) = decide (command ≠ .quit) := by simp
  have read := readLine_wire request.line (request.blobWire ++ rest) output
  unfold respondStep
  rw [Request.wire, List.append_assoc]
  unfold respond at writable ⊢
  rcases command_cases request with ⟨error, decoded, none⟩ |
    ⟨sender, messageId, payload, blob, attached, decoded, some⟩ |
    ⟨command, other, unattached, decoded, some⟩
  · rw [none]
    have unattached : request.blobWire = [] := by
      unfold Request.blobWire
      have missing : request.blob = Option.none := by
        rw [← Option.not_isSome_iff_eq_none, request.paired]
        exact answerable.decodes none
      rw [missing]
    rw [unattached] at read ⊢
    exact turn_unknown (placed state (request.line.wire ++ ([] ++ rest)) output lines) read decoded
  · have wire : request.blobWire = blob.wire := by rw [Request.blobWire, attached]
    rw [some] at writable ⊢
    rw [wire] at read ⊢
    have command : (readCommand request.line.text).run ⟨blob.wire ++ rest, output⟩ =
        .ok (Option.some (.invoice sender messageId payload blob.data)) ⟨rest, output⟩ := by
      simp only [readCommand, decoded, EStateM.run_bind, readBlob_wire, EStateM.run_pure]
    rw [goesOn]
    exact turn_command (placed state (request.line.wire ++ (blob.wire ++ rest)) output lines)
      read command writable
  · have wire : request.blobWire = [] := by rw [Request.blobWire, unattached]
    rw [some] at writable ⊢
    rw [wire] at read ⊢
    have whole : (readCommand request.line.text).run ⟨[] ++ rest, output⟩ =
        .ok (Option.some command) ⟨rest, output⟩ := by
      cases command with
      | invoice => cases other
      | _ => simp only [readCommand, decoded, EStateM.run_pure, List.nil_append]
    rw [goesOn]
    exact turn_command (placed state (request.line.wire ++ ([] ++ rest)) output lines)
      read whole writable

/-! ## Whole sessions -/

/-- The loop over answerable requests: the lines and the replies pile up in order. -/
theorem serve_requests (state : ZsmptSession crypto ω × Outer ω) (requests : List Request)
    (answerable : Transition.Guarded respondStep Answerable state (upToQuit requests))
    (output : List UInt8) (lines : List String) :
    ∃ after, serve (placed state (requests.flatMap Request.wire) output lines) = .ok () after ∧
      after.lines = lines ++ (upToQuit requests).map (fun request => request.line.text) ∧
      after.conn.output = output ++ (replies state (upToQuit requests)).flatMap replyBytes := by
  induction requests generalizing state output lines with
  | nil =>
    exact ⟨_, serve_end List.not_mem_nil (Nat.zero_le _) output lines,
      by simp [upToQuit, placed], by simp [upToQuit, replies, placed]⟩
  | cons request requests ih =>
    rw [List.flatMap_cons]
    by_cases quit : request.command = some .quit
    · rw [upToQuit, if_pos quit] at answerable ⊢
      have done := turn_request answerable.1 (requests.flatMap Request.wire) output lines
      rw [decide_eq_false (by simpa using quit)] at done
      exact ⟨_, serve_stop done, by simp [placed], by simp [replies, placed]⟩
    · rw [upToQuit, if_neg quit] at answerable ⊢
      have done := turn_request answerable.1 (requests.flatMap Request.wire) output lines
      rw [decide_eq_true quit] at done
      obtain ⟨after, served, heard, written⟩ := ih (respondStep state request) answerable.2
        (output ++ replyBytes (respond state request).1) (lines ++ [request.line.text])
      refine ⟨after, (serve_turn done).trans served, ?_, ?_⟩
      · simpa using heard
      · simpa [replies, respondStep] using written

/-- The replies to answerable requests are single lines. -/
theorem single_replies (state : ZsmptSession crypto ω × Outer ω) (requests : List Request)
    (answerable : Transition.Guarded respondStep Answerable state requests) :
    ∀ reply ∈ replies state requests, '\n' ∉ reply.line.render.toList := by
  induction requests generalizing state with
  | nil => simp [replies]
  | cons request requests ih =>
    intro reply member
    rw [replies, List.mem_cons] at member
    cases member with
    | inl same =>
      rw [same]
      exact (clean_respond answerable.1).single
    | inr later => exact ih _ answerable.2 reply later

/-- Over every list of requests whose steps are answerable, a session that can greet returns and
has stayed in step: it has decoded the requests' lines only, and has answered each request up to
the first QUIT with one status line, in order. -/
theorem run_in_step (session : ZsmptSession crypto ω) (outer : Outer ω) (requests : List Request)
    (greets : 10 + (bytes session.domain).length ≤ maxLine)
    (answerable : Transition.Guarded respondStep Answerable (session, outer) (upToQuit requests)) :
    (∃ after, run.run ⟨⟨requests.flatMap Request.wire, []⟩, session, outer, []⟩ = .ok () after) ∧
      InStep session outer requests ∧
      (replies (session, outer) (upToQuit requests)).length = (upToQuit requests).length := by
  have start : (bytes "ZSMTP 1.0 ").length = 10 := by decide
  have fits : (bytes session.greeting).length ≤ maxLine := by
    rw [ZsmptSession.greeting, Utf8.bytes_append, List.length_append, start]
    exact greets
  obtain ⟨after, served, heard, written⟩ := serve_requests (session, outer) requests answerable
    (bytes session.greeting ++ crlf) []
  have ran : run.run ⟨⟨requests.flatMap Request.wire, []⟩, session, outer, []⟩ = .ok () after := by
    have greeted :=
      run_greeting (placed (session, outer) (requests.flatMap Request.wire) [] []) fits
    simp only [placed, Conn.write, List.nil_append] at greeted served
    exact greeted.trans served
  refine ⟨⟨after, ran⟩, ⟨?_, ?_, single_replies _ _ answerable⟩, length_replies _ _⟩
  · rw [ran]
    exact heard
  · rw [ran]
    exact written

/-! ## Two dialogues -/

/-- A session of `b.org` without a sink or a directory. -/
def standalone : ZsmptSession .mirror Unit :=
  .withDomainKey "b.org" () none none fun _ world => (⟨"address", "key", none⟩, world)

/-- A line of a client, for texts that fit. -/
def lineRequest (text : String) (free : '\n' ∉ text.toList)
    (fits : (bytes text).length + 2 ≤ maxLine) (verb : lineVerb text ≠ "INVOICE") : Request where
  line := .ofText text free fits
  blob := none
  paired := ⟨nofun, fun invoice => absurd invoice verb⟩

/-- An INVOICE line of a client, with its blob. -/
def invoiceRequest (text : String) (body : List UInt8) (free : '\n' ∉ text.toList)
    (fits : (bytes text).length + 2 ≤ maxLine) (small : body.length ≤ maxBlob)
    (verb : lineVerb text = "INVOICE") : Request where
  line := .ofText text free fits
  blob := some (.ofData body small)
  paired := ⟨fun _ => verb, fun _ => rfl⟩

/-- HELLO from `a.org`. -/
def helloRequest : Request := lineRequest "HELLO a.org" (by decide) (by decide) (by decide)

/-- An INVOICE with three bytes. -/
def earlyInvoice : Request :=
  invoiceRequest "INVOICE alice m1 sealed" [1, 2, 3] (by decide) (by decide) (by decide) (by decide)

/-- QUIT. -/
def quitRequest : Request := lineRequest "QUIT" (by decide) (by decide) (by decide)

/-- A dialogue of HELLO, an INVOICE before AUTH, and QUIT stays in step. -/
theorem short_dialogue_in_step :
    InStep standalone ⟨(), []⟩ [helloRequest, earlyInvoice, quitRequest] := by
  have hello : helloRequest.command = some (.hello "a.org") := by decide +kernel
  have invoice : earlyInvoice.command = some (.invoice "alice" "m1" .sealed [1, 2, 3]) := by
    decide +kernel
  have quit : quitRequest.command = some .quit := by decide +kernel
  have whole : upToQuit [helloRequest, earlyInvoice, quitRequest] =
      [helloRequest, earlyInvoice, quitRequest] := by
    simp [upToQuit, hello, invoice, quit]
  have fits : ∀ {state : ZsmptSession .mirror Unit × Outer Unit} {request : Request}
      {command : Command}, request.command = some command →
      EchoFits state.1 state.2 command → Answerable state request := by
    intro state request command known echo
    refine ⟨fun unknown => absurd (known.symm.trans unknown) (by simp), fun other same => ?_⟩
    obtain rfl : command = other := Option.some.inj (known.symm.trans same)
    exact echo
  have early : (respondStep (standalone, (⟨(), []⟩ : Outer Unit)) helloRequest).1.state =
      .awaitingAuth := by decide +kernel
  refine (run_in_step standalone ⟨(), []⟩ _ (by decide) ?_).2.1
  rw [whole]
  refine ⟨fits hello fun _ => by decide, fits invoice fun phase => ?_, fits quit ?_, trivial⟩
  · exact absurd (early.symm.trans phase) (by decide)
  · exact ⟨by decide +kernel, by decide +kernel⟩

/-- An INVOICE line with one token too many; its blob holds the text of a command. -/
def malformedInvoice : List Request :=
  [invoiceRequest "INVOICE alice m1 sealed now" (bytes "QUIT\x0d\n") (by decide) (by decide)
    (by decide) (by decide)]

/-- After the malformed line the header of its blob is decoded as a command, and then its content
is. -/
theorem malformed_invoice_out_of_step : ¬InStep standalone ⟨(), []⟩ malformedInvoice := by
  intro inStep
  exact absurd inStep.lines (by decide +kernel)

end Talk.Verif.Synchronisation
