import Talk.Verif.Dialogue

/-!
# Client and server agree

The client of the sending server, joined to a session of the receiving one by a stream that
loses nothing, has the invoice delivered exactly once and byte for byte, and reports what the sink
answered.
-/

namespace Talk.Verif.Agreement

open Protocol ByteStream Text SessionLoop ClientSteps Exchange Dialogue
open Utf8 (bytes)

variable {crypto : Crypto} {ω : Type}

/-- The sink's reasons are single lines. -/
def ReasonsFree (outcome : DeliveryOutcome) : Prop :=
  ∀ reason, outcome = .rejected reason ∨ outcome = .retryLater reason → '\n' ∉ reason.toList

/-- How a client reports the sink's answer. -/
structure Reports (outcome : DeliveryOutcome)
    (result : EStateM.Result ClientError ZsmptClient Unit) : Prop where
  /-- Success is acceptance. -/
  ok : (∃ after, result = .ok () after) ↔ ∃ messageId, outcome = .accepted messageId
  /-- A transient failure is a transient refusal. -/
  retryLater : (∃ status after, result = .error (.retryLater status) after) ↔
    ∃ reason, outcome = .retryLater reason
  /-- A rejection is a refusal for good. -/
  rejected : (∃ status after, result = .error (.rejected status) after) ↔
    ∃ reason, outcome = .rejected reason

/-! ## How the dialogue ends -/

section Ends

variable {delivering : Delivering crypto ω} (ready : delivering.Ready) (fresh : delivering.Fresh)
  {world : ω} (known : delivering.Known world) (fits : delivering.OutcomeFits world)
include ready

include known fits in
/-- A client that quits leaves the session with one delivery. -/
theorem server_quits :
    ∃ after, delivering.serverEnd world (delivering.saidInvoice ++ quitBytes) = .ok () after ∧
      after.outer = delivering.deliveredOuter world ∧
      after.conn.output =
        delivering.toldOutcome world ++ replyBytes (.status delivering.closingStatus) := by
  obtain ⟨lines, served⟩ := server_said_invoice ready world known fits quitBytes
  have closes := server_quit ready delivering.addressed rfl (delivering.deliveredOuter world) []
    (delivering.toldOutcome world) lines
  rw [List.append_nil] at closes
  exact ⟨_, served.trans closes, rfl, rfl⟩

include known fits in
/-- A client that stops leaves the session with one delivery. -/
theorem server_stops :
    ∃ after, delivering.serverEnd world delivering.saidInvoice = .ok () after ∧
      after.outer = delivering.deliveredOuter world ∧
      after.conn.output = delivering.toldOutcome world := by
  obtain ⟨lines, served⟩ := server_said_invoice ready world known fits []
  have ended : serve (placed (delivering.addressed, delivering.deliveredOuter world) []
      (delivering.toldOutcome world) lines) = .ok () _ :=
    serve_end List.not_mem_nil (Nat.zero_le _) (delivering.toldOutcome world) lines
  rw [List.append_nil] at served
  exact ⟨_, served.trans ended, rfl, rfl⟩

include fresh fits in
/-- The client told of an acceptance reports it and quits. -/
theorem client_quits {messageId : String}
    (accepted : delivering.outcome world = .accepted messageId)
    (more : List UInt8) :
    ∃ after, delivering.clientEnd (delivering.toldOutcome world ++ more) = .ok () after ∧
      after.stream.output = delivering.saidInvoice ++ quitBytes := by
  rw [Delivering.toldOutcome, List.append_assoc, client_told_addr ready world fresh]
  exact client_accepted ready world accepted fits more delivering.saidAddr

include fresh fits in
/-- The client told of a refusal reports it and stops. -/
theorem client_stops {status : Status}
    (reported : ZsmptSession.outcomeStatus (delivering.outcome world) = status)
    (other : startsWith status.render "250 " = false) (free : '\n' ∉ status.render.toList)
    (more : List UInt8) :
    ∃ after, delivering.clientEnd (delivering.toldOutcome world ++ more) =
        .error (if status.code.isTransient then .retryLater status.render
          else .rejected status.render) after ∧
      after.stream.output = delivering.saidInvoice := by
  subst reported
  rw [Delivering.toldOutcome, List.append_assoc, client_told_addr ready world fresh,
    ← statusError_render]
  exact ⟨_, client_refused ready world other free fits more delivering.saidAddr, rfl⟩

end Ends

/-- A refusal does not read as success. -/
theorem refusal_other {code : StatusCode} (coded : code = .permReject ∨ code = .tryLater)
    (reason : String) : startsWith (Status.render ⟨code, reason⟩) "250 " = false := by
  rcases coded with rfl | rfl
  · have start : toString StatusCode.permReject.value.toNat ++ " " = "550 " := by decide
    rw [Status.render, start, startsWith, String.toList_append]
    rfl
  · have start : toString StatusCode.tryLater.value.toNat ++ " " = "450 " := by decide
    rw [Status.render, start, startsWith, String.toList_append]
    rfl

/-- A refusal with a single-line reason is a single line. -/
theorem refusal_free {code : StatusCode} (coded : code = .permReject ∨ code = .tryLater)
    {reason : String} (free : '\n' ∉ reason.toList) :
    '\n' ∉ (Status.render ⟨code, reason⟩).toList := by
  have start : '\n' ∉ (toString code.value.toNat ++ " ").toList := by
    rcases coded with rfl | rfl <;> decide
  exact free_append start free

/-! ## What the dialogue comes to -/

/-- Once the outcome is known, the client emits `request` and the server `reply`, the invoice has
been delivered once, and the client reports the outcome. -/
structure Settled (delivering : Delivering crypto ω) (world : ω) (request reply : List UInt8) :
    Prop where
  /-- The outcome is part of the reply. -/
  told : delivering.toldOutcome world <+: reply
  /-- What the client emits. -/
  requested : ∀ more, delivering.clientOutput (delivering.toldOutcome world ++ more) = request
  /-- What the server emits. -/
  replied : delivering.serverOutput world request = reply
  /-- The server has delivered once. -/
  delivered : (final (delivering.serverEnd world request)).outer = delivering.deliveredOuter world
  /-- The client reports the outcome. -/
  reported : ∀ more, Reports (delivering.outcome world)
    (delivering.clientEnd (delivering.toldOutcome world ++ more))

section Settles

variable {delivering : Delivering crypto ω} (ready : delivering.Ready) (fresh : delivering.Fresh)
  {world : ω} (known : delivering.Known world) (fits : delivering.OutcomeFits world)
include ready fresh known fits

/-- An acceptance settles the dialogue. -/
theorem settled_accepted {messageId : String}
    (accepted : delivering.outcome world = .accepted messageId) :
    ∃ request reply, Settled delivering world request reply := by
  obtain ⟨after, served, outer, written⟩ := server_quits ready known fits
  refine ⟨delivering.saidInvoice ++ quitBytes,
    delivering.toldOutcome world ++ replyBytes (.status delivering.closingStatus),
    List.prefix_append _ _, fun more => ?_, ?_, ?_, fun more => ?_⟩
  · obtain ⟨client, ended, said⟩ := client_quits ready fresh fits accepted more
    rw [Delivering.clientOutput, ended, final_ok, said]
  · rw [Delivering.serverOutput, served, final_ok, written]
  · rw [served, final_ok, outer]
  · obtain ⟨client, ended, -⟩ := client_quits ready fresh fits accepted more
    rw [ended, accepted]
    exact ⟨by simp, by simp, by simp⟩

/-- A refusal settles the dialogue. -/
theorem settled_refused {code : StatusCode} (coded : code = .permReject ∨ code = .tryLater)
    {reason : String} (free : '\n' ∉ reason.toList)
    (refused : ZsmptSession.outcomeStatus (delivering.outcome world) = ⟨code, reason⟩)
    (reports : ∀ after, Reports (delivering.outcome world)
      (.error (if code.isTransient then .retryLater (Status.render ⟨code, reason⟩)
        else .rejected (Status.render ⟨code, reason⟩)) after)) :
    ∃ request reply, Settled delivering world request reply := by
  obtain ⟨after, served, outer, written⟩ := server_stops ready known fits
  have stops := client_stops ready fresh fits refused (refusal_other coded reason)
    (refusal_free coded free)
  refine ⟨delivering.saidInvoice, delivering.toldOutcome world, List.prefix_rfl,
    fun more => ?_, ?_, ?_, fun more => ?_⟩
  · obtain ⟨client, ended, said⟩ := stops more
    rw [Delivering.clientOutput, ended, final_error, said]
  · rw [Delivering.serverOutput, served, final_ok, written]
  · rw [served, final_ok, outer]
  · obtain ⟨client, ended, -⟩ := stops more
    rw [ended]
    exact reports client

/-- Every outcome settles the dialogue. -/
theorem settles (single : ReasonsFree (delivering.outcome world)) :
    ∃ request reply, Settled delivering world request reply := by
  cases answer : delivering.outcome world with
  | accepted messageId => exact settled_accepted ready fresh known fits answer
  | rejected reason =>
    have transient : StatusCode.permReject.isTransient = false := by decide
    refine settled_refused ready fresh known fits (.inl rfl) (single reason (.inl answer))
      (by rw [answer, ZsmptSession.outcomeStatus]) fun after => ?_
    rw [answer, transient]
    exact ⟨by simp, by simp, by simp⟩
  | retryLater reason =>
    have transient : StatusCode.tryLater.isTransient = true := by decide
    refine settled_refused ready fresh known fits (.inr rfl) (single reason (.inr answer))
      (by rw [answer, ZsmptSession.outcomeStatus]) fun after => ?_
    rw [answer, transient]
    exact ⟨by simp, by simp, by simp⟩

/-- On a stream that loses nothing the client hears the outcome. -/
theorem hears_outcome {toClient toServer : List UInt8}
    (exchange : Complete delivering.clientOutput (delivering.serverOutput world) toClient
      toServer) : delivering.toldOutcome world <+: toClient := by
  have greeting : Emits (delivering.serverOutput world) [] delivering.greetingBytes :=
    server_emits fun more => ⟨[], server_greeting ready world more⟩
  have heardGreeting := exchange.symm.hears greeting List.nil_prefix
  have saidHello := exchange.hears (client_emits_hello ready) heardGreeting
  have heardHello := exchange.symm.hears (server_emits (server_said_hello ready world)) saidHello
  have saidAuth := exchange.hears (client_emits_auth ready) heardHello
  have heardAuth := exchange.symm.hears (server_emits (server_said_auth ready world)) saidAuth
  have saidAddr := exchange.hears (client_emits_addr ready fresh) heardAuth
  have heardAddr := exchange.symm.hears (server_emits (server_said_addr ready world known)) saidAddr
  have saidInvoice := exchange.hears (client_emits_invoice ready world fresh) heardAddr
  exact exchange.symm.hears (server_emits (server_said_invoice ready world known fits)) saidInvoice

end Settles

/-! ## Agreement -/

/-- No delivery is among the calls before the sink is called. -/
theorem delivered_once (delivering : Delivering crypto ω) (world : ω) :
    (delivering.deliveredOuter world).calls.filter Call.isDeliver =
      [.deliver delivering.delivery (delivering.outcome world)] := by
  have quiet : (delivering.asked world).calls.filter Call.isDeliver = [] := by
    unfold Delivering.asked ZsmptSession.userKnown
    split <;> rfl
  rw [Delivering.deliveredOuter, Delivering.attestedOuter]
  simp only [List.filter_append, quiet]
  rfl

/-- For every pair of domains, sender, message id, payload kind and body, and every user the
directory knows, such that the names are well formed and the lines fit: the two ends do finish,
and however they do, the sink has been called exactly once, with the invoice as it was sent, and
the client reports the sink's answer. -/
theorem delivery_agreement (delivering : Delivering crypto ω) (ready : delivering.Ready)
    (punctual : delivering.Punctual) (world : ω) (known : delivering.Known world)
    (fits : delivering.OutcomeFits world) (single : ReasonsFree (delivering.outcome world)) :
    (∃ toClient toServer,
      Complete delivering.clientOutput (delivering.serverOutput world) toClient toServer) ∧
    ∀ toClient toServer,
      Complete delivering.clientOutput (delivering.serverOutput world) toClient toServer →
      ((final (delivering.serverEnd world toServer)).outer.calls.filter Call.isDeliver =
        [.deliver ⟨delivering.invoice.senderUsername ++ "@" ++ delivering.senderDomain,
          delivering.invoice.messageId,
          delivering.invoice.recipientUser ++ "@" ++ delivering.receiverDomain,
          delivering.invoice.payload, delivering.invoice.body⟩ (delivering.outcome world)]) ∧
      Reports (delivering.outcome world) (delivering.clientEnd toClient) := by
  have fresh := fresh_of_punctual ready punctual
  obtain ⟨request, reply, settled⟩ := settles ready fresh known fits single
  constructor
  · obtain ⟨more, same⟩ := settled.told
    exact ⟨reply, request, settled.replied.symm, (same ▸ settled.requested more).symm⟩
  · intro toClient toServer exchange
    obtain ⟨more, rfl⟩ := hears_outcome ready fresh known fits exchange
    obtain rfl : toServer = request := exchange.fromLeft.trans (settled.requested more)
    refine ⟨?_, settled.reported more⟩
    rw [settled.delivered]
    exact delivered_once delivering world

/-- An invoice from `alice@a.org` to `bob@b.org`, who alone is registered and whose sink accepts. -/
def aliceToBob : Delivering .mirror Unit where
  json := .strict
  key := ()
  senderDomain := "a.org"
  receiverDomain := "b.org"
  invoice := ⟨"alice", "bob", "m1", .sealed, [1, 2, 3]⟩
  nonce := ⟨List.replicate 16 7, rfl⟩
  issuedAt := 1700000000
  now := 1700000060
  sink delivery world := (.accepted delivery.messageId, world)
  directory := some fun user world => (user == "bob", world)
  entropy world := (⟨List.replicate 32 5, rfl⟩, world)

/-- The invoice arrives once and is reported as accepted. -/
theorem aliceToBob_agreement :
    ∃ toClient toServer,
      Complete aliceToBob.clientOutput (aliceToBob.serverOutput ()) toClient toServer ∧
      (final (aliceToBob.serverEnd () toServer)).outer.calls.filter Call.isDeliver =
        [.deliver ⟨"alice@a.org", "m1", "bob@b.org", .sealed, [1, 2, 3]⟩ (.accepted "m1")] ∧
      ∃ after, aliceToBob.clientEnd toClient = .ok () after := by
  have ready : aliceToBob.Ready := ⟨by decide, by decide, by decide, by decide, by decide,
    by decide, by decide, by decide, by decide +kernel⟩
  have fits : aliceToBob.OutcomeFits () := by
    unfold Delivering.OutcomeFits
    decide +kernel
  obtain ⟨⟨toClient, toServer, exchange⟩, agrees⟩ := delivery_agreement aliceToBob ready
    ⟨by decide, by decide⟩ () ⟨by decide, by decide⟩ fits
    (by rintro reason (accepted | accepted) <;> cases accepted)
  obtain ⟨delivered, reports⟩ := agrees toClient toServer exchange
  exact ⟨toClient, toServer, exchange, delivered, reports.ok.mpr ⟨"m1", rfl⟩⟩

end Talk.Verif.Agreement
