import Talk.Ctl.Tx
import Talk.Verif.Inbox
import Talk.Verif.LossyDialogue

/-!
# The sender's ledger and the receiver's inboxes

Two servers: the sends and retries of the one reach the other over connections that may break. The
receiver refuses a message id its INBOX holds, and the sender takes a refusal, and a connection
that breaks within the dialogue, for a failure. So an invoice that was accepted is recorded as
failed when the answer is lost, or when it is sent again. In every run without these the ledger
agrees with the inboxes. A request is one event of a run, from its first check to its entry in the
ledger, so the states of a run are those after each request.
-/

namespace Talk.Verif.LedgerAgreement

open Mailstore Table Daemon Protocol Ctl Text Transition ByteStream Exchange StoreSteps Inbox
  Dialogue Agreement LossyDialogue
open Hex (Block)
open SessionLoop (replyBytes)
open ClientSteps (invoiceBytes)
open Utf8 (bytes)
open ZsmptClient (answerOf)

/-! ## Two servers -/

/-- A sending and a receiving server. -/
structure Link where
  /-- The signatures. -/
  crypto : Crypto
  /-- The JSON reader. -/
  json : JsonReader
  /-- The receiver's key. -/
  key : crypto.SigningKey
  /-- The sender's domain. -/
  senderDomain : String
  /-- The receiver's domain. -/
  receiverDomain : String
  /-- The sender's template. -/
  senderTemplate : Template
  /-- The receiver's template. -/
  receiverTemplate : Template

/-- What one attempt to send meets with. -/
structure Attempt where
  /-- Whether the receiver's key is resolved. -/
  key : Except String Unit
  /-- Whether the receiver's endpoint is resolved. -/
  endpoint : Except String String
  /-- The configured override of the endpoint. -/
  sendEndpoint : Option String
  /-- Whether a connection is made. -/
  transport : Except ClientError Unit
  /-- The nonce of the challenge. -/
  nonce : Block 16
  /-- When the challenge is issued. -/
  issuedAt : Int64
  /-- When the response is verified. -/
  verifiedAt : Int64
  /-- The receiver's random bytes. -/
  random : Block 32
  /-- When the receiver stores the invoice. -/
  deliveredAt : Int64
  /-- When the sender records the attempt. -/
  recordedAt : Int64
  /-- What the client hears. -/
  toClient : List UInt8
  /-- What the server hears. -/
  toServer : List UInt8

/-- The key and an endpoint are known. -/
def Attempt.resolved (attempt : Attempt) : Bool :=
  attempt.key.isOk && (attempt.endpoint.isOk || attempt.sendEndpoint.isSome)

/-- The receiver is reached. -/
def Attempt.connected (attempt : Attempt) : Bool := attempt.resolved && attempt.transport.isOk

variable (link : Link)

/-- The two ends of the dialogue of an attempt. -/
def delivering (request : SendRequest) (attempt : Attempt) : Delivering link.crypto Db where
  json := link.json
  key := link.key
  senderDomain := link.senderDomain
  receiverDomain := link.receiverDomain
  invoice := ⟨request.senderUsername, mailboxUser request.recipientMailbox, request.messageId,
    request.payload, request.body⟩
  nonce := attempt.nonce
  issuedAt := attempt.issuedAt
  now := attempt.verifiedAt
  sink := deliver link.receiverTemplate attempt.deliveredAt
  directory := some fun user db => (userExists db user, db)
  entropy db := (attempt.random, db)

/-- The client that has read the greeting, or failed to. -/
def greeted (attempt : Attempt) : EStateM.Result ClientError ZsmptClient Unit :=
  ZsmptClient.connect.run (.opened ⟨attempt.toClient, []⟩ link.senderDomain)

/-- What the sender's network does in an attempt. -/
def network (request : SendRequest) (attempt : Attempt) : Network where
  key := attempt.key
  endpoint := attempt.endpoint
  sendEndpoint := attempt.sendEndpoint
  connect := attempt.transport.bind fun () => answerOf (greeted link attempt)
  dialogue := answerOf ((ZsmptClient.sendInvoiceOver link.crypto link.json
    (delivering link request attempt).invoice (link.crypto.verifyingKey link.key) attempt.nonce
    attempt.issuedAt attempt.verifiedAt).run (final (greeted link attempt)))

/-- The two stores, and the pairs of a user and a message id that the receiver has accepted from
the sender. -/
structure World where
  /-- The sender's store. -/
  sender : Db
  /-- The receiver's store. -/
  receiver : Db
  /-- What the receiver has accepted. -/
  accepted : List (String × String)

/-- Nothing has happened. -/
def start : World := ⟨.empty, .empty, []⟩

/-- The pair of a request. -/
def pairOf (request : SendRequest) : String × String :=
  (mailboxUser request.recipientMailbox, request.messageId)

/-- The pair a call of the receiver's session accepts. -/
def acceptedPair : Call → Option (String × String)
  | .deliver delivery (.accepted messageId) =>
    some (mailboxUser delivery.recipientMailbox, messageId)
  | _ => none

/-- What the receiver makes of an attempt. -/
def converse (request : SendRequest) (attempt : Attempt) (world : World) : World :=
  if attempt.connected then
    let outer := (final ((delivering link request attempt).serverEnd world.receiver
      attempt.toServer)).outer
    { world with
      receiver := outer.world
      accepted := world.accepted ++ outer.calls.filterMap acceptedPair }
  else world

/-- The recipient has a domain. -/
def hasDomain (request : SendRequest) : Bool := (split '@' request.recipientMailbox)[1]?.isSome

/-- The request of a retry. -/
def retried (db : Db) (id : Nat) : Option SendRequest :=
  match db.txGet id with
  | none => none
  | some tx => if tx.direction = .outgoing then tx.outboundBody.map (retryRequest tx) else none

/-- What `talkctl` at the sender is configured with. -/
def Link.config : Config := ⟨link.senderDomain, link.senderTemplate⟩

/-- What happens at the two servers. -/
inductive Event where
  /-- A user of the sender is created. -/
  | createUser (username passwordHash : String) (masterPubkey : List UInt8)
    (ivkCommitment registrationAttestation : Option String) (now : Int64)
  /-- An operation on the receiver's store. -/
  | receiver (operation : Operation)
  /-- SEND. -/
  | send (request : SendRequest) (attempt : Attempt)
  /-- `tx retry`. -/
  | retry (id : Nat) (attempt : Attempt)

/-- What an event leaves. -/
def step (world : World) : Event → World
  | .createUser username passwordHash masterPubkey ivkCommitment registrationAttestation now =>
    { world with sender := (world.sender.createUserFull username passwordHash masterPubkey
        ivkCommitment registrationAttestation now).2 }
  | .receiver operation =>
    { world with
      receiver := apply link.receiverTemplate link.receiverDomain world.receiver operation }
  | .send request attempt =>
    { (if request.senderUsername ≠ "" ∧ hasDomain request then converse link request attempt world
        else world) with
      sender := (send world.sender link.senderTemplate link.senderDomain request
        (network link request attempt) attempt.recordedAt).2 }
  | .retry id attempt =>
    match retried world.sender id with
    | none => world
    | some request =>
      { (if hasDomain request then converse link request attempt world else world) with
        sender := (Ctl.run world.sender link.config (.retry id) (network link request attempt)
          attempt.recordedAt).2 }

/-! ## Agreement, and what it needs -/

/-- A recorded state is true of a pair. -/
structure Truthful (accepted : List (String × String)) (pair : String × String)
    (state : TxState) : Prop where
  /-- What is sent has been accepted. -/
  sent : state = .sent → pair ∈ accepted
  /-- What has failed has never been accepted. -/
  failed : state = .failed → pair ∉ accepted

/-- The sender's ledger agrees with what the receiver has accepted. -/
def Agrees (world : World) : Prop :=
  ∀ tx ∈ world.sender.transactions, tx.direction = .outgoing →
    Truthful world.accepted (mailboxUser tx.recipientMailbox, tx.messageId) tx.state

/-- Each end hears a beginning of what the other one says. -/
def Carried (request : SendRequest) (attempt : Attempt) (receiver : Db) : Prop :=
  attempt.connected = true →
    Lossy (delivering link request attempt).clientOutput
      ((delivering link request attempt).serverOutput receiver) attempt.toClient attempt.toServer

/-- What is heard is what was said, as far as the connections last. -/
def Possible (world : World) : Event → Prop
  | .createUser .. => True
  | .receiver _ => True
  | .send request attempt => Carried link request attempt world.receiver
  | .retry id attempt => ∀ request, retried world.sender id = some request →
    Carried link request attempt world.receiver

/-- The answers that name the recipient or the message id. -/
def answers (request : SendRequest) (attempt : Attempt) : List Status :=
  [(delivering link request attempt).refusal.line] ++
    [DeliveryOutcome.accepted request.messageId,
      .rejected ("duplicate message id: " ++ request.messageId),
      .rejected (unknownReason (mailboxUser request.recipientMailbox))].map
      ZsmptSession.outcomeStatus

/-- The receiver accepts the request: it knows the recipient, whose INBOX does not hold the id. -/
def Accepts (receiver : Db) (request : SendRequest) : Prop :=
  Known receiver (mailboxUser request.recipientMailbox) ∧
    ¬Held receiver (mailboxUser request.recipientMailbox) request.messageId

/-- The whole invoice reaches the receiver. -/
def Arrives (request : SendRequest) (attempt : Attempt) : Prop :=
  attempt.connected = true ∧ (delivering link request attempt).saidInvoice <+: attempt.toServer

/-- An attempt that cannot go wrong, where `spared` attempts record no failure. -/
structure Careful (world : World) (request : SendRequest) (attempt : Attempt) (spared : Prop) :
    Prop where
  /-- The message id is not in use for another recipient. -/
  own : ∀ tx ∈ world.sender.transactions, Db.txKey tx = (.outgoing, request.messageId) →
    mailboxUser tx.recipientMailbox = mailboxUser request.recipientMailbox
  /-- The names are well formed, and every line fits. -/
  framed : attempt.connected = true → (delivering link request attempt).Ready ∧
    ∀ status ∈ answers link request attempt, (bytes status.render).length ≤ 4094
  /-- The answer to an invoice that is accepted is not lost. -/
  heard : Arrives link request attempt → Accepts world.receiver request →
    (delivering link request attempt).toldOutcome world.receiver <+: attempt.toClient
  /-- What has been accepted is not sent again, unless it is accepted again. -/
  once : pairOf request ∈ world.accepted →
    spared ∨ Arrives link request attempt ∧ Accepts world.receiver request

/-- The daemon records a retry when it does not reach the receiver, and `talkctl` records nothing
when it cannot resolve it. -/
def Sound (world : World) : Event → Prop
  | .createUser .. => True
  | .receiver _ => True
  | .send request attempt => Careful link world request attempt
    (attempt.resolved = true ∧ ∃ error, (network link request attempt).connect = .error error)
  | .retry id attempt => ∀ request, retried world.sender id = some request →
    Careful link world request attempt (attempt.resolved = false)

/-! ## What the receiver makes of an attempt -/

/-- The user half is the user of every mailbox that is made with it. -/
theorem mailboxUser_join (mailbox domain : String) :
    mailboxUser (mailboxUser mailbox ++ "@" ++ domain) = mailboxUser mailbox := by
  apply mailboxUser_qualified
  rw [mailboxUser_eq, String.toList_ofList]
  intro member
  have before := List.all_eq_true.mp (List.all_takeWhile (p := (· != '@'))) '@' member
  simp at before

section Receiver

variable {link} {request : SendRequest} {attempt : Attempt} {db : Db}

/-- The sink's answer decides what the session has accepted. -/
theorem delivered_pairs (outcome : DeliveryOutcome)
    (answered : (delivering link request attempt).outcome db = outcome) :
    ((delivering link request attempt).deliveredOuter db).calls.filterMap acceptedPair =
      [Call.deliver (delivering link request attempt).delivery outcome].filterMap acceptedPair := by
  rw [Delivering.deliveredOuter, answered, List.filterMap_append]
  rfl

/-- The sink is `deliver` on the receiver's store, which nothing has changed by then. -/
theorem sink_eq : (delivering link request attempt).sink (delivering link request attempt).delivery
      ((delivering link request attempt).attestedOuter db).world =
    deliver link.receiverTemplate attempt.deliveredAt (delivering link request attempt).delivery
      db := by
  have attested : ((delivering link request attempt).attestedOuter db).world = db := rfl
  have sink : (delivering link request attempt).sink =
    deliver link.receiverTemplate attempt.deliveredAt := rfl
  rw [attested, sink]

/-- What the sink makes of the invoice. -/
theorem outcome_cases (keyed : Keyed db) (furnished : Furnished db) :
    (¬Accepts db request ∧
      ((delivering link request attempt).outcome db =
          .rejected (unknownReason (mailboxUser request.recipientMailbox)) ∨
        (delivering link request attempt).outcome db =
          .rejected ("duplicate message id: " ++ request.messageId)) ∧
      ((delivering link request attempt).deliveredOuter db).world = db) ∨
    (Accepts db request ∧
      (delivering link request attempt).outcome db = .accepted request.messageId ∧
      Held ((delivering link request attempt).deliveredOuter db).world
        (mailboxUser request.recipientMailbox) request.messageId) := by
  have user : mailboxUser (delivering link request attempt).delivery.recipientMailbox =
      mailboxUser request.recipientMailbox := mailboxUser_join _ _
  have spec := deliver_spec keyed furnished link.receiverTemplate attempt.deliveredAt
    (delivering link request attempt).delivery
  rw [user] at spec
  rw [Delivering.deliveredOuter, Delivering.outcome, sink_eq]
  rcases spec with ⟨unknown, refused⟩ | ⟨-, held, refused⟩ |
    ⟨known, free, after, accepted, gains⟩
  · rw [refused]
    exact .inl ⟨fun accepts => unknown accepts.1, .inl rfl, rfl⟩
  · rw [refused]
    exact .inl ⟨fun accepts => accepts.2 held, .inr rfl, rfl⟩
  · rw [accepted]
    exact .inr ⟨⟨known, free⟩, rfl, (gains _ _).mpr (.inr ⟨rfl, rfl⟩)⟩

/-- The answer to an invoice fits a line. -/
theorem outcome_fits (keyed : Keyed db) (furnished : Furnished db)
    (fits : ∀ status ∈ answers link request attempt, (bytes status.render).length ≤ 4094) :
    (delivering link request attempt).OutcomeFits db := by
  unfold Delivering.OutcomeFits
  rcases outcome_cases keyed furnished with ⟨-, refused | refused, -⟩ | ⟨-, accepted, -⟩
  · rw [refused]
    exact fits _ (by simp [answers])
  · rw [refused]
    exact fits _ (by simp [answers])
  · rw [accepted]
    exact fits _ (by simp [answers])

/-- The refusal of an invoice is a single line. -/
theorem outcome_single (keyed : Keyed db) (furnished : Furnished db)
    (ready : (delivering link request attempt).Ready) :
    ReasonsFree ((delivering link request attempt).outcome db) := by
  have unknownFree : '\n' ∉ (unknownReason (mailboxUser request.recipientMailbox)).toList := by
    unfold unknownReason
    split
    · decide
    · exact free_append (by decide) ready.userFree
  have duplicateFree : '\n' ∉ ("duplicate message id: " ++ request.messageId).toList :=
    free_append (by decide) (token_free ready.messageId)
  rcases outcome_cases keyed furnished with ⟨-, refused | refused, -⟩ | ⟨-, accepted, -⟩
  · rw [refused]
    rintro reason (same | same)
    · cases same
      exact unknownFree
    · cases same
  · rw [refused]
    rintro reason (same | same)
    · cases same
      exact duplicateFree
    · cases same
  · rw [accepted]
    rintro reason (same | same)
    · cases same
    · cases same

end Receiver

section Converse

variable {link} {request : SendRequest} {attempt : Attempt} {world : World}
  (connected : attempt.connected = true)
include connected

/-- A conversation leaves the store that the session ends in, and the pairs it has accepted. -/
theorem converse_eq {outer : Outer Db}
    (done : (final ((delivering link request attempt).serverEnd world.receiver
      attempt.toServer)).outer = outer) :
    converse link request attempt world =
      { world with
        receiver := outer.world
        accepted := world.accepted ++ outer.calls.filterMap acceptedPair } := by
  rw [converse, if_pos connected, done]

variable {spared : Prop} (keyed : Keyed world.receiver) (furnished : Furnished world.receiver)
  (carried : Carried link request attempt world.receiver)
  (careful : Careful link world request attempt spared)
include keyed furnished carried careful

/-- An attempt adds its pair and succeeds, or changes nothing at the receiver and fails. -/
theorem converse_cases :
    (¬Succeeds (delivering link request attempt) attempt.toClient ∧
      ¬(Arrives link request attempt ∧ Accepts world.receiver request) ∧
      converse link request attempt world = world) ∨
    (Succeeds (delivering link request attempt) attempt.toClient ∧
      converse link request attempt world =
        { world with
          receiver := ((delivering link request attempt).deliveredOuter world.receiver).world
          accepted := world.accepted ++ [pairOf request] } ∧
      Held ((delivering link request attempt).deliveredOuter world.receiver).world
        (pairOf request).1 (pairOf request).2) := by
  obtain ⟨ready, fits⟩ := careful.framed connected
  have refusable : (bytes (delivering link request attempt).refusal.line.render).length + 2 ≤
      maxLine := by
    have fits := fits _ (List.mem_append_left _ (List.mem_singleton_self _))
    have size : maxLine = 4096 := rfl
    omega
  rcases lossy_comes ready refusable (carried connected) (outcome_fits keyed furnished fits)
    (outcome_single keyed furnished ready) with
    ⟨arrived, outer, accepted, heard⟩ | ⟨missed, untouched, fails⟩
  · rw [converse_eq connected outer]
    rcases outcome_cases keyed furnished with ⟨refuses, refused, kept⟩ |
      ⟨accepts, taken, held⟩
    · left
      have quiet : ((delivering link request attempt).deliveredOuter
          world.receiver).calls.filterMap acceptedPair = [] := by
        rcases refused with refused | refused
        · rw [delivered_pairs _ refused]
          rfl
        · rw [delivered_pairs _ refused]
          rfl
      refine ⟨fun succeeds => ?_, fun both => refuses both.2, ?_⟩
      · obtain ⟨messageId, taken⟩ := accepted succeeds
        rcases refused with refused | refused
        · rw [refused] at taken
          cases taken
        · rw [refused] at taken
          cases taken
      · rw [quiet, kept, List.append_nil]
    · right
      have told := careful.heard ⟨connected, arrived⟩ accepts
      refine ⟨heard request.messageId taken told, ?_, held⟩
      have pair : [Call.deliver (delivering link request attempt).delivery
          (.accepted request.messageId)].filterMap acceptedPair = [pairOf request] := by
        have user : mailboxUser (delivering link request attempt).delivery.recipientMailbox =
          mailboxUser request.recipientMailbox := mailboxUser_join _ _
        rw [pairOf, ← user]
        rfl
      rw [delivered_pairs _ taken, pair]
  · -- A session that delivers nothing has left the store and accepted nothing.
    have idle : ∀ outer ∈ [⟨world.receiver, []⟩,
        (delivering link request attempt).asked world.receiver,
        (delivering link request attempt).attestedOuter world.receiver],
        outer.world = world.receiver ∧ outer.calls.filterMap acceptedPair = [] := by
      refine List.forall_mem_cons.mpr ⟨⟨rfl, rfl⟩, List.forall_mem_cons.mpr ⟨⟨rfl, rfl⟩, ?_⟩⟩
      exact List.forall_mem_singleton.mpr ⟨rfl, rfl⟩
    obtain ⟨kept, quiet⟩ := idle _ untouched
    refine .inl ⟨fails, fun both => missed both.1.2, ?_⟩
    rw [converse_eq connected rfl, kept, quiet, List.append_nil]

end Converse

/-! ## What the sender records -/

section Sender

variable {link} {request : SendRequest} {attempt : Attempt} {world : World}

/-- The receiver is reached when it is resolved and a connection is made. -/
theorem connected_iff :
    attempt.connected = true ↔ attempt.resolved = true ∧ attempt.transport = .ok () := by
  rw [Attempt.connected, Bool.and_eq_true]
  refine and_congr_right fun _ => ?_
  cases attempt.transport with
  | error error => exact ⟨nofun, nofun⟩
  | ok value => exact ⟨fun _ => rfl, fun _ => rfl⟩

/-- Where a connection is made, the client's program is `connect` and `send_invoice_over`. -/
theorem network_ok (connected : attempt.connected = true) :
    ((network link request attempt).connect = .ok () ∧
      (network link request attempt).dialogue = .ok ()) ↔
    Succeeds (delivering link request attempt) attempt.toClient := by
  have transport := (connected_iff.mp connected).2
  have client : (delivering link request attempt).clientEnd attempt.toClient =
      (ZsmptClient.connect >>= fun _ => ZsmptClient.sendInvoiceOver link.crypto link.json
        (delivering link request attempt).invoice (link.crypto.verifyingKey link.key)
        attempt.nonce attempt.issuedAt attempt.verifiedAt).run
        (.opened ⟨attempt.toClient, []⟩ link.senderDomain) := rfl
  rw [Succeeds, client, network, transport]
  dsimp only [Except.bind]
  cases greets : greeted link attempt with
  | error error after =>
    rw [greeted] at greets
    rw [run_bind_of_error greets]
    simp [answerOf]
  | ok value after =>
    rw [greeted] at greets
    rw [run_bind_of_ok greets, final_ok]
    generalize (ZsmptClient.sendInvoiceOver link.crypto link.json
      (delivering link request attempt).invoice (link.crypto.verifyingKey link.key) attempt.nonce
      attempt.issuedAt attempt.verifiedAt).run after = result
    cases result with
    | error error last => simp [answerOf]
    | ok value last => simp [answerOf]

/-- Without a connection the client cannot connect. -/
theorem network_unconnected (resolved : attempt.resolved = true)
    (unconnected : attempt.connected ≠ true) :
    ∃ error, (network link request attempt).connect = .error error := by
  cases transport : attempt.transport with
  | error error => exact ⟨error, by rw [network, transport]; rfl⟩
  | ok value => exact absurd (connected_iff.mpr ⟨resolved, transport⟩) unconnected

/-- An attempt delivers when the receiver is reached and the client succeeds. -/
theorem delivers_iff :
    (attempt.resolved = true ∧ (network link request attempt).connect = .ok () ∧
      (network link request attempt).dialogue = .ok ()) ↔
    attempt.connected = true ∧
      Succeeds (delivering link request attempt) attempt.toClient := by
  constructor
  · rintro ⟨resolved, connects, delivered⟩
    have connected : attempt.connected = true := by
      by_contra unconnected
      obtain ⟨error, failed⟩ := @network_unconnected link request attempt resolved unconnected
      rw [connects] at failed
      cases failed
    exact ⟨connected, (network_ok connected).mp ⟨connects, delivered⟩⟩
  · rintro ⟨connected, succeeds⟩
    exact ⟨(connected_iff.mp connected).1, (network_ok connected).mpr succeeds⟩

/-- Whether the receiver is resolved is decided by the three results. -/
theorem resolved_network :
    attempt.resolved = ((network link request attempt).key.isOk &&
      ((network link request attempt).endpoint.isOk ||
        (network link request attempt).sendEndpoint.isSome)) := rfl

/-- The receiver is resolved with its key and an endpoint. -/
theorem resolves {network : Network} (key : network.key = .ok ())
    (known : ∀ error, network.endpoint = .error error → network.sendEndpoint = none → False) :
    (network.key.isOk && (network.endpoint.isOk || network.sendEndpoint.isSome)) = true := by
  rw [key]
  cases endpoint : network.endpoint with
  | ok address => rfl
  | error error =>
    cases set : network.sendEndpoint with
    | some address => rfl
    | none => exact (known error endpoint set).elim

/-- What an attempt of the daemon records. -/
theorem attempt_cases :
    (attempt.resolved = false ∧
      (Daemon.attempt request (network link request attempt)).2 = .failed) ∨
    (attempt.resolved = true ∧
      (∃ error, (network link request attempt).connect = .error error) ∧
      (Daemon.attempt request (network link request attempt)).2 = .retrying) ∨
    (attempt.resolved = true ∧ (network link request attempt).connect = .ok () ∧
      ((network link request attempt).dialogue = .ok () ↔
        (Daemon.attempt request (network link request attempt)).2 = .sent)) := by
  rw [@resolved_network link request attempt]
  generalize network link request attempt = network
  unfold Daemon.attempt
  split
  · rename_i error failed
    exact .inl ⟨by rw [failed]; rfl, rfl⟩
  · rename_i found
    split
    · rename_i error unresolved unset
      exact .inl ⟨by rw [unresolved, unset]; simp [Except.isOk, Except.toBool], rfl⟩
    · rename_i known
      have reaches := resolves found known
      split
      · rename_i error failed
        exact .inr (.inl ⟨reaches, ⟨error, failed⟩, rfl⟩)
      · rename_i connects
        refine .inr (.inr ⟨reaches, connects, ?_⟩)
        split
        · rename_i error failed
          rw [failed]
          refine iff_of_false nofun ?_
          dsimp only
          split
          · exact nofun
          · exact nofun
        · rename_i delivered
          exact iff_of_true delivered rfl

/-- What an attempt of `talkctl` records. -/
theorem resultState_sent (network : Network) :
    resultState (sendInvoiceDeliver network) = .sent ↔
      network.connect = .ok () ∧ network.dialogue = .ok () := by
  unfold sendInvoiceDeliver
  cases network.connect with
  | error error =>
    refine iff_of_false ?_ nofun
    rw [resultState]
    split
    · exact nofun
    · exact nofun
  | ok value =>
    dsimp only
    cases network.dialogue with
    | error error =>
      refine iff_of_false ?_ nofun
      rw [resultState]
      split
      · exact nofun
      · exact nofun
    | ok value => exact iff_of_true rfl ⟨rfl, rfl⟩

end Sender

section Truthful

variable {link} {request : SendRequest} {attempt : Attempt} {world : World}
  (keyed : Keyed world.receiver) (furnished : Furnished world.receiver)
  (carried : Carried link request attempt world.receiver)
include keyed furnished carried

/-- A state that is Sent exactly after a success, and Failed after no spared attempt, is true. -/
theorem truthful_converse {spared : Prop} (careful : Careful link world request attempt spared)
    {state : TxState}
    (success : state = .sent ↔ attempt.resolved = true ∧
      (network link request attempt).connect = .ok () ∧
      (network link request attempt).dialogue = .ok ())
    (noFailure : spared → state ≠ .failed) :
    Truthful (converse link request attempt world).accepted (pairOf request) state := by
  rw [delivers_iff] at success
  have failing : ¬(attempt.connected = true ∧
        Succeeds (delivering link request attempt) attempt.toClient) →
      ¬(Arrives link request attempt ∧ Accepts world.receiver request) →
      Truthful world.accepted (pairOf request) state := by
    intro fails refused
    refine ⟨fun sent => absurd (success.mp sent) fails, fun failed member => ?_⟩
    rcases careful.once member with isSpared | again
    · exact noFailure isSpared failed
    · exact refused again
  by_cases connected : attempt.connected = true
  · rcases converse_cases connected keyed furnished carried careful with
      ⟨fails, refused, kept⟩ | ⟨succeeds, done, -⟩
    · rw [kept]
      exact failing (fun both => fails both.2) refused
    · have sent := success.mpr ⟨connected, succeeds⟩
      rw [done]
      refine ⟨fun _ => List.mem_append_right _ (List.mem_singleton_self _), fun failed => ?_⟩
      rw [sent] at failed
      cases failed
  · rw [converse, if_neg connected]
    exact failing (fun both => connected both.1) fun both => connected both.1.1

/-- The daemon records what is true. -/
theorem truthful_send (careful : Careful link world request attempt
    (attempt.resolved = true ∧ ∃ error, (network link request attempt).connect = .error error)) :
    Truthful (converse link request attempt world).accepted (pairOf request)
      (Daemon.attempt request (network link request attempt)).2 := by
  refine truthful_converse keyed furnished carried careful ?_ ?_
  · rcases @attempt_cases link request attempt with
      ⟨unresolved, state⟩ | ⟨resolved, ⟨error, failed⟩, state⟩ | ⟨resolved, connects, delivered⟩
    · simp [unresolved, state]
    · simp [failed, state]
    · simp [resolved, connects, delivered]
  · rintro ⟨resolved, error, failed⟩ state
    rcases @attempt_cases link request attempt with
      ⟨unresolved, -⟩ | ⟨-, -, retrying⟩ | ⟨-, connects, -⟩
    · rw [resolved] at unresolved
      cases unresolved
    · rw [state] at retrying
      cases retrying
    · rw [failed] at connects
      cases connects

/-- `talkctl` records what is true. -/
theorem truthful_retry (careful : Careful link world request attempt (attempt.resolved = false))
    (resolved : attempt.resolved = true) :
    Truthful (converse link request attempt world).accepted (pairOf request)
      (resultState (sendInvoiceDeliver (network link request attempt))) := by
  refine truthful_converse keyed furnished carried careful ?_ ?_
  · rw [resultState_sent]
    exact (and_iff_right resolved).symm
  · intro unresolved
    rw [resolved] at unresolved
    cases unresolved

end Truthful

/-! ## The ledger -/

/-- What the agreement is about. -/
def entry (tx : Transaction) : TxDirection × String × String × TxState :=
  (tx.direction, tx.messageId, tx.recipientMailbox, tx.state)

/-- The copy of a sent invoice leaves the entries. -/
theorem entries_sentCopy (db : Db) (template : Template) (senderUsername senderMailbox
    recipientMailbox messageId : String) (body : List UInt8) (txId : Nat) (now : Int64) :
    (sentCopy db template senderUsername senderMailbox recipientMailbox messageId body txId
      now).transactions.map entry = db.transactions.map entry := by
  rcases sentCopy_cases db template senderUsername senderMailbox recipientMailbox messageId body
    txId now with ⟨-, kept⟩ | ⟨user, handle, msg, -, -, -, -, -, stored⟩
  · rw [kept]
  · rw [stored, Db.txLinkMessage, Db.txUpdate, update, List.map_map]
    refine List.map_congr_left fun tx _ => ?_
    dsimp only [Function.comp_apply]
    split
    · rfl
    · rfl

/-- The transactions once an attempt is recorded: those of other message ids as they were, and its
own in the new state. -/
theorem recorded_cases {db : Db} (keyed : Keyed db) (template : Template)
    (senderDomain : String) (request : SendRequest) (state : TxState) (now : Int64)
    {tx : Transaction}
    (member : tx ∈ (recordOutboundTx db template senderDomain request.senderUsername
      request.recipientMailbox request.messageId request.payload request.body state
      now).transactions)
    (outgoing : tx.direction = .outgoing) :
    (tx.messageId ≠ request.messageId ∧ ∃ old ∈ db.transactions, entry old = entry tx) ∨
    (tx.messageId = request.messageId ∧ tx.state = state ∧
      (tx.recipientMailbox = request.recipientMailbox ∨
        ∃ old ∈ db.transactions, Db.txKey old = (.outgoing, request.messageId) ∧
          old.recipientMailbox = tx.recipientMailbox)) := by
  obtain ⟨txId, middle, done, change⟩ := recordOutboundTx_eq db template senderDomain
    request.senderUsername request.recipientMailbox request.messageId request.payload request.body
    state now
  -- The copy does not matter.
  have inside : entry tx ∈ middle.transactions.map entry := by
    rw [← entries_sentCopy middle template request.senderUsername
      (request.senderUsername ++ "@" ++ senderDomain) request.recipientMailbox request.messageId
      request.body txId now, ← done]
    exact List.mem_map_of_mem member
  obtain ⟨new, found, same⟩ := List.mem_map.mp inside
  obtain ⟨direction, messageId, recipient, sameState⟩ :
      new.direction = tx.direction ∧ new.messageId = tx.messageId ∧
        new.recipientMailbox = tx.recipientMailbox ∧ new.state = tx.state := by
    simpa [entry] using same
  rw [← messageId, ← recipient, ← sameState, ← same]
  have key : Db.txKey new = (.outgoing, new.messageId) := by
    rw [Db.txKey, direction, outgoing]
  rcases change with ⟨old, inDb, oldKey, -, rfl⟩ | ⟨fresh, -, rfl⟩
  · rcases (mem_txUpdate keyed inDb _).mp found with rfl | ⟨kept, other⟩
    · exact .inr ⟨congrArg Prod.snd oldKey, rfl, .inr ⟨old, inDb, oldKey, rfl⟩⟩
    · refine .inl ⟨fun shared => other ?_, new, kept, rfl⟩
      rw [shared] at key
      rw [eq_of_unique keyed.txKeys kept inDb (key.trans oldKey.symm)]
  · rcases List.mem_append.mp found with kept | created
    · refine .inl ⟨fun shared => fresh new kept ?_, new, kept, rfl⟩
      rw [key, shared]
    · rw [List.mem_singleton.mp created]
      exact .inr ⟨rfl, rfl, .inl rfl⟩

/-- A record of a true state keeps the ledger true, where nothing else has been accepted. -/
theorem truthful_record {db : Db} (keyed : Keyed db) {before accepted : List (String × String)}
    (agrees : ∀ tx ∈ db.transactions, tx.direction = .outgoing →
      Truthful before (mailboxUser tx.recipientMailbox, tx.messageId) tx.state)
    (template : Template) (senderDomain : String) (request : SendRequest)
    (own : ∀ tx ∈ db.transactions, Db.txKey tx = (.outgoing, request.messageId) →
      mailboxUser tx.recipientMailbox = mailboxUser request.recipientMailbox)
    (grows : ∀ pair, pair ≠ pairOf request → (pair ∈ accepted ↔ pair ∈ before))
    {state : TxState} (truthful : Truthful accepted (pairOf request) state) (now : Int64)
    {tx : Transaction}
    (member : tx ∈ (recordOutboundTx db template senderDomain request.senderUsername
      request.recipientMailbox request.messageId request.payload request.body state
      now).transactions)
    (outgoing : tx.direction = .outgoing) :
    Truthful accepted (mailboxUser tx.recipientMailbox, tx.messageId) tx.state := by
  rcases recorded_cases keyed template senderDomain request state now member outgoing with
    ⟨other, old, found, same⟩ | ⟨messageId, sameState, recipient⟩
  · obtain ⟨direction, messageId, recipient, sameState⟩ :
        old.direction = tx.direction ∧ old.messageId = tx.messageId ∧
          old.recipientMailbox = tx.recipientMailbox ∧ old.state = tx.state := by
      simpa [entry] using same
    have before := agrees old found (direction.trans outgoing)
    rw [messageId, recipient, sameState] at before
    have shared := grows (mailboxUser tx.recipientMailbox, tx.messageId)
      fun pair => other (congrArg Prod.snd pair)
    exact ⟨fun sent => shared.mpr (before.sent sent),
      fun failed inside => before.failed failed (shared.mp inside)⟩
  · have user : mailboxUser tx.recipientMailbox = mailboxUser request.recipientMailbox := by
      rcases recipient with recipient | ⟨old, found, key, recipient⟩
      · rw [recipient]
      · rw [← recipient]
        exact own old found key
    rw [user, messageId, sameState]
    exact truthful

/-! ## Requests -/

/-- A send that is not refused records its attempt. -/
theorem send_snd (db : Db) (template : Template) (senderDomain : String) (request : SendRequest)
    (network : Network) (now : Int64) :
    (send db template senderDomain request network now).2 =
      if request.senderUsername ≠ "" ∧ hasDomain request then
        recordOutboundTx db template senderDomain request.senderUsername request.recipientMailbox
          request.messageId request.payload request.body (Daemon.attempt request network).2 now
      else db := by
  unfold send hasDomain
  by_cases nameless : request.senderUsername = ""
  · rw [if_pos nameless, if_neg fun both => both.1 nameless]
  · rw [if_neg nameless]
    cases domain : (split '@' request.recipientMailbox)[1]? with
    | none => simp
    | some name => simp [nameless]

/-- A delivery of `talkctl` records its attempt once the receiver is resolved. -/
theorem deliverInvoice_snd (db : Db) (config : Config) (request : SendRequest) (attempt : Attempt)
    (now : Int64) :
    (deliverInvoice db config request (network link request attempt) now).2 =
      if hasDomain request ∧ attempt.resolved then
        recordOutbound db config request
          (resultState (sendInvoiceDeliver (network link request attempt))) now
      else db := by
  rw [@resolved_network link request attempt]
  generalize network link request attempt = network
  unfold deliverInvoice hasDomain
  split
  · rename_i missing
    simp [missing]
  · rename_i domain
    split
    · rename_i error failed
      simp [failed, Except.isOk, Except.toBool]
    · rename_i found
      split
      · rename_i error unresolved unset
        simp [unresolved, unset, Except.isOk, Except.toBool]
      · rename_i known
        rw [resolves found known, domain, if_pos ⟨rfl, rfl⟩]
        dsimp only
        split
        · rfl
        · rfl

/-- A retry is a delivery of the request that was recorded. -/
theorem retry_snd {db : Db} {id : Nat} {request : SendRequest}
    (found : retried db id = some request) (config : Config) (network : Network) (now : Int64) :
    (Ctl.run db config (.retry id) network now).2 =
      (deliverInvoice db config request network now).2 := by
  unfold retried at found
  cases lookup : db.txGet id with
  | none => simp [lookup] at found
  | some tx =>
    rw [lookup] at found
    dsimp only at found
    split at found
    · rename_i outgoing
      obtain ⟨body, stored, rfl⟩ := Option.map_eq_some_iff.mp found
      have lookup : db.txGet (TxAction.retry id).id = some tx := lookup
      rw [Ctl.run, lookup]
      dsimp only
      rw [retry, if_neg (not_not.mpr outgoing), stored]
      dsimp only
      split
      · rename_i failed
        rw [failed]
      · rename_i delivered
        rw [delivered]
    · cases found

/-! ## Every run -/

/-- What every event keeps. -/
structure Consistent (world : World) : Prop where
  /-- The sender's keys are unique. -/
  sender : Keyed world.sender
  /-- The receiver's keys are unique. -/
  receiver : Keyed world.receiver
  /-- Every user of the receiver has an INBOX. -/
  furnished : Furnished world.receiver
  /-- The ledger agrees with what was accepted. -/
  agrees : Agrees world

/-- The empty stores are consistent. -/
theorem consistent_start : Consistent start :=
  ⟨keyed_empty, keyed_empty, fun _ member => absurd member List.not_mem_nil,
    fun _ member => absurd member List.not_mem_nil⟩

section Kept

variable {link} {world : World} (consistent : Consistent world)
include consistent

/-- The receiver's store after an attempt. -/
theorem receiver_converse {request : SendRequest} {attempt : Attempt} {spared : Prop}
    (carried : Carried link request attempt world.receiver)
    (careful : Careful link world request attempt spared) :
    Keyed (converse link request attempt world).receiver ∧
      Furnished (converse link request attempt world).receiver ∧
      (∀ pair, pair ≠ pairOf request →
        (pair ∈ (converse link request attempt world).accepted ↔ pair ∈ world.accepted)) ∧
      ∀ pair ∈ (converse link request attempt world).accepted, pair ∈ world.accepted ∨
        Held (converse link request attempt world).receiver pair.1 pair.2 := by
  by_cases connected : attempt.connected = true
  · rcases converse_cases connected consistent.receiver consistent.furnished carried careful with
      ⟨-, -, kept⟩ | ⟨-, done, held⟩
    · rw [kept]
      exact ⟨consistent.receiver, consistent.furnished, fun _ _ => Iff.rfl, fun _ => .inl⟩
    · rw [done]
      have stored : ((delivering link request attempt).deliveredOuter world.receiver).world =
          apply link.receiverTemplate link.receiverDomain world.receiver
            (.deliver (delivering link request attempt).delivery attempt.deliveredAt) := by
        rw [Delivering.deliveredOuter, sink_eq, apply]
      dsimp only
      rw [stored] at held ⊢
      refine ⟨keyed_apply _ _ consistent.receiver _,
        furnished_apply _ _ consistent.receiver consistent.furnished _, fun pair other => ?_,
        fun pair member => ?_⟩
      · simp [other]
      · rcases List.mem_append.mp member with old | new
        · exact .inl old
        · rw [List.mem_singleton.mp new]
          exact .inr held
  · rw [converse, if_neg connected]
    exact ⟨consistent.receiver, consistent.furnished, fun _ _ => Iff.rfl, fun _ => .inl⟩

/-- A send keeps the agreement. -/
theorem consistent_send {request : SendRequest} {attempt : Attempt}
    (carried : Carried link request attempt world.receiver)
    (careful : Careful link world request attempt (attempt.resolved = true ∧
      ∃ error, (network link request attempt).connect = .error error)) :
    Consistent (step link world (.send request attempt)) := by
  rw [step, send_snd]
  by_cases asked : request.senderUsername ≠ "" ∧ hasDomain request = true
  · obtain ⟨receiver, furnished, grows, -⟩ := receiver_converse consistent carried careful
    rw [if_pos asked, if_pos asked]
    refine ⟨keyed_changes consistent.sender (recordOutboundTx_changes ..), receiver, furnished, ?_⟩
    intro tx member outgoing
    exact truthful_record consistent.sender consistent.agrees link.senderTemplate
      link.senderDomain request careful.own grows
      (truthful_send consistent.receiver consistent.furnished carried careful) attempt.recordedAt
      member outgoing
  · rw [if_neg asked, if_neg asked]
    exact consistent

/-- A retry keeps the agreement. -/
theorem consistent_retry {id : Nat} {attempt : Attempt} {request : SendRequest}
    (found : retried world.sender id = some request)
    (carried : Carried link request attempt world.receiver)
    (careful : Careful link world request attempt (attempt.resolved = false)) :
    Consistent (step link world (.retry id attempt)) := by
  rw [step, found]
  dsimp only
  rw [retry_snd found, deliverInvoice_snd]
  by_cases asked : hasDomain request = true
  · obtain ⟨receiver, furnished, grows, -⟩ := receiver_converse consistent carried careful
    rw [if_pos asked]
    by_cases resolved : attempt.resolved = true
    · rw [if_pos ⟨asked, resolved⟩]
      refine ⟨keyed_changes consistent.sender (recordOutboundTx_changes ..), receiver, furnished,
        ?_⟩
      intro tx member outgoing
      exact truthful_record consistent.sender consistent.agrees link.senderTemplate
        link.senderDomain request careful.own grows
        (truthful_retry consistent.receiver consistent.furnished carried careful resolved)
        attempt.recordedAt member outgoing
    · have unconnected : ¬attempt.connected = true :=
        fun connected => resolved (connected_iff.mp connected).1
      rw [if_neg fun both => resolved both.2, converse, if_neg unconnected]
      exact consistent
  · rw [if_neg asked, if_neg fun both => asked both.1]
    exact consistent

end Kept

/-- A user is created without touching the ledger. -/
theorem createUserFull_transactions (db : Db) (username passwordHash : String)
    (masterPubkey : List UInt8) (ivkCommitment registrationAttestation : Option String)
    (now : Int64) :
    (db.createUserFull username passwordHash masterPubkey ivkCommitment registrationAttestation
      now).2.transactions = db.transactions := by
  rcases createUserFull_cases db username passwordHash masterPubkey ivkCommitment
    registrationAttestation now with kept | ⟨new, inboxRow, sentRow, -, -, -, created⟩
  · rw [kept]
  · rw [created]

/-- An event of a sound run keeps the agreement. -/
theorem consistent_step (world : World) (event : Event) (consistent : Consistent world)
    (sound : Possible link world event ∧ Sound link world event) :
    Consistent (step link world event) := by
  obtain ⟨possible, careful⟩ := sound
  cases event with
  | createUser username passwordHash masterPubkey ivkCommitment registrationAttestation now =>
    refine ⟨keyed_changes consistent.sender (createUserFull_changes consistent.sender ..),
      consistent.receiver, consistent.furnished, ?_⟩
    intro tx member
    rw [step, createUserFull_transactions] at member
    exact consistent.agrees tx member
  | receiver operation =>
    exact ⟨consistent.sender, keyed_apply _ _ consistent.receiver operation,
      furnished_apply _ _ consistent.receiver consistent.furnished operation, consistent.agrees⟩
  | send request attempt => exact consistent_send consistent possible careful
  | retry id attempt =>
    cases found : retried world.sender id with
    | none =>
      rw [step, found]
      exact consistent
    | some request =>
      exact consistent_retry consistent found (possible request found) (careful request found)

/-- What an event has accepted is in the INBOX. -/
def Stores (world : World) (event : Event) : Prop :=
  ∀ pair ∈ (step link world event).accepted, pair ∈ world.accepted ∨
    Held (step link world event).receiver pair.1 pair.2

/-- An event of a sound run stores what it accepts. -/
theorem stores_step (world : World) (event : Event) (consistent : Consistent world)
    (sound : Possible link world event ∧ Sound link world event) : Stores link world event := by
  obtain ⟨possible, careful⟩ := sound
  unfold Stores
  cases event with
  | createUser => exact fun _ => .inl
  | receiver => exact fun _ => .inl
  | send request attempt =>
    obtain ⟨-, -, -, stores⟩ := receiver_converse consistent possible careful
    rw [step]
    split
    · exact stores
    · exact fun _ => .inl
  | retry id attempt =>
    rw [step]
    cases found : retried world.sender id with
    | none => exact fun _ => .inl
    | some request =>
      obtain ⟨-, -, -, stores⟩ := receiver_converse consistent (possible request found)
        (careful request found)
      dsimp only
      split
      · exact stores
      · exact fun _ => .inl

/-- In every run of two servers, over connections that may break anywhere, in which every message
id is used for one recipient, every line fits, no answer to an invoice that is accepted is lost
and no accepted invoice is sent again, unless to be accepted again: in every state, what the
sender's ledger has as Sent has been accepted into the recipient's INBOX, and what it has as Failed
never has. -/
theorem ledger_agrees_of_sound (events : List Event)
    (sound : Guarded (step link) (fun world event =>
      Possible link world event ∧ Sound link world event) start events) :
    Agrees (run (step link) start events) ∧ Guarded (step link) (Stores link) start events :=
  ⟨(guarded_invariant (consistent_step link) consistent_start sound).agrees,
    guarded_implies (consistent_step link) (stores_step link) consistent_start sound⟩

/-! ## An answer that is lost, and one that is not -/

section Answer

variable {crypto : Crypto} {ω : Type} {delivering : Delivering crypto ω}
  (ready : delivering.Ready) (fresh : delivering.Fresh) {world : ω}
include ready fresh

/-- A client that hears nothing after the attestation takes the connection for closed. -/
theorem unanswered : ∃ after,
    delivering.clientEnd (delivering.toldAddr world) =
      .error (.framing (.protocol "connection closed")) after ∧
    after.stream.output = delivering.saidInvoice := by
  have silence : (ZsmptClient.expectStatus "250 ").run (delivering.client .addressed
      (some delivering.invoice.recipientUser) []
        (delivering.saidAddr ++ invoiceBytes delivering.invoice)) =
      .error (.framing (.protocol "connection closed")) (delivering.client .addressed
        (some delivering.invoice.recipientUser) []
          (delivering.saidAddr ++ invoiceBytes delivering.invoice)) := rfl
  have told := client_told_addr ready world fresh []
  rw [List.append_nil, client_invoice ready, run_bind_of_error silence] at told
  exact ⟨_, told, rfl⟩

variable (known : delivering.Known world) (fits : delivering.OutcomeFits world)
include known fits

/-- The answer can be lost. -/
theorem lossy_unanswered :
    Lossy delivering.clientOutput (delivering.serverOutput world) (delivering.toldAddr world)
      delivering.saidInvoice := by
  obtain ⟨client, failed, said⟩ := unanswered ready fresh
  obtain ⟨server, served, -, told⟩ := server_stops ready known fits
  refine ⟨?_, ?_⟩
  · rw [Delivering.serverOutput, served, final_ok, told]
    exact List.prefix_append _ _
  · rw [Delivering.clientOutput, failed, final_error, said]

/-- An acceptance can be heard. -/
theorem lossy_answered {messageId : String}
    (accepted : delivering.outcome world = .accepted messageId) :
    Lossy delivering.clientOutput (delivering.serverOutput world)
      (delivering.toldOutcome world ++ replyBytes (.status delivering.closingStatus))
      (delivering.saidInvoice ++ quitBytes) := by
  obtain ⟨client, done, said⟩ := client_quits ready fresh fits accepted
    (replyBytes (.status delivering.closingStatus))
  obtain ⟨server, served, -, told⟩ := server_quits ready known fits
  refine ⟨?_, ?_⟩
  · rw [Delivering.serverOutput, served, final_ok, told]
  · rw [Delivering.clientOutput, done, final_ok, said]

end Answer

/-- A client that hears the greeting is connected, and goes on. -/
theorem network_greeted {request : SendRequest} {attempt : Attempt}
    (ready : (delivering link request attempt).Ready) (connected : attempt.connected = true)
    (heard : (delivering link request attempt).greetingBytes <+: attempt.toClient) :
    (network link request attempt).connect = .ok () ∧
      (network link request attempt).dialogue =
        answerOf ((delivering link request attempt).clientEnd attempt.toClient) := by
  obtain ⟨rest, same⟩ := heard
  have greets : ZsmptClient.connect.run (.opened ⟨attempt.toClient, []⟩ link.senderDomain) =
      .ok () ((delivering link request attempt).client .connected none rest []) := by
    rw [← same]
    exact ClientSteps.connect_ok (.opened ⟨[], []⟩ link.senderDomain) ready.receiver.1
      (free_append (by decide) (token_free ready.receiver))
      (line_fits ready (by simp [Delivering.lines])) rest []
  have goes : (delivering link request attempt).clientEnd attempt.toClient = _ :=
    run_bind_of_ok greets
  constructor
  · rw [network, (connected_iff.mp connected).2, greeted, greets]
    rfl
  · rw [goes, network, greeted, greets]
    rfl

/-- A dialogue that fails for good is recorded as a failure. -/
theorem attempt_failed (request : SendRequest) {network : Network} {address : String}
    {error : ClientError} (key : network.key = .ok ()) (endpoint : network.endpoint = .ok address)
    (connects : network.connect = .ok ()) (failed : network.dialogue = .error error)
    (permanent : isRetryLater error = false) :
    (Daemon.attempt request network).2 = .failed := by
  simp [Daemon.attempt, key, endpoint, connects, failed, permanent]

/-! ## Alice sends to bob -/

/-- The servers of alice and bob. -/
def aliceToBob : Link := ⟨.mirror, .strict, (), "a.org", "b.org", noTemplate, noTemplate⟩

/-- An invoice of alice for bob. -/
def toBob : SendRequest := ⟨"alice", "bob@b.org", "m1", .sealed, [1, 2, 3]⟩

/-- An attempt that reaches bob's server. -/
def dialled (toClient toServer : List UInt8) : Attempt where
  key := .ok ()
  endpoint := .ok "b.org"
  sendEndpoint := none
  transport := .ok ()
  nonce := Hex.Block.replicate 16 7
  issuedAt := 1700000000
  verifiedAt := 1700000060
  random := Hex.Block.replicate 32 5
  deliveredAt := 1700000060
  recordedAt := 1700000060
  toClient := toClient
  toServer := toServer

/-- The dialogue of alice's invoice. -/
def dialogue : Delivering aliceToBob.crypto Db := delivering aliceToBob toBob (dialled [] [])

/-- Bob's server. -/
def bobServer : Db := apply noTemplate "b.org" .empty createBob

/-- The names and the lines of the dialogue are as they should be. -/
theorem dialogue_ready : dialogue.Ready :=
  ⟨by decide, by decide, by decide, by decide, by decide, by decide, by decide, by decide,
    by decide +kernel⟩

/-- The response to alice's challenge is in time. -/
theorem dialogue_fresh : dialogue.Fresh :=
  fresh_of_punctual dialogue_ready ⟨by decide, by decide⟩

/-- Bob is known to his server. -/
theorem dialogue_known : dialogue.Known bobServer := ⟨by decide, by decide +kernel⟩

/-- Bob's server accepts alice's invoice. -/
theorem dialogue_accepted : dialogue.outcome bobServer = .accepted "m1" := by decide +kernel

/-- The acceptance of alice's invoice fits a line. -/
theorem dialogue_fits : dialogue.OutcomeFits bobServer := by
  rw [Delivering.OutcomeFits, dialogue_accepted]
  decide +kernel

/-- The client does not hear the answer. -/
def unheard : Attempt := dialled (dialogue.toldAddr bobServer) dialogue.saidInvoice

/-- The client hears the answer. -/
def answered : Attempt :=
  dialled (dialogue.toldOutcome bobServer ++ replyBytes (.status dialogue.closingStatus))
    (dialogue.saidInvoice ++ quitBytes)

/-- A session that hears the invoice accepts it. -/
theorem accepted_dialled {toClient toServer : List UInt8}
    (done : (final (dialogue.serverEnd bobServer toServer)).outer =
      dialogue.deliveredOuter bobServer) :
    (converse aliceToBob toBob (dialled toClient toServer) ⟨.empty, bobServer, []⟩).accepted =
      [("bob", "m1")] := by
  have left := @converse_eq aliceToBob toBob (dialled toClient toServer) ⟨.empty, bobServer, []⟩
    rfl _ done
  have pairs : (dialogue.deliveredOuter bobServer).calls.filterMap acceptedPair =
      [("bob", "m1")] := delivered_pairs _ dialogue_accepted
  rw [left, pairs]
  rfl

/-- A request that bob's server is asked for. -/
theorem toBob_asked : toBob.senderUsername ≠ "" ∧ hasDomain toBob = true := by decide +kernel

/-- The client takes the silence for a failure. -/
theorem unheard_failed :
    (Daemon.attempt toBob (network aliceToBob toBob unheard)).2 = .failed := by
  have same : delivering aliceToBob toBob unheard = dialogue := rfl
  have told : unheard.toClient = dialogue.toldAddr bobServer := rfl
  have greets : (delivering aliceToBob toBob unheard).greetingBytes <+: unheard.toClient := by
    rw [same, told, Delivering.toldAddr]
    exact greeted_toldAuth _
  have ready : (delivering aliceToBob toBob unheard).Ready := by
    rw [same]
    exact dialogue_ready
  obtain ⟨connects, goes⟩ := network_greeted aliceToBob ready rfl greets
  obtain ⟨after, failed, -⟩ := @unanswered _ _ _ dialogue_ready dialogue_fresh bobServer
  rw [same, told, failed, answerOf] at goes
  exact attempt_failed toBob rfl rfl connects goes rfl

/-- Alice's invoice is accepted, the answer is lost, and the ledger has it as failed. -/
theorem lost_answer_recorded_failed :
    Guarded (step aliceToBob) (Possible aliceToBob) start
      [.receiver createBob, .send toBob unheard] ∧
    ¬Agrees (run (step aliceToBob) start [.receiver createBob, .send toBob unheard]) := by
  refine ⟨⟨trivial, ?_, trivial⟩, fun agrees => ?_⟩
  · intro connected
    exact lossy_unanswered dialogue_ready dialogue_fresh dialogue_known dialogue_fits
  · obtain ⟨after, served, outer, -⟩ := server_stops dialogue_ready dialogue_known dialogue_fits
    have accepted : (converse aliceToBob toBob unheard ⟨.empty, bobServer, []⟩).accepted =
      [("bob", "m1")] := accepted_dialled (by rw [served, final_ok, outer])
    have recorded : ∃ tx ∈ (recordOutboundTx .empty noTemplate "a.org" "alice" "bob@b.org" "m1"
        .sealed [1, 2, 3] .failed 1700000060).transactions, tx.direction = .outgoing ∧
        (mailboxUser tx.recipientMailbox, tx.messageId) = ("bob", "m1") ∧ tx.state = .failed := by
      decide +kernel
    obtain ⟨tx, member, outgoing, pair, state⟩ := recorded
    have begun : step aliceToBob start (.receiver createBob) = ⟨.empty, bobServer, []⟩ := rfl
    rw [run_cons, run_cons, run_nil, begun, step, if_pos toBob_asked, send_snd,
      if_pos toBob_asked, unheard_failed] at agrees
    have truthful := agrees tx member outgoing
    refine truthful.failed state ?_
    rw [pair, accepted]
    exact List.mem_singleton_self _

/-- Alice's invoice is accepted, the answer is heard, and the ledger agrees. -/
theorem heard_answer_agrees :
    Guarded (step aliceToBob) (fun world event =>
        Possible aliceToBob world event ∧ Sound aliceToBob world event) start
      [.receiver createBob, .send toBob answered] ∧
    (run (step aliceToBob) start [.receiver createBob, .send toBob answered]).accepted =
      [("bob", "m1")] ∧
    Agrees (run (step aliceToBob) start [.receiver createBob, .send toBob answered]) := by
  have begun : step aliceToBob start (.receiver createBob) = ⟨.empty, bobServer, []⟩ := rfl
  have lossy := lossy_answered dialogue_ready dialogue_fresh dialogue_known dialogue_fits
    dialogue_accepted
  have short : ∀ status ∈ answers aliceToBob toBob answered,
      (bytes status.render).length ≤ 4094 := by
    decide +kernel
  have sound : Guarded (step aliceToBob) (fun world event =>
      Possible aliceToBob world event ∧ Sound aliceToBob world event) start
      [.receiver createBob, .send toBob answered] := by
    refine ⟨⟨trivial, trivial⟩, ⟨fun _ => lossy, nofun, fun _ => ⟨dialogue_ready, short⟩, ?_, ?_⟩,
      trivial⟩
    · intro arrives accepts
      exact List.prefix_append _ _
    · intro member
      cases member
  refine ⟨sound, ?_, (ledger_agrees_of_sound aliceToBob _ sound).1⟩
  obtain ⟨after, served, outer, -⟩ := server_quits dialogue_ready dialogue_known dialogue_fits
  have accepted : (converse aliceToBob toBob answered ⟨.empty, bobServer, []⟩).accepted =
    [("bob", "m1")] := accepted_dialled (by rw [served, final_ok, outer])
  rw [run_cons, run_cons, run_nil, begun, step, if_pos toBob_asked]
  exact accepted

end Talk.Verif.LedgerAgreement
