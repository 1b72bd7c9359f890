import Talk.Ctl.Remote
import Talk.Verif.ClientSteps
import Talk.Verif.Ownership

/-!
# Two senders, one ledger

The daemon and the command line send the same invoices over the same network and write the same
ledger, each by a decision tree of its own. The trees agree once a connection is up. Before that the
daemon records what the command line does not, and calls a connection that does not come up
transient where the command line calls it final: what goes wrong until the greeting is read is never
the error that asks to try again.
-/

namespace Talk.Verif.OutboundAgreement

open Mailstore Table Daemon Ctl Protocol Text ByteStream StoreSteps Ownership ZsmptClient
open ClientSteps (connect_line connect_done)
open Hex (Block)
open Utf8 (bytes)

/-! ## What the ledger says -/

/-- The state that the ledger has for an outbound message id. -/
def ledgerState (db : Db) (messageId : String) : Option TxState :=
  (db.txByMessageId .outgoing messageId).map Transaction.state

/-- Linking a transaction to a row leaves the states. -/
theorem ledgerState_link (db : Db) (txId rowId : Nat) (now : Int64) (messageId : String) :
    ledgerState (db.txLinkMessage txId rowId now) messageId = ledgerState db messageId := by
  have key (tx : Transaction) (chosen : Bool) :
      Db.txKey (if chosen then { tx with messageRowId := some rowId, updatedAt := now } else tx) =
        Db.txKey tx := by
    cases chosen with
    | false => rfl
    | true => rfl
  unfold ledgerState Db.txByMessageId Db.txLinkMessage Db.txUpdate update
  rw [List.find?_map, Option.map_map]
  have same : ((fun tx => decide (Db.txKey tx = (TxDirection.outgoing, messageId))) ∘
      fun tx : Transaction => if decide (tx.id = txId) then
        { tx with messageRowId := some rowId, updatedAt := now } else tx) =
      fun tx => decide (Db.txKey tx = (TxDirection.outgoing, messageId)) := by
    funext tx
    rw [Function.comp_apply, key]
  rw [same]
  congr 1
  funext tx
  rw [Function.comp_apply]
  split
  · rfl
  · rfl

/-- The ledger has the state that a new message id is recorded with. -/
theorem ledgerState_record (db : Db) (template : Template) (domain username recipient
    messageId : String) (payload : Payload) (body : List UInt8) (state : TxState) (now : Int64)
    (fresh : db.txByMessageId .outgoing messageId = none) :
    ledgerState (recordOutboundTx db template domain username recipient messageId payload body
      state now) messageId = some state := by
  have unknown : ∀ tx ∈ db.transactions, Db.txKey tx ≠ (.outgoing, messageId) := by
    intro tx member same
    exact List.find?_eq_none.mp fresh tx member (decide_eq_true same)
  obtain ⟨txId, middle, done, ⟨tx, member, key, -⟩ | ⟨-, -, new⟩⟩ := recordOutboundTx_eq db template
    domain username recipient messageId payload body state now
  · exact absurd key (unknown tx member)
  · have added : ledgerState middle messageId = some state := by
      unfold ledgerState Db.txByMessageId
      rw [new, List.find?_append, show db.transactions.find? _ = none from fresh, Option.none_or,
        List.find?_singleton, if_pos]
      · rfl
      · exact decide_eq_true rfl
    rw [done]
    rcases sentCopy_cases middle template username (username ++ "@" ++ domain) recipient messageId
      body txId now with ⟨-, kept⟩ | ⟨user, handle, msg, -, -, -, -, -, stored⟩
    · rw [kept, added]
    · rw [stored, ledgerState_link]
      exact added

/-! ## How the two trees end -/

/-- The receiver's key and an endpoint are known. -/
def Located (network : Network) : Prop :=
  network.key = .ok () ∧ (network.sendEndpoint = none → ∃ endpoint, network.endpoint = .ok endpoint)

/-- Nothing refuses the connection for good. -/
def ConnectsOrWaits (network : Network) : Prop :=
  ∀ error, network.connect = .error error → isRetryLater error = true

/-- An override, or an endpoint that is found, locates the receiver. -/
theorem not_located {network : Network} (lost : ¬Located network) (key : network.key = .ok ()) :
    network.sendEndpoint = none ∧ ∃ error, network.endpoint = .error error := by
  by_cases override : network.sendEndpoint = none
  · refine ⟨override, ?_⟩
    cases found : network.endpoint with
    | error error => exact ⟨error, rfl⟩
    | ok endpoint => exact absurd ⟨key, fun _ => ⟨endpoint, found⟩⟩ lost
  · exact absurd ⟨key, fun missing => absurd missing override⟩ lost

/-- The command line records nothing of an attempt that does not find the receiver. -/
theorem deliverInvoice_unlocated (db : Db) (config : Config) (request : SendRequest)
    {network : Network} (now : Int64) (lost : ¬Located network) :
    (deliverInvoice db config request network now).2 = db := by
  unfold deliverInvoice
  cases (split '@' request.recipientMailbox)[1]? with
  | none => rfl
  | some =>
    cases key : network.key with
    | error => rfl
    | ok =>
      obtain ⟨override, error, found⟩ := not_located lost key
      rw [override, found]

/-- The daemon records what the connection comes to. -/
theorem attempt_located (request : SendRequest) {network : Network} (located : Located network) :
    (attempt request network).2 = match network.connect with
      | .error _ => .retrying
      | .ok () => resultState network.dialogue := by
  have ends : (match network.connect with
      | .error error => (SendResult.error (.connect error), TxState.retrying)
      | .ok () => match network.dialogue with
        | .error error =>
          (.error (.deliver error), if isRetryLater error then .retrying else .failed)
        | .ok () => (.ok ("delivered " ++ request.messageId ++ " to " ++ request.recipientMailbox),
            .sent)).2 = match network.connect with
      | .error _ => .retrying
      | .ok () => resultState network.dialogue := by
    cases network.connect with
    | error => rfl
    | ok =>
      cases network.dialogue with
      | error => rfl
      | ok => rfl
  unfold attempt
  rw [located.1]
  cases found : network.endpoint with
  | ok => exact ends
  | error =>
    cases override : network.sendEndpoint with
    | some => exact ends
    | none =>
      obtain ⟨endpoint, same⟩ := located.2 override
      rw [found] at same
      cases same

/-- The command line records what the connection comes to. -/
theorem deliverInvoice_located (db : Db) (config : Config) (request : SendRequest)
    {network : Network} (now : Int64) (located : Located network)
    (wellFormed : (split '@' request.recipientMailbox)[1]? ≠ none) :
    (deliverInvoice db config request network now).2 =
      recordOutbound db config request (resultState (sendInvoiceDeliver network)) now := by
  have ends : (match sendInvoiceDeliver network with
      | .error error => ((.error (.deliver error) : Except DeliverFailure TxState),
          recordOutbound db config request (resultState (sendInvoiceDeliver network)) now)
      | .ok () => (.ok (resultState (sendInvoiceDeliver network)),
          recordOutbound db config request (resultState (sendInvoiceDeliver network)) now)).2 =
      recordOutbound db config request (resultState (sendInvoiceDeliver network)) now := by
    cases sendInvoiceDeliver network with
    | ok => rfl
    | error => rfl
  unfold deliverInvoice
  cases named : (split '@' request.recipientMailbox)[1]? with
  | none => exact absurd named wellFormed
  | some =>
    rw [located.1]
    cases found : network.endpoint with
    | ok => exact ends
    | error =>
      cases override : network.sendEndpoint with
      | some => exact ends
      | none =>
        obtain ⟨endpoint, same⟩ := located.2 override
        rw [found] at same
        cases same

/-- Both trees record the same state once the receiver is located, unless a connection is refused
for good. -/
theorem states_agree_iff (request : SendRequest) {network : Network} (located : Located network) :
    (attempt request network).2 = resultState (sendInvoiceDeliver network) ↔
      ConnectsOrWaits network := by
  rw [attempt_located request located]
  unfold ConnectsOrWaits sendInvoiceDeliver
  cases network.connect with
  | ok => exact iff_of_true rfl nofun
  | error error =>
    have state : resultState (.error error) =
        if isRetryLater error then TxState.retrying else .failed := rfl
    dsimp only
    rw [state]
    cases later : isRetryLater error with
    | true =>
      refine iff_of_true rfl fun other same => ?_
      rw [← Except.error.inj same, later]
    | false =>
      refine iff_of_false TxState.noConfusion fun waits => ?_
      have transient := waits error rfl
      rw [later] at transient
      cases transient

/-! ## When the trees end alike -/

/-- The two trees end alike: the recipient is malformed, or an empty sender's receiver is not
located, or a sender's is, and nothing refuses the connection for good. -/
def TreesAlike (request : SendRequest) (network : Network) : Prop :=
  (split '@' request.recipientMailbox)[1]? = none ∨
  (request.senderUsername = "" ∧ ¬Located network) ∨
  (request.senderUsername ≠ "" ∧ Located network ∧ ConnectsOrWaits network)

section Sends

variable (template : Template) (domain : String) (db : Db) (request : SendRequest)
  (network : Network) (now : Int64)

/-- Trees that end alike leave the same store. -/
theorem same_store (alike : TreesAlike request network) :
    (send db template domain request network now).2 =
      (deliverInvoice db ⟨domain, template⟩ request network now).2 := by
  rcases alike with malformed | ⟨empty, lost⟩ | ⟨named, located, waits⟩
  · unfold send deliverInvoice
    rw [malformed]
    split
    · rfl
    · rfl
  · unfold send
    rw [if_pos empty, deliverInvoice_unlocated db _ request now lost]
  · unfold send
    rw [if_neg named]
    cases wellFormed : (split '@' request.recipientMailbox)[1]? with
    | none =>
      unfold deliverInvoice
      rw [wellFormed]
    | some =>
      have found : (split '@' request.recipientMailbox)[1]? ≠ none := by
        rw [wellFormed]
        exact Option.some_ne_none _
      rw [deliverInvoice_located db _ request now located found,
        ← (states_agree_iff request located).mpr waits]
      rfl

/-- Trees that do not end alike record different states for a message id that the ledger does not
know, or one of them records none. -/
theorem different_state (differ : ¬TreesAlike request network)
    (fresh : db.txByMessageId .outgoing request.messageId = none) :
    ledgerState (send db template domain request network now).2 request.messageId ≠
      ledgerState (deliverInvoice db ⟨domain, template⟩ request network now).2
        request.messageId := by
  have wellFormed : (split '@' request.recipientMailbox)[1]? ≠ none := fun malformed =>
    differ (.inl malformed)
  have before : ledgerState db request.messageId = none := by
    unfold ledgerState
    rw [fresh]
    rfl
  have recorded (state : TxState) := ledgerState_record db template domain request.senderUsername
    request.recipientMailbox request.messageId request.payload request.body state now fresh
  rcases send_cases db template domain request network now with
    ⟨refused, kept⟩ | ⟨named, -, done⟩
  · have empty : request.senderUsername = "" := refused.resolve_right wellFormed
    have located : Located network := by
      by_contra lost
      exact differ (.inr (.inl ⟨empty, lost⟩))
    rw [kept, before, deliverInvoice_located db _ request now located wellFormed]
    unfold recordOutbound
    rw [recorded]
    exact (Option.some_ne_none _).symm
  · rw [done, recorded]
    by_cases located : Located network
    · rw [deliverInvoice_located db _ request now located wellFormed]
      unfold recordOutbound
      rw [recorded]
      intro same
      exact differ (.inr (.inr ⟨named, located,
        (states_agree_iff request located).mp (Option.some.inj same)⟩))
    · rw [deliverInvoice_unlocated db _ request now located, before]
      exact Option.some_ne_none _

end Sends

/-- On a ledger that does not know the message id, trees that record the same state are those that
end alike. -/
theorem same_state_iff (template : Template) (domain : String) {db : Db} (request : SendRequest)
    (network : Network) (now : Int64)
    (fresh : db.txByMessageId .outgoing request.messageId = none) :
    ledgerState (send db template domain request network now).2 request.messageId =
      ledgerState (deliverInvoice db ⟨domain, template⟩ request network now).2
        request.messageId ↔ TreesAlike request network := by
  constructor
  · intro same
    by_contra differ
    exact different_state template domain db request network now differ fresh same
  · intro alike
    rw [same_store template domain db request network now alike]

/-! ## The way to a receiver -/

/-- What the resolvers, the dialled server and the clocks do for one invoice. -/
structure Route (crypto : Crypto) where
  /-- `resolving_key`. -/
  key : Except String crypto.VerifyingKey
  /-- `resolve_endpoint`. -/
  endpoint : Except String String
  /-- The configured override of the endpoint. -/
  sendEndpoint : Option String
  /-- The connection over TLS to an address under a server name. -/
  dial : String → String → Except TransportError (List UInt8)
  /-- The nonce of the challenge. -/
  nonce : Block 16
  /-- When the challenge is issued. -/
  issuedAt : Int64
  /-- When the response is verified. -/
  verifiedAt : Int64

/-- The part after `@` of the recipient. -/
def receiverDomain (request : SendRequest) : String :=
  (split '@' request.recipientMailbox)[1]?.getD ""

namespace Route

variable {crypto : Crypto} (route : Route crypto)

/-- The endpoint that is dialled. -/
def address : String :=
  match route.endpoint with
  | .ok endpoint => endpoint
  | .error _ => route.sendEndpoint.getD ""

/-- The client after the greeting. -/
def client (domain : String) (request : SendRequest) : Except ClientError ZsmptClient :=
  connectTcpTls route.dial route.address (receiverDomain request) domain

/-- The dialogue of a request with the server that greeted. -/
def dialogue (json : JsonReader) (domain : String) (request : SendRequest) :
    Except ClientError Unit :=
  match route.key, route.client domain request with
  | .ok receiverPub, .ok client => answerOf ((sendInvoiceOver crypto json
      ⟨request.senderUsername, mailboxUser request.recipientMailbox, request.messageId,
        request.payload, request.body⟩
      receiverPub route.nonce route.issuedAt route.verifiedAt).run client)
  -- Neither tree asks for the dialogue without a key and a connection.
  | _, _ => .error .io

/-- What the two trees are told. -/
def network (json : JsonReader) (domain : String) (request : SendRequest) : Network where
  key := route.key.map fun _ => ()
  endpoint := route.endpoint
  sendEndpoint := route.sendEndpoint
  connect := (route.client domain request).map fun _ => ()
  dialogue := route.dialogue json domain request

/-- The receiver's key is resolved, and its endpoint is resolved or overridden. -/
def Found : Prop :=
  (∃ key, route.key = .ok key) ∧
    (route.sendEndpoint = none → ∃ endpoint, route.endpoint = .ok endpoint)

/-- A peer greets with the name of a domain. -/
def Greets (input : List UInt8) : Prop :=
  ∃ (line : LineWire) (rest : List UInt8) (domain : String),
    input = line.wire ++ rest ∧ line.text = "ZSMTP 1.0 " ++ domain ∧ domain ≠ ""

/-- The connection comes up: the server is reached over TLS, and it greets. -/
def Connects (request : SendRequest) : Prop :=
  ∃ input, route.dial route.address (receiverDomain request) = .ok input ∧ Greets input

variable {route}

/-- The trees take a receiver to be located that is found. -/
theorem located_iff {json : JsonReader} {domain : String} {request : SendRequest} :
    Located (route.network json domain request) ↔ route.Found := by
  refine and_congr ?_ Iff.rfl
  unfold network
  cases route.key with
  | ok key => exact iff_of_true rfl ⟨key, rfl⟩
  | error =>
    refine iff_of_false (fun found => ?_) fun ⟨key, found⟩ => ?_
    · cases found
    · cases found

/-- A greeting that names no domain is not an answer to try again later. -/
theorem greeting_not_later {greeting : String} {error : ClientError}
    (refused : greetingDomain greeting = .error error) : isRetryLater error = false := by
  unfold greetingDomain at refused
  split at refused
  · cases refused
    rfl
  · split at refused
    · cases refused
      rfl
    · cases refused

/-- A greeting that does not come is not an answer to try again later. -/
theorem connect_not_later {stream : Conn} {domain : String} {error : ClientError}
    {after : ZsmptClient} (failed : connect.run (opened stream domain) = .error error after) :
    isRetryLater error = false := by
  unfold connect at failed
  cases read : (onStream readLine).run (opened stream domain) with
  | error fault broken =>
    rw [run_bind_of_error read] at failed
    -- What breaks a line is reported as a framing error.
    cases heard : readLine.run (opened stream domain).stream with
    | ok text left =>
      rw [onStream_ok _ heard] at read
      cases read
    | error framing left =>
      rw [onStream_error _ heard] at read
      cases read
      cases failed
      rfl
  | ok greeting middle =>
    rw [run_bind_of_ok read] at failed
    cases found : greetingDomain greeting with
    | error fault =>
      have refused : (ofExcept (greetingDomain greeting)).run middle = .error fault middle := by
        rw [found]
        rfl
      rw [run_bind_of_error refused] at failed
      cases failed
      exact greeting_not_later found
    | ok receiver =>
      have named : (ofExcept (greetingDomain greeting)).run middle = .ok receiver middle := by
        rw [found]
        rfl
      rw [run_bind_of_ok named] at failed
      cases failed

/-- The connection comes up, or fails with an error that does not ask to try again. -/
theorem client_cases (domain : String) (request : SendRequest) :
    (route.Connects request ∧ ∃ client, route.client domain request = .ok client) ∨
    (¬route.Connects request ∧
      ∃ error, route.client domain request = .error error ∧ isRetryLater error = false) := by
  unfold Connects client connectTcpTls
  cases dialled : route.dial route.address (receiverDomain request) with
  | error fault =>
    refine .inr ⟨fun ⟨input, reached, _⟩ => ?_, _, rfl, ?_⟩
    · cases reached
    · cases fault with
      | serverName => rfl
      | io => rfl
  | ok input =>
    dsimp only
    cases ended : connect.run (opened ⟨input, []⟩ domain) with
    | ok _ client =>
      obtain ⟨line, receiver, stream, named, greets, heard, -⟩ := connect_done ended
      exact .inl ⟨⟨input, rfl, line, stream.input, receiver, congrArg Conn.input heard, greets,
        named⟩, client, rfl⟩
    | error error after =>
      refine .inr ⟨?_, error, rfl, connect_not_later ended⟩
      rintro ⟨heard, same, line, rest, receiver, wire, greets, named⟩
      have done := connect_line (opened ⟨input, []⟩ domain) named greets rest []
      rw [← wire, ← Except.ok.inj same] at done
      cases ended.symm.trans done

end Route

/-! ## When the two agree -/

/-- The daemon and `deliver_invoice` end alike: the recipient is malformed, or an empty sender's
receiver is not found, or a sender's is found and the connection comes up. -/
def EndAlike {crypto : Crypto} (request : SendRequest) (route : Route crypto) : Prop :=
  (split '@' request.recipientMailbox)[1]? = none ∨
  (request.senderUsername = "" ∧ ¬route.Found) ∨
  (request.senderUsername ≠ "" ∧ route.Found ∧ route.Connects request)

/-- Nothing asks to try again before the dialogue, so the trees end alike on a route exactly where
the connection comes up. -/
theorem treesAlike_iff {crypto : Crypto} (json : JsonReader) (domain : String)
    (request : SendRequest) (route : Route crypto) :
    TreesAlike request (route.network json domain request) ↔ EndAlike request route := by
  have connects : ConnectsOrWaits (route.network json domain request) ↔
      route.Connects request := by
    unfold ConnectsOrWaits Route.network
    dsimp only
    rcases Route.client_cases domain request with ⟨up, client, done⟩ | ⟨down, error, failed, final⟩
    · rw [done]
      exact iff_of_true (fun _ never => by cases never) up
    · rw [failed]
      refine iff_of_false (fun waits => ?_) down
      have later := waits error rfl
      rw [final] at later
      cases later
  unfold TreesAlike EndAlike
  rw [Route.located_iff, connects]

/-- The daemon and `deliver_invoice` leave the same store, for every store, exactly if they end
alike; and else they differ on every ledger that does not know the message id. The command line's
own `send` refuses an empty sender as the daemon does, so it leaves the same store exactly if the
sender is empty, or the recipient malformed, or the receiver is found and the connection comes
up. -/
theorem sends_agree_iff {crypto : Crypto} (json : JsonReader) (request : SendRequest)
    (route : Route crypto) :
    ((∀ db template domain now,
      (send db template domain request (route.network json domain request) now).2 =
        (deliverInvoice db ⟨domain, template⟩ request (route.network json domain request) now).2) ↔
      EndAlike request route) ∧
    (∀ db template domain now, db.txByMessageId .outgoing request.messageId = none →
      (ledgerState (send db template domain request (route.network json domain request) now).2
          request.messageId =
        ledgerState (deliverInvoice db ⟨domain, template⟩ request
          (route.network json domain request) now).2 request.messageId ↔
        EndAlike request route)) ∧
    ((∀ db template domain now,
      (send db template domain request (route.network json domain request) now).2 =
        (sendDirectly db ⟨domain, template⟩ request (route.network json domain request) now).2) ↔
      request.senderUsername = "" ∨ (split '@' request.recipientMailbox)[1]? = none ∨
        (route.Found ∧ route.Connects request)) := by
  have perStore (db : Db) (template : Template) (domain : String) (now : Int64)
      (fresh : db.txByMessageId .outgoing request.messageId = none) :=
    (same_state_iff template domain request (route.network json domain request) now fresh).trans
      (treesAlike_iff json domain request route)
  have stores : (∀ db template domain now,
      (send db template domain request (route.network json domain request) now).2 =
        (deliverInvoice db ⟨domain, template⟩ request (route.network json domain request) now).2) ↔
      EndAlike request route := by
    refine ⟨fun same => ?_, fun alike db template domain now => ?_⟩
    · exact (perStore .empty noTemplate "" 0 rfl).mp (by rw [same])
    · exact same_store template domain db request _ now
        ((treesAlike_iff json domain request route).mpr alike)
  refine ⟨stores, perStore, ?_⟩
  unfold sendDirectly
  by_cases empty : request.senderUsername = ""
  · refine iff_of_true (fun db template domain now => ?_) (.inl empty)
    unfold send
    rw [if_pos empty, if_pos empty]
  · simp only [if_neg empty]
    rw [stores, EndAlike, or_iff_right empty]
    simp only [empty, false_and, false_or, ne_eq, not_false_iff, true_and]

/-! ## Three routes -/

/-- Bob's invoice to dan. -/
def toDan : SendRequest := ⟨"bob", "dan@r.io", "m1", .sealed, [1]⟩

/-- A route to dan's server, as far as its key and the connection go. -/
def toServer (key : Except String Unit)
    (dial : String → String → Except TransportError (List UInt8)) : Route .mirror :=
  ⟨key, .ok "r.io:2525", none, dial, .replicate 16 0, 0, 0⟩

/-- Dan's key is not found. -/
def keyless : Route .mirror := toServer (.error "no TXT record") fun _ _ => .error .io

/-- Dan's server is down. -/
def unreachable : Route .mirror := toServer (.ok ()) fun _ _ => .error .io

/-- Dan's server says that it is busy. -/
def busy : Route .mirror := toServer (.ok ()) fun _ _ => .ok (bytes "421 busy" ++ [13, 10])

/-- What the daemon and `deliver_invoice` record of bob's invoice. -/
def recorded (route : Route .mirror) : Option TxState × Option TxState :=
  let network := route.network .strict "b.io" toDan
  (ledgerState (send .empty noTemplate "b.io" toDan network 0).2 "m1",
    ledgerState (deliverInvoice .empty ⟨"b.io", noTemplate⟩ toDan network 0).2 "m1")

/-- Without the key the daemon records a failure, and the command line nothing. A server that is
down, or busy, is to be tried again for the daemon, and has failed for the command line. -/
theorem failures_differ :
    (split '@' toDan.recipientMailbox)[1]? = some "r.io" ∧
      recorded keyless = (some .failed, none) ∧
      recorded unreachable = (some .retrying, some .failed) ∧
      recorded busy = (some .retrying, some .failed) := by
  decide +kernel

end Talk.Verif.OutboundAgreement
