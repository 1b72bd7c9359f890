import Talk.Mailstore.Sqlite
import Talk.Protocol.Session

/-!
# The delivery sink

Deliveries into the mail store: the recipient is looked up, the invoice rendered, the message
appended to the INBOX and recorded in the ledger. The template engine and the template file are a
parameter, and the notification of IDLE sessions is left out.
-/

namespace Talk.Daemon

open Mailstore Protocol Text

/-! ## Rendering -/

/-- The template a daemon is configured with, and the engine. -/
structure Template where
  /-- Templates. -/
  Spec : Type
  /-- `resolve_template`; none when it fails. -/
  resolved : Option Spec
  /-- `render_invoice`: the subject and the body; none when it fails. -/
  render : Spec → (senderName senderAddress amount invoice receivedAt : String) →
    Option (String × String)
  /-- `received_at`. -/
  receivedAt : String

/-- Render an invoice of a mailbox, or fall back to a subject and the invoice as it is. -/
def Template.renderOr (template : Template) (mailbox fallbackSubject : String)
    (body : List UInt8) : String × List UInt8 :=
  match template.resolved with
  | none => (fallbackSubject, body)
  | some spec =>
    match template.render spec mailbox mailbox "" (Utf8.fromUtf8Lossy body) template.receivedAt with
    | none => (fallbackSubject, body)
    | some (subject, html) => (subject, Utf8.bytes html)

/-- `render_delivery`. -/
def renderDelivery (template : Template) (senderMailbox : String) (payload : Payload)
    (body : List UInt8) : String × List UInt8 :=
  template.renderOr senderMailbox
    (match payload with
      | .sealed => "New sealed invoice"
      | .plaintext => "New invoice")
    body

/-! ## Trust -/

/-- `TrustState`. -/
inductive TrustState where
  /-- The sender is pinned. -/
  | trusted
  /-- The sender's key does not match. -/
  | untrusted
  /-- No pin. -/
  | unverified
  deriving DecidableEq

/-- `TrustState::as_str`. -/
def TrustState.word : TrustState → String
  | .trusted => "trusted"
  | .untrusted => "untrusted"
  | .unverified => "unverified"

/-- `StoreKeyring::state`. -/
def keyringState (db : Db) (userId : Nat) (senderMailbox : String) : TrustState :=
  if senderMailbox = "" then .unverified
  else match db.keyringSenderKey userId senderMailbox with
  | some _ => .trusted
  | none => .unverified

/-! ## Delivery -/

/-- `StoreUserDirectory::user_exists`. -/
def userExists (db : Db) (username : String) : Bool := (db.getUser username).isSome

/-- The user half of a mailbox. -/
def mailboxUser (mailbox : String) : String := (split '@' mailbox).headD ""

/-- `recipient_user`. -/
def recipientUser (db : Db) (recipientMailbox : String) : Except DeliveryOutcome User :=
  let user := mailboxUser recipientMailbox
  if user = "" then .error (.rejected "malformed recipient mailbox")
  else match db.getUser user with
  | some found => .ok found
  | none => .error (.rejected ("no such recipient: " ++ user))

/-- `append_and_broadcast`. -/
def appendAndBroadcast (db : Db) (userId : Nat) (msg : NewMessage) (messageId : String)
    (now : Int64) : Except DeliveryOutcome MessageMeta × Db :=
  match db.appendMessage userId msg now with
  | (.ok stored, db) => (.ok stored, db)
  | (.error (.duplicateMessage _), db) =>
    (.error (.rejected ("duplicate message id: " ++ messageId)), db)
  | (.error _, db) => (.error (.retryLater "storage error"), db)

/-- The transaction of a received message. -/
def inboundTx (senderMailbox recipientMailbox amount messageId : String) : NewTransaction :=
  ⟨.incoming, .opaqueTx, senderMailbox, recipientMailbox, amount, none, messageId, none, "sealed"⟩

/-- `record_inbound_tx`. -/
def recordInboundTx (db : Db) (senderMailbox recipientMailbox amount messageId : String)
    (messageRowId : Nat) (now : Int64) : Db :=
  match db.txCreate (inboundTx senderMailbox recipientMailbox amount messageId) now with
  | (.ok tx, db) => db.txLinkMessage tx.id messageRowId now
  | (.error _, db) => db

/-- Append a message to a user's INBOX and record it in the ledger. -/
def store (db : Db) (userId : Nat) (msg : NewMessage)
    (recipientMailbox amount : String) (now : Int64) : DeliveryOutcome × Db :=
  match appendAndBroadcast db userId msg msg.messageId now with
  | (.ok stored, db) =>
    (.accepted msg.messageId,
      recordInboundTx db msg.sender recipientMailbox amount msg.messageId stored.id now)
  | (.error outcome, db) => (outcome, db)

/-- `StoreDeliverySink::deliver_emulated`. -/
def deliverEmulated (db : Db) (recipient senderLabel amount messageId subject : String)
    (body : List UInt8) (now : Int64) : DeliveryOutcome × Db :=
  match recipientUser db recipient with
  | .error outcome => (outcome, db)
  | .ok user =>
    store db user.id ⟨messageId, subject, body, .default, senderLabel,
      (keyringState db user.id senderLabel).word⟩ recipient amount now

/-- `StoreDeliverySink::deliver`. -/
def deliver (template : Template) (now : Int64) (delivery : Delivery) (db : Db) :
    DeliveryOutcome × Db :=
  match recipientUser db delivery.recipientMailbox with
  | .error outcome => (outcome, db)
  | .ok user =>
    let (subject, stored) :=
      renderDelivery template delivery.senderMailbox delivery.payload delivery.body
    store db user.id ⟨delivery.messageId, subject, stored, .default, delivery.senderMailbox,
      (keyringState db user.id delivery.senderMailbox).word⟩ delivery.recipientMailbox "" now

end Talk.Daemon
