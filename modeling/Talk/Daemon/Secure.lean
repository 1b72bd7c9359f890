import Talk.Daemon.Sink
import Talk.Protocol.Client
import Talk.Protocol.Registration

/-!
# The daemon's secure mailbox

`SEND` resolves the receiver, connects, runs the ZSMTP dialogue and records the result in the
ledger, with a copy in the sender's Sent mailbox. What the resolvers and the connection do is an
argument. `REGISTER` adds a user under a registration attestation; the password hash is a parameter.
-/

namespace Talk.Daemon

open Mailstore Protocol Text

/-! ## The outbound ledger -/

/-- The transaction of a sent invoice. -/
def outboundTx (senderMailbox recipientMailbox messageId : String) (payload : Payload)
    (body : List UInt8) (state : TxState) : NewTransaction :=
  ⟨.outgoing, state, senderMailbox, recipientMailbox, "", none, messageId, some body,
    payload.word⟩

/-- The transaction of an attempt: the existing one in its new state, or a new one. -/
def outboundRow (db : Db) (senderMailbox recipientMailbox messageId : String) (payload : Payload)
    (body : List UInt8) (state : TxState) (now : Int64) : Except StoreError Transaction × Db :=
  match db.txByMessageId .outgoing messageId with
  | some existing => (.ok existing, (db.txTransition existing.id state now).2)
  | none => db.txCreate (outboundTx senderMailbox recipientMailbox messageId payload body state) now

/-- The copy of a sent invoice, linked to its transaction. -/
def sentCopy (db : Db) (template : Template) (senderUsername senderMailbox recipientMailbox
    messageId : String) (body : List UInt8) (txId : Nat) (now : Int64) : Db :=
  match db.getUser senderUsername with
  | none => db
  | some user =>
    let (subject, stored) := template.renderOr senderMailbox "Sent invoice" body
    let msg : NewMessage :=
      ⟨messageId, subject, stored, .default, recipientMailbox, "unverified"⟩
    match db.appendMessageTo user.id sent msg now with
    | (.ok copy, db) => db.txLinkMessage txId copy.id now
    | (.error _, db) => db

/-- `record_outbound_tx`. -/
def recordOutboundTx (db : Db) (template : Template) (senderDomain senderUsername recipientMailbox
    messageId : String) (payload : Payload) (body : List UInt8) (state : TxState) (now : Int64) :
    Db :=
  let senderMailbox := senderUsername ++ "@" ++ senderDomain
  match outboundRow db senderMailbox recipientMailbox messageId payload body state now with
  | (.error _, db) => db
  | (.ok tx, db) =>
    sentCopy db template senderUsername senderMailbox recipientMailbox messageId body tx.id now

/-! ## Sending -/

/-- What a request to send gives. -/
structure SendRequest where
  /-- The authorizing local user. -/
  senderUsername : String
  /-- The recipient. -/
  recipientMailbox : String
  /-- The message id. -/
  messageId : String
  /-- How the invoice is carried. -/
  payload : Payload
  /-- The invoice. -/
  body : List UInt8
  deriving DecidableEq

/-- What the resolvers and the connection do for one attempt. -/
structure Network where
  /-- `resolving_key`. -/
  key : Except String Unit
  /-- `resolve_endpoint`. -/
  endpoint : Except String String
  /-- The configured override of the endpoint. -/
  sendEndpoint : Option String
  /-- `connect_tcp_tls`, with the greeting. -/
  connect : Except ClientError Unit
  /-- `send_invoice_over`. -/
  dialogue : Except ClientError Unit

/-- Why a send is refused or fails. -/
inductive SendFailure where
  /-- "sender username is required". -/
  | senderRequired
  /-- "malformed recipient mailbox". -/
  | malformedRecipient
  /-- "cannot resolve domain key". -/
  | key (error : String)
  /-- "cannot resolve endpoint". -/
  | endpoint (error : String)
  /-- "connect". -/
  | connect (error : ClientError)
  /-- "deliver". -/
  | deliver (error : ClientError)

/-- `SendResult`. -/
inductive SendResult where
  /-- Delivered. -/
  | ok (text : String)
  /-- Not delivered. -/
  | error (failure : SendFailure)

/-- Whether the receiver asked to try again. -/
def isRetryLater : ClientError → Bool
  | .retryLater _ => true
  | _ => false

/-- How an attempt ends: what is returned, and the state that is recorded. -/
def attempt (request : SendRequest) (network : Network) : SendResult × TxState :=
  match network.key with
  | .error error => (.error (.key error), .failed)
  | .ok () =>
    match network.endpoint, network.sendEndpoint with
    | .error error, none => (.error (.endpoint error), .failed)
    | _, _ =>
      match network.connect with
      | .error error => (.error (.connect error), .retrying)
      | .ok () =>
        match network.dialogue with
        | .error error =>
          (.error (.deliver error), if isRetryLater error then .retrying else .failed)
        | .ok () => (.ok ("delivered " ++ request.messageId ++ " to " ++ request.recipientMailbox),
            .sent)

/-- `SecureMailboxService::send`. -/
def send (db : Db) (template : Template) (senderDomain : String) (request : SendRequest)
    (network : Network) (now : Int64) : SendResult × Db :=
  if request.senderUsername = "" then (.error .senderRequired, db)
  else match (split '@' request.recipientMailbox)[1]? with
  | none => (.error .malformedRecipient, db)
  | some _ =>
    let (result, state) := attempt request network
    (result, recordOutboundTx db template senderDomain request.senderUsername
      request.recipientMailbox request.messageId request.payload request.body state now)

/-! ## Registration -/

/-- What a request to register gives. -/
structure RegisterRequest where
  /-- The name to register. -/
  username : String
  /-- The password. -/
  password : String
  /-- The wallet's public key, in hexadecimal. -/
  pubkeyHex : String
  /-- The IVK commitment, in hexadecimal. -/
  ivkHex : Option String
  deriving DecidableEq

/-- What users are registered with: the configured domain, its key and the password hash. -/
structure Registrar (crypto : Crypto) where
  /-- The configured domain. -/
  domain : String
  /-- The domain's key. -/
  domainKey : crypto.SigningKey
  /-- `hash_password`, or the text of its error. -/
  hashPassword : String → Except String String
  /-- The text of an SQLite error. -/
  sqliteError : String

/-- `RegisterResult`. -/
inductive RegisterResult where
  /-- Registered. -/
  | ok
  /-- Not registered. -/
  | error (text : String)
  deriving DecidableEq

variable {crypto : Crypto}

/-- `build_registration_attestation`. -/
def buildRegistrationAttestation (registrar : Registrar crypto) (username : String)
    (masterPubkey : List UInt8) (ivkCommitment : Option String) (registeredAt : Int64) : String :=
  (RegistrationAttestation.sign crypto registrar.domain username masterPubkey ivkCommitment
    registeredAt registrar.domainKey).toJson

/-- The optional IVK commitment is 32 bytes of hexadecimal. -/
def ivkValid (ivkHex : Option String) : Bool :=
  ivkHex.all fun hex => (Hex.decodeBlock 32 hex).isSome

/-- `SecureMailboxService::register`. -/
def register (registrar : Registrar crypto) (db : Db) (request : RegisterRequest)
    (registeredAt now : Int64) : RegisterResult × Db :=
  match Hex.decodeBlock 32 request.pubkeyHex with
  | none => (.error "pubkey must be 32 bytes of hex", db)
  | some pubkey =>
    if ivkValid request.ivkHex = false then (.error "ivk must be 32 bytes of hex", db)
    else if request.username = "" ∨ request.password = "" then
      (.error "username and password are required", db)
    else match registrar.hashPassword request.password with
    | .error error => (.error ("password hash failed: " ++ error), db)
    | .ok hash =>
      match db.createUserFull request.username hash pubkey.val request.ivkHex
        (some (buildRegistrationAttestation registrar request.username pubkey.val request.ivkHex
          registeredAt)) now with
      | (.ok _, db) => (.ok, db)
      | (.error error, db) => (.error (error.display registrar.sqliteError), db)

end Talk.Daemon
