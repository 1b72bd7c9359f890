import Talk.Lib.Text

/-!
# The records of the mail store

The rows of the SQLite tables and the records the store's functions take and return. Row ids and
UIDs are SQLite integers that the store itself assigns, so they are natural numbers here; flags
are the 32-bit mask of the source, and clock readings are its signed 64-bit seconds.
-/

namespace Talk.Mailstore

/-- The inbox mailbox name. -/
def inbox : String := "INBOX"

/-- The sent mailbox name. -/
def sent : String := "Sent"

/-! ## Users -/

/-- A row of `users`. -/
structure UserRow where
  /-- The row id. -/
  id : Nat
  /-- The name. -/
  username : String
  /-- The argon2 hash of the password. -/
  passwordHash : String
  /-- The master public key. -/
  masterPubkey : List UInt8
  /-- When the user was created. -/
  createdAt : Int64
  /-- The IVK commitment, in dynamic-address mode. -/
  ivkCommitment : Option String
  /-- The registration attestation. -/
  registrationAttestation : Option String
  deriving DecidableEq

/-- `User`. -/
structure User where
  /-- The row id. -/
  id : Nat
  /-- The name. -/
  username : String
  /-- The master public key. -/
  masterPubkey : List UInt8
  /-- The IVK commitment, in dynamic-address mode. -/
  ivkCommitment : Option String
  /-- The registration attestation. -/
  registrationAttestation : Option String
  deriving DecidableEq

/-- A row of `keyring_entries`. -/
structure KeyringRow where
  /-- Whose keyring. -/
  userId : Nat
  /-- The sender. -/
  senderMailbox : String
  /-- The sender's key. -/
  senderPubkey : String
  /-- The attestation the pin rests on. -/
  attestation : List UInt8
  /-- The trust state. -/
  state : String
  /-- When the sender was first pinned. -/
  firstSeen : Int64
  deriving DecidableEq

/-- A row of `shares`. -/
structure ShareRow where
  /-- Whose share. -/
  userId : Nat
  /-- The name of the share. -/
  shareId : String
  /-- The data key, wrapped under the share. -/
  wrappedDk : List UInt8
  /-- Whether the share is revoked. -/
  revoked : Bool
  deriving DecidableEq

/-- `ShareEntry`. -/
structure ShareEntry where
  /-- The name of the share. -/
  shareId : String
  /-- The data key, wrapped under the share. -/
  wrappedDk : List UInt8
  /-- Whether the share is revoked. -/
  revoked : Bool
  deriving DecidableEq

/-- `KeyringEntry`. -/
structure KeyringEntry where
  /-- The sender. -/
  senderMailbox : String
  /-- The sender's key. -/
  senderPubkey : String
  /-- The trust state. -/
  state : String
  /-- When the sender was first pinned. -/
  firstSeen : Int64
  deriving DecidableEq

/-- `local_username`. -/
def localUsername (login localDomain : String) : Option String :=
  let login := Text.trim login
  if login = "" then none
  else match Text.splitOnce '@' login with
  | none => some login
  | some (localPart, domain) =>
    if localPart = "" then none
    else if Text.eqIgnoreAsciiCase domain localDomain then some localPart
    else none

/-! ## Mailboxes and messages -/

/-- A row of `mailboxes`. -/
structure MailboxRow where
  /-- The row id. -/
  id : Nat
  /-- The owner. -/
  userId : Nat
  /-- The name. -/
  name : String
  /-- The validity of the UIDs. -/
  uidvalidity : UInt32
  /-- The next UID. -/
  uidnext : Nat
  deriving DecidableEq

/-- `MessageFlags`: a bit mask. -/
structure MessageFlags where
  /-- The bits. -/
  bits : UInt32
  deriving DecidableEq

namespace MessageFlags

/-- The bit of a seen message. -/
def seen : UInt32 := 1

/-- The bit of an answered message. -/
def answered : UInt32 := 2

/-- The bit of a flagged message. -/
def flagged : UInt32 := 4

/-- The bit of a deleted message. -/
def deleted : UInt32 := 8

/-- No flag. -/
def default : MessageFlags := ⟨0⟩

/-- `contains`. -/
def contains (flags : MessageFlags) (flag : UInt32) : Bool := flags.bits &&& flag != 0

/-- `insert`. -/
def insert (flags : MessageFlags) (flag : UInt32) : MessageFlags := ⟨flags.bits ||| flag⟩

/-- `remove`. -/
def remove (flags : MessageFlags) (flag : UInt32) : MessageFlags := ⟨flags.bits &&& ~~~flag⟩

/-- `is_seen`. -/
def isSeen (flags : MessageFlags) : Bool := flags.contains seen

end MessageFlags

/-- A row of `messages`. -/
structure MessageRow where
  /-- The row id. -/
  id : Nat
  /-- The mailbox. -/
  mailboxId : Nat
  /-- The ZSMTP message id. -/
  messageId : String
  /-- The UID. -/
  uid : Nat
  /-- When the message arrived. -/
  internaldate : Int64
  /-- The flags. -/
  flags : MessageFlags
  /-- The subject. -/
  subject : String
  /-- The length of the body. -/
  size : Nat
  /-- The body. -/
  body : List UInt8
  /-- The sender, or the recipient of a sent copy. -/
  sender : String
  /-- The trust state of the sender. -/
  trustState : String
  deriving DecidableEq

/-- `NewMessage`. -/
structure NewMessage where
  /-- The ZSMTP message id. -/
  messageId : String
  /-- The subject. -/
  subject : String
  /-- The body. -/
  body : List UInt8
  /-- The flags. -/
  flags : MessageFlags
  /-- The sender, or the recipient of a sent copy. -/
  sender : String
  /-- The trust state of the sender. -/
  trustState : String
  deriving DecidableEq

/-- `MessageMeta`. -/
structure MessageMeta where
  /-- The row id. -/
  id : Nat
  /-- The ZSMTP message id. -/
  messageId : String
  /-- The UID. -/
  uid : UInt32
  /-- The validity of the UIDs. -/
  uidvalidity : UInt32
  /-- When the message arrived. -/
  internaldate : Int64
  /-- The flags. -/
  flags : MessageFlags
  /-- The subject. -/
  subject : String
  /-- The length of the body. -/
  size : Nat
  /-- The sender, or the recipient of a sent copy. -/
  sender : String
  /-- The trust state of the sender. -/
  trustState : String
  /-- The state of the linked transaction. -/
  txState : Option String
  /-- The linked transaction. -/
  txId : Option Nat
  deriving DecidableEq

/-- `Message`. -/
structure Message where
  /-- The metadata. -/
  info : MessageMeta
  /-- The body. -/
  body : List UInt8
  deriving DecidableEq

/-! ## The ledger -/

/-- `TxDirection`. -/
inductive TxDirection where
  /-- Received. -/
  | incoming
  /-- Sent. -/
  | outgoing
  deriving DecidableEq

/-- `TxState`. -/
inductive TxState where
  /-- Inbound, awaiting the on-chain binding. -/
  | opaqueTx
  /-- Inbound, the binding matched. -/
  | resolved
  /-- Inbound, the note was spent. -/
  | spent
  /-- Outbound, accepted by the receiving server. -/
  | sent
  /-- Outbound, failed for good. -/
  | failed
  /-- Outbound, to be sent again. -/
  | retrying
  deriving DecidableEq

/-- `TxState::as_str`. -/
def TxState.word : TxState → String
  | .opaqueTx => "opaque"
  | .resolved => "resolved"
  | .spent => "spent"
  | .sent => "sent"
  | .failed => "failed"
  | .retrying => "retrying"

/-- `NewTransaction`. -/
structure NewTransaction where
  /-- The direction. -/
  direction : TxDirection
  /-- The state. -/
  state : TxState
  /-- The sender. -/
  senderMailbox : String
  /-- The recipient. -/
  recipientMailbox : String
  /-- The amount. -/
  amount : String
  /-- The on-chain binding. -/
  binding : Option String
  /-- The ZSMTP message id. -/
  messageId : String
  /-- The invoice, of an outbound transaction. -/
  outboundBody : Option (List UInt8)
  /-- The payload kind. -/
  payload : String
  deriving DecidableEq

/-- `Transaction`, and a row of `transactions`. -/
structure Transaction where
  /-- The row id. -/
  id : Nat
  /-- The direction. -/
  direction : TxDirection
  /-- The state. -/
  state : TxState
  /-- The sender. -/
  senderMailbox : String
  /-- The recipient. -/
  recipientMailbox : String
  /-- The amount. -/
  amount : String
  /-- The on-chain binding. -/
  binding : Option String
  /-- The ZSMTP message id. -/
  messageId : String
  /-- The message row the transaction produced. -/
  messageRowId : Option Nat
  /-- The invoice, of an outbound transaction. -/
  outboundBody : Option (List UInt8)
  /-- The payload kind. -/
  payload : String
  /-- When the transaction was recorded. -/
  createdAt : Int64
  /-- When it last changed. -/
  updatedAt : Int64
  deriving DecidableEq

/-! ## Errors -/

/-- `StoreError`, as far as the modelled functions return it. -/
inductive StoreError where
  /-- No row was changed. -/
  | userNotFound (name : String)
  /-- No such mailbox. -/
  | mailboxNotFound
  /-- No such message. -/
  | messageNotFound
  /-- The mailbox holds this message id. -/
  | duplicateMessage (messageId : String)
  /-- SQLite refused a statement. -/
  | storage
  deriving DecidableEq

/-- The text of an error, where SQLite's own text is given. -/
def StoreError.display (sqlite : String) : StoreError → String
  | .userNotFound name => "user " ++ name ++ " not found"
  | .mailboxNotFound => "mailbox not found"
  | .messageNotFound => "message not found"
  | .duplicateMessage messageId => "duplicate message id " ++ messageId
  | .storage => "storage: " ++ sqlite

end Talk.Mailstore
