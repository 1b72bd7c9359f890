/-!
# The envelope of a delivery

What a delivery says about itself, next to the invoice, and when two deliveries are the same.
-/

namespace Talk.Protocol

/-- `Payload`: how the invoice is carried. -/
inductive Payload where
  /-- Sealed with a key carried in the memo. -/
  | sealed
  /-- Sealed to the recipient's public key. -/
  | plaintext
  deriving DecidableEq

/-- The word of a payload kind on the wire and in the ledger. -/
def Payload.word : Payload → String
  | .sealed => "sealed"
  | .plaintext => "plaintext"

/-- `Recipient`. -/
structure Recipient where
  /-- The recipient's mailbox. -/
  mailbox : String
  deriving DecidableEq

/-- `Envelope`. -/
structure Envelope where
  /-- The protocol version. -/
  version : String
  /-- The domain of the sending server. -/
  senderServer : String
  /-- The message id. -/
  messageId : String
  /-- The recipient. -/
  recipient : Recipient
  /-- How the invoice is carried. -/
  payload : Payload
  /-- When the envelope was created. -/
  createdAt : Int64
  deriving DecidableEq

namespace Envelope

/-- `Envelope::new`. -/
def new (senderServer messageId : String) (recipient : Recipient) (payload : Payload)
    (now : Int64) : Envelope :=
  ⟨"1.0", senderServer, messageId, recipient, payload, now⟩

/-- `Envelope::is_duplicate_of`. -/
def isDuplicateOf (envelope other : Envelope) : Bool :=
  decide (envelope.senderServer = other.senderServer) &&
    decide (envelope.messageId = other.messageId)

/-- Duplicates come from one server under one message id. -/
@[simp] theorem isDuplicateOf_iff {envelope other : Envelope} :
    envelope.isDuplicateOf other = true ↔
      envelope.senderServer = other.senderServer ∧ envelope.messageId = other.messageId := by
  simp [isDuplicateOf]

end Envelope

end Talk.Protocol
