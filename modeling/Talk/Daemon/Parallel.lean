import Talk.Daemon.Sink
import Talk.Lib.Interleaving

/-!
# Deliveries at once

The sections of a delivery, each of which takes the store's lock on its own: the recipient, the pin,
the mailbox, the insert, the transaction and its link. Deliveries of many peers run at once, and
IMAP sessions set flags meanwhile.
-/

namespace Talk.Daemon

open Mailstore Protocol Interleaving

/-- What is to be delivered, rendered. -/
structure Job where
  /-- The recipient's mailbox, or name. -/
  recipient : String
  /-- The sender's mailbox, or label. -/
  sender : String
  /-- The amount. -/
  amount : String
  /-- The message id. -/
  messageId : String
  /-- The subject. -/
  subject : String
  /-- The body. -/
  body : List UInt8
  /-- The time. -/
  now : Int64
  deriving DecidableEq

/-- What `StoreDeliverySink::deliver` delivers. -/
def Job.ofDelivery (template : Template) (now : Int64) (delivery : Delivery) : Job :=
  let (subject, stored) :=
    renderDelivery template delivery.senderMailbox delivery.payload delivery.body
  ⟨delivery.recipientMailbox, delivery.senderMailbox, "", delivery.messageId, subject, stored, now⟩

/-- What `StoreDeliverySink::deliver_emulated` delivers. -/
def Job.ofEmulation (recipient senderLabel amount messageId subject : String) (body : List UInt8)
    (now : Int64) : Job :=
  ⟨recipient, senderLabel, amount, messageId, subject, body, now⟩

/-- The message that is stored. -/
def Job.message (job : Job) (trust : TrustState) : NewMessage :=
  ⟨job.messageId, job.subject, job.body, .default, job.sender, trust.word⟩

/-- Where a delivery is: the section that comes next, with what the earlier ones have read. -/
inductive Phase where
  /-- `get_user`. -/
  | start
  /-- `keyring_sender_key`. -/
  | found (user : User)
  /-- `mailbox_named`. -/
  | labelled (user : User) (trust : TrustState)
  /-- The insert and the increment. -/
  | named (handle : Db.Handle) (trust : TrustState)
  /-- `tx_create`. -/
  | stored (info : MessageMeta)
  /-- `tx_link_message`. -/
  | created (info : MessageMeta) (tx : Transaction)
  /-- Answered. -/
  | done (outcome : DeliveryOutcome)
  deriving DecidableEq

/-- A delivery, and where it is. -/
structure Thread where
  /-- What is delivered. -/
  job : Job
  /-- Where it is. -/
  phase : Phase
  deriving DecidableEq

/-- The next section of a delivery. -/
def Job.next (job : Job) (db : Db) : Phase → Db × Phase
  | .start =>
    match recipientUser db job.recipient with
    | .error outcome => (db, .done outcome)
    | .ok user => (db, .found user)
  | .found user => (db, .labelled user (keyringState db user.id job.sender))
  | .labelled user trust =>
    match db.mailboxNamed user.id inbox with
    | .error _ => (db, .done (.retryLater "storage error"))
    | .ok handle => (db, .named handle trust)
  | .named handle trust =>
    match db.insertMessage handle (job.message trust) job.now with
    | (.ok info, db) => (db, .stored info)
    | (.error (.duplicateMessage _), db) =>
      (db, .done (.rejected ("duplicate message id: " ++ job.messageId)))
    | (.error _, db) => (db, .done (.retryLater "storage error"))
  | .stored info =>
    match db.txCreate (inboundTx job.sender job.recipient job.amount job.messageId) job.now with
    | (.ok tx, db) => (db, .created info tx)
    | (.error _, db) => (db, .done (.accepted job.messageId))
  | .created info tx =>
    (db.txLinkMessage tx.id info.id job.now, .done (.accepted job.messageId))
  | .done outcome => (db, .done outcome)

/-- The next section of a thread. -/
def Thread.step (db : Db) (thread : Thread) : Db × Thread :=
  ((thread.job.next db thread.phase).1,
    { thread with phase := (thread.job.next db thread.phase).2 })

/-- What an IMAP session does meanwhile: `set_flags_in`. -/
structure FlagChange where
  /-- The user. -/
  userId : Nat
  /-- The mailbox. -/
  mailbox : String
  /-- The row id of the message. -/
  messageId : Nat
  /-- The flags. -/
  mask : UInt32
  /-- Set or cleared. -/
  value : Bool
  deriving DecidableEq

/-- The tables after a change of flags. -/
def FlagChange.apply (db : Db) (change : FlagChange) : Db :=
  (db.setFlagsIn change.userId change.mailbox change.messageId change.mask change.value).2

/-- The deliveries before any section. -/
def pending (db : Db) (jobs : List Job) : Pool Db Thread :=
  ⟨db, jobs.map fun job => ⟨job, .start⟩⟩

/-- The store and the deliveries after events. -/
def runJobs (db : Db) (jobs : List Job) (events : List (Event FlagChange)) : Pool Db Thread :=
  Transition.run (Pool.take Thread.step FlagChange.apply) (pending db jobs) events

end Talk.Daemon
