import Talk.Lib.Journal
import Talk.Mailstore.Sqlite

/-!
# What a mailbox is for

A mailbox without tables: a journal of messages, each under its UID, and the validity of the UIDs.
It is opened with its user, goes with it, and in between takes appends, flag changes and expunges;
what the store's functions return is read off it. Of the other tables it knows the row ids of its
messages, and the ledger when it is listed.
-/

namespace Talk.Verif

open Mailstore Table

/-- A message, as its mailbox keeps it. -/
structure Entry where
  /-- The row id. -/
  rowId : Nat
  /-- The ZSMTP message id. -/
  messageId : String
  /-- When the message arrived. -/
  internaldate : Int64
  /-- The flags. -/
  flags : MessageFlags
  /-- The subject. -/
  subject : String
  /-- The body. -/
  body : List UInt8
  /-- The sender, or the recipient of a sent copy. -/
  sender : String
  /-- The trust state of the sender. -/
  trustState : String
  deriving DecidableEq

/-- The entry of a new message. -/
def Entry.new (rowId : Nat) (msg : NewMessage) (now : Int64) : Entry :=
  ⟨rowId, msg.messageId, now, msg.flags, msg.subject, msg.body, msg.sender, msg.trustState⟩

/-- The entry with flags set or cleared. -/
def Entry.flagged (entry : Entry) (mask : UInt32) (value : Bool) : Entry :=
  { entry with flags := if value then entry.flags.insert mask else entry.flags.remove mask }

/-- Two entries are one message: they differ in the flags only. -/
def Entry.SameMessage (left right : Entry) : Prop := right = { left with flags := right.flags }

/-- An entry is one message with itself. -/
theorem Entry.SameMessage.refl (entry : Entry) : entry.SameMessage entry := rfl

/-- What is one message with a message that is one with another is one with this. -/
theorem Entry.SameMessage.trans {first second third : Entry} (left : first.SameMessage second)
    (right : second.SameMessage third) : first.SameMessage third := by
  rw [SameMessage] at left right ⊢
  rw [right, left]

/-- A mailbox. -/
@[ext] structure Mailbox where
  /-- The validity of the UIDs. -/
  uidvalidity : UInt32
  /-- The messages under their UIDs. -/
  journal : Journal Entry

namespace Mailbox

/-- A new mailbox. -/
def opened (uidvalidity : UInt32) : Mailbox := ⟨uidvalidity, .fresh 1⟩

/-- The mailbox has a message with the message id. -/
def holds (box : Mailbox) (messageId : String) : Bool :=
  box.journal.entries.any fun entry => decide (entry.2.messageId = messageId)

/-- What is done to a mailbox. -/
inductive Action where
  /-- A message is appended, as the row with an id. -/
  | append (rowId : Nat) (msg : NewMessage) (now : Int64)
  /-- Flags of a message are set or cleared. -/
  | setFlags (rowId : Nat) (mask : UInt32) (value : Bool)
  /-- Messages flagged as deleted are expunged. -/
  | expunge
  deriving DecidableEq

/-- The mailbox after it. -/
def act (box : Mailbox) : Action → Mailbox
  | .append rowId msg now =>
    if box.holds msg.messageId then box
    else { box with journal := box.journal.append (.new rowId msg now) }
  | .setFlags rowId mask value =>
    { box with journal := box.journal.revise fun entry =>
        if entry.rowId = rowId then entry.flagged mask value else entry }
  | .expunge =>
    { box with journal := box.journal.discard fun entry =>
        !entry.flags.contains MessageFlags.deleted }

/-- What an append returns. -/
def appendAnswer (box : Mailbox) (rowId : Nat) (msg : NewMessage) (now : Int64) :
    Except StoreError MessageMeta :=
  if box.holds msg.messageId then .error (.duplicateMessage msg.messageId)
  else .ok ⟨rowId, msg.messageId, UInt32.ofNat box.journal.next, box.uidvalidity, now, msg.flags,
    msg.subject, msg.body.length, msg.sender, msg.trustState, none, none⟩

/-- What an expunge returns. -/
def expungeAnswer (box : Mailbox) : List UInt32 :=
  (box.journal.entries.filter fun entry => entry.2.flags.contains MessageFlags.deleted).map
    fun entry => UInt32.ofNat entry.1

/-- The next UID, as it is returned. -/
def uidnextAnswer (box : Mailbox) : UInt32 := UInt32.ofNat box.journal.next

/-- The transactions of a ledger that point at a row, or none. -/
def statuses (ledger : List Transaction) (rowId : Nat) : List (Option Transaction) :=
  match ledger.filter fun tx => tx.messageRowId == some rowId with
  | [] => [none]
  | found => found.map some

/-- How an entry is listed with a transaction. -/
def info (box : Mailbox) (entry : Nat × Entry) (tx : Option Transaction) : MessageMeta :=
  ⟨entry.2.rowId, entry.2.messageId, UInt32.ofNat entry.1, box.uidvalidity, entry.2.internaldate,
    entry.2.flags, entry.2.subject, entry.2.body.length, entry.2.sender, entry.2.trustState,
    tx.map fun tx => tx.state.word, tx.map Transaction.id⟩

/-- How an entry is listed with a ledger: once for each transaction that points at it. -/
def listed (box : Mailbox) (ledger : List Transaction) (entry : Nat × Entry) : List MessageMeta :=
  (statuses ledger entry.2.rowId).map (box.info entry)

/-- The listing, newest first. -/
def listing (box : Mailbox) (ledger : List Transaction) : List MessageMeta :=
  box.journal.entries.reverse.flatMap (box.listed ledger)

/-- What fetching a message by its row id returns. -/
def fetched (box : Mailbox) (ledger : List Transaction) (rowId : Nat) : Except StoreError Message :=
  match box.journal.entries.find? fun entry => decide (entry.2.rowId = rowId) with
  | none => .error .messageNotFound
  | some entry => .ok ⟨box.info entry ((statuses ledger rowId).headD none), entry.2.body⟩

end Mailbox

/-! ## A place for a mailbox -/

/-- What happens at a place for a mailbox. -/
inductive PlaceEvent where
  /-- A mailbox is opened. -/
  | opened (uidvalidity : UInt32)
  /-- The mailbox goes. -/
  | closed
  /-- Something is done to it. -/
  | act (action : Mailbox.Action)
  deriving DecidableEq

/-- What is at the place after it. -/
def PlaceEvent.apply (place : Option Mailbox) : PlaceEvent → Option Mailbox
  | .opened uidvalidity => some (.opened uidvalidity)
  | .closed => none
  | .act action => place.map fun box => box.act action

end Talk.Verif
