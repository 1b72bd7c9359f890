import Talk.Lib.Program
import Talk.Mailstore.Sqlite

/-!
# The sections of the mail store

The store is one connection behind a lock. A function of the store takes the lock once or, when it
names a mailbox, twice: what other threads do comes between the two sections.
-/

namespace Talk.Mailstore

open Table

/-- What a function of the store does under the lock, for an IMAP session. -/
inductive Section where
  /-- `get_user`. -/
  | getUser (username : String)
  /-- `password_hash`. -/
  | passwordHash (username : String)
  /-- `get_shares`. -/
  | getShares (userId : Nat)
  /-- `mailbox_named`. -/
  | mailboxNamed (userId : Nat) (name : String)
  /-- The query of `list_messages_in`. -/
  | listRows (handle : Db.Handle)
  /-- The query of `fetch_message_in`. -/
  | fetchRow (handle : Db.Handle) (messageId : Nat)
  /-- The update of `set_flags_in`. -/
  | changeRow (handle : Db.Handle) (messageId : Nat) (mask : UInt32) (value : Bool)
  /-- The query and the deletion of `expunge_in`. -/
  | expungeRows (handle : Db.Handle)
  deriving DecidableEq

/-- What a section returns. -/
def Section.Answer : Section → Type
  | .getUser _ => Option User
  | .passwordHash _ => Option String
  | .getShares _ => List (String × List UInt8)
  | .mailboxNamed _ _ => Except StoreError Db.Handle
  | .listRows _ => List MessageMeta
  | .fetchRow _ _ => Except StoreError Message
  | .changeRow _ _ _ _ => Unit
  | .expungeRows _ => List UInt32

namespace Db

/-- The messages of a mailbox, newest first. -/
def listRows (db : Db) (handle : Handle) : List MessageMeta :=
  ((leftJoin linked (db.rowsIn handle.id) db.transactions).insertionSort newer).map
    (rowToMeta handle.uidvalidity)

/-- A message of a mailbox. -/
def fetchRow (db : Db) (handle : Handle) (messageId : Nat) : Except StoreError Message :=
  match leftJoin linked ((db.rowsIn handle.id).filter fun row => decide (row.id = messageId))
      db.transactions with
  | [] => .error .messageNotFound
  | joined :: _ => .ok ⟨rowToMeta handle.uidvalidity joined, joined.1.body⟩

/-- Flags of a message of a mailbox are set or cleared. -/
def changeRow (db : Db) (handle : Handle) (messageId : Nat) (mask : UInt32) (value : Bool) : Db :=
  let selects := fun row : MessageRow => decide ((row.mailboxId, row.id) = (handle.id, messageId))
  { db with messages := update selects (changeFlags mask value) db.messages }

/-- The messages of a mailbox that are expunged: their UIDs, and the tables without them. -/
def expungeRows (db : Db) (handle : Handle) : List UInt32 × Db :=
  let uids := ((db.messages.filter (expunges handle.id)).map MessageRow.uid).insertionSort (· ≤ ·)
  (uids.map UInt32.ofNat,
    { db with messages := db.messages.filter fun row => !expunges handle.id row })

end Db

/-- The store does a section. -/
def Section.exec : (op : Section) → Db → op.Answer × Db
  | .getUser username, db => (db.getUser username, db)
  | .passwordHash username, db => (db.passwordHash username, db)
  | .getShares userId, db => (db.getShares userId, db)
  | .mailboxNamed userId name, db => (db.mailboxNamed userId name, db)
  | .listRows handle, db => (db.listRows handle, db)
  | .fetchRow handle messageId, db => (db.fetchRow handle messageId, db)
  | .changeRow handle messageId mask value, db => ((), db.changeRow handle messageId mask value)
  | .expungeRows handle, db => db.expungeRows handle

/-- What calls functions of the store. -/
abbrev Sections := Program Section.Answer

namespace Sections

/-- A section. -/
def enter (op : Section) : Sections op.Answer := Program.one op

/-- `get_user`. -/
def getUser (username : String) : Sections (Option User) := enter (.getUser username)

/-- `password_hash`. -/
def passwordHash (username : String) : Sections (Option String) :=
  enter (.passwordHash username)

/-- `get_shares`. -/
def getShares (userId : Nat) : Sections (List (String × List UInt8)) :=
  enter (.getShares userId)

/-- `mailbox_named`. -/
def mailboxNamed (userId : Nat) (name : String) : Sections (Except StoreError Db.Handle) :=
  enter (.mailboxNamed userId name)

/-- The query of `list_messages_in`. -/
def listRows (handle : Db.Handle) : Sections (List MessageMeta) := enter (.listRows handle)

/-- The query of `fetch_message_in`. -/
def fetchRow (messageId : Nat) (handle : Db.Handle) : Sections (Except StoreError Message) :=
  enter (.fetchRow handle messageId)

/-- The update of `set_flags_in`. -/
def changeRow (messageId : Nat) (mask : UInt32) (value : Bool) (handle : Db.Handle) :
    Sections Unit :=
  enter (.changeRow handle messageId mask value)

/-- The query and the deletion of `expunge_in`. -/
def expungeRows (handle : Db.Handle) : Sections (List UInt32) := enter (.expungeRows handle)

/-- Look a mailbox up, and go on with it. -/
def inMailbox {α : Type} (userId : Nat) (mailbox : String) (next : Db.Handle → Sections α) :
    Sections (Except StoreError α) := do
  match ← mailboxNamed userId mailbox with
  | .error error => pure (.error error)
  | .ok handle => .ok <$> next handle

/-- `list_messages_in`. -/
def listMessagesIn (userId : Nat) (mailbox : String) :
    Sections (Except StoreError (List MessageMeta)) :=
  inMailbox userId mailbox listRows

/-- `uidnext_in`. -/
def uidnextIn (userId : Nat) (mailbox : String) : Sections (Except StoreError UInt32) :=
  inMailbox userId mailbox fun handle => pure (UInt32.ofNat handle.uidnext)

/-- `fetch_message_in`. -/
def fetchMessageIn (userId : Nat) (mailbox : String) (messageId : Nat) :
    Sections (Except StoreError Message) := do
  match ← inMailbox userId mailbox (fetchRow messageId) with
  | .error error => pure (.error error)
  | .ok found => pure found

/-- `set_flags_in`. -/
def setFlagsIn (userId : Nat) (mailbox : String) (messageId : Nat) (mask : UInt32) (value : Bool) :
    Sections (Except StoreError Unit) :=
  inMailbox userId mailbox (changeRow messageId mask value)

/-- `expunge_in`. -/
def expungeIn (userId : Nat) (mailbox : String) : Sections (Except StoreError (List UInt32)) :=
  inMailbox userId mailbox expungeRows

end Sections

/-! ## Alone -/

namespace Db

/-- What a program of sections returns and leaves, when nobody else is there. -/
def call {α : Type} (db : Db) (program : Sections α) : α × Db := program.alone Section.exec db

variable {α β : Type} (db : Db)

@[simp] theorem call_pure (value : α) : db.call (pure value) = (value, db) := rfl

@[simp] theorem call_bind (program : Sections α) (more : α → Sections β) :
    db.call (program >>= more) =
      (db.call program).2.call (more (db.call program).1) :=
  Program.alone_bind _ _ _ _

@[simp] theorem call_map (change : α → β) (program : Sections α) :
    db.call (change <$> program) = (change (db.call program).1, (db.call program).2) :=
  Program.alone_map _ _ _ _

@[simp] theorem call_ite (condition : Prop) [Decidable condition] (yes no : Sections α) :
    db.call (if condition then yes else no) =
      if condition then db.call yes else db.call no :=
  Program.alone_ite _ _ _ _ _

@[simp] theorem call_getUser (username : String) :
    db.call (Sections.getUser username) = (db.getUser username, db) := rfl

@[simp] theorem call_passwordHash (username : String) :
    db.call (Sections.passwordHash username) = (db.passwordHash username, db) := rfl

@[simp] theorem call_getShares (userId : Nat) :
    db.call (Sections.getShares userId) = (db.getShares userId, db) := rfl

/-- A mailbox that is looked up is there, or an error is returned. -/
theorem call_inMailbox (userId : Nat) (mailbox : String) (next : Handle → Sections α) :
    db.call (Sections.inMailbox userId mailbox next) =
      match db.mailboxNamed userId mailbox with
      | .error error => (.error error, db)
      | .ok handle => ((.ok (db.call (next handle)).1, (db.call (next handle)).2)) := by
  unfold Sections.inMailbox
  rw [call_bind]
  have named : db.call (Sections.mailboxNamed userId mailbox) =
      (db.mailboxNamed userId mailbox, db) := rfl
  rw [named]
  dsimp only
  cases db.mailboxNamed userId mailbox with
  | error error => rfl
  | ok handle => exact call_map db _ _

@[simp] theorem call_listMessagesIn (userId : Nat) (mailbox : String) :
    db.call (Sections.listMessagesIn userId mailbox) = (db.listMessagesIn userId mailbox, db) := by
  rw [Sections.listMessagesIn, call_inMailbox, listMessagesIn]
  cases db.mailboxNamed userId mailbox with
  | error error => rfl
  | ok handle => rfl

@[simp] theorem call_uidnextIn (userId : Nat) (mailbox : String) :
    db.call (Sections.uidnextIn userId mailbox) = (db.uidnextIn userId mailbox, db) := by
  rw [Sections.uidnextIn, call_inMailbox, uidnextIn]
  cases db.mailboxNamed userId mailbox with
  | error error => rfl
  | ok handle => rfl

@[simp] theorem call_fetchMessageIn (userId : Nat) (mailbox : String) (messageId : Nat) :
    db.call (Sections.fetchMessageIn userId mailbox messageId) =
      (db.fetchMessageIn userId mailbox messageId, db) := by
  rw [Sections.fetchMessageIn, call_bind, call_inMailbox, fetchMessageIn]
  cases db.mailboxNamed userId mailbox with
  | error error => rfl
  | ok handle => rfl

@[simp] theorem call_setFlagsIn (userId : Nat) (mailbox : String) (messageId : Nat)
    (mask : UInt32) (value : Bool) :
    db.call (Sections.setFlagsIn userId mailbox messageId mask value) =
      db.setFlagsIn userId mailbox messageId mask value := by
  rw [Sections.setFlagsIn, call_inMailbox, setFlagsIn]
  cases db.mailboxNamed userId mailbox with
  | error error => rfl
  | ok handle => rfl

@[simp] theorem call_expungeIn (userId : Nat) (mailbox : String) :
    db.call (Sections.expungeIn userId mailbox) = db.expungeIn userId mailbox := by
  rw [Sections.expungeIn, call_inMailbox, expungeIn]
  cases db.mailboxNamed userId mailbox with
  | error error => rfl
  | ok handle => rfl

end Db

end Talk.Mailstore
