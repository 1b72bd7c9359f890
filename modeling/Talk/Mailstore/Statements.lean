import Talk.Lib.Script
import Talk.Mailstore.Sqlite

/-!
# The statements of the store's larger functions

The functions of the mail store that run several SQL statements, statement by statement, on one
connection. A choice says which statements fail: one that fails leaves the tables as they were,
and so does one that violates a constraint of the schema. Outside of `BEGIN` and `COMMIT` each
statement is its own transaction, so nothing undoes the ones before it.
-/

namespace Talk.Mailstore

open Script Table

/-- The statements, each at one place of one function. -/
inductive SqlStatement where
  /-- `create_user_full`: the user. -/
  | insertUser
  /-- `create_user_full`: the IVK commitment. -/
  | setIvkCommitment
  /-- `create_user_full`: the registration attestation. -/
  | setRegistrationAttestation
  /-- `create_user_full`: the INBOX. -/
  | insertInbox
  /-- `create_user_full`: the Sent mailbox. -/
  | insertSent
  /-- `append_message_to`: the mailbox. -/
  | selectMailbox
  /-- `append_message_to`: the number of messages with the id. -/
  | countMessages
  /-- `append_message_to`: the message. -/
  | insertMessage
  /-- `append_message_to`: the counter. -/
  | incrementUidnext
  /-- `delete_user`: the user. -/
  | selectUser
  /-- `delete_user`: `BEGIN`. -/
  | beginTransaction
  /-- `delete_user`: the keyring. -/
  | deleteKeyring
  /-- `delete_user`: the shares. -/
  | deleteShares
  /-- `delete_user`: the transactions. -/
  | deleteTransactions
  /-- `delete_user`: the messages. -/
  | deleteMessages
  /-- `delete_user`: the mailboxes. -/
  | deleteMailboxes
  /-- `delete_user`: the user. -/
  | deleteUser
  /-- `delete_user`: `COMMIT`. -/
  | commit
  /-- `delete_user`: `ROLLBACK`. -/
  | rollback
  deriving DecidableEq

/-- The connection. -/
structure Connection where
  /-- The tables as the connection sees them. -/
  tables : Db
  /-- In an open transaction, the tables at its `BEGIN`. -/
  saved : Option Db
  deriving DecidableEq

namespace Connection

/-! ## Creating a user -/

/-- Change the user with an id. -/
def updateUser (userId : Nat) (change : UserRow → UserRow) (db : Db) : Db :=
  { db with users := update (fun row => decide (row.id = userId)) change db.users }

/-- `INSERT INTO users`. The name is unique. -/
def insertUser (username passwordHash : String) (masterPubkey : List UInt8) (now : Int64) :
    Statement Db := fun db =>
  if db.users.any (·.username == username) then none
  else some { db with users := db.users ++ [⟨nextId UserRow.id db.users, username, passwordHash,
    masterPubkey, now, none, none⟩] }

/-- `INSERT INTO mailboxes`. A user has one mailbox of a name, and a mailbox references its
user. -/
def insertMailbox (userId : Nat) (name : String) (uidvalidity : UInt32) : Statement Db := fun db =>
  if db.mailboxes.any (fun box => decide ((box.userId, box.name) = (userId, name))) then none
  else if db.users.any (fun row => decide (row.id = userId)) then
    some (db.insertMailbox userId name uidvalidity)
  else none

/-- The statements of `create_user_full` after the first. -/
def furnishUser (userId : Nat) (ivkCommitment registrationAttestation : Option String)
    (uidvalidity : UInt32) : List (SqlStatement × Statement Db) :=
  (match ivkCommitment with
    | none => []
    | some ivk => [(.setIvkCommitment, fun db =>
        some (updateUser userId (fun row => { row with ivkCommitment := some ivk }) db))]) ++
  (match registrationAttestation with
    | none => []
    | some attestation => [(.setRegistrationAttestation, fun db =>
        some (updateUser userId
          (fun row => { row with registrationAttestation := some attestation }) db))]) ++
  [(.insertInbox, insertMailbox userId inbox uidvalidity),
    (.insertSent, insertMailbox userId sent uidvalidity)]

/-- `create_user_full`. -/
def createUserFull (fails : SqlStatement → Bool) (connection : Connection)
    (username passwordHash : String) (masterPubkey : List UInt8)
    (ivkCommitment registrationAttestation : Option String) (now : Int64) :
    Except StoreError User × Connection :=
  let userId := nextId UserRow.id connection.tables.users
  let script := (.insertUser, insertUser username passwordHash masterPubkey now) ::
    furnishUser userId ivkCommitment registrationAttestation now.toUInt64.toUInt32
  match execute fails script connection.tables with
  | (false, tables) => (.error .storage, { connection with tables := tables })
  | (true, tables) =>
    (.ok ⟨userId, username, masterPubkey, ivkCommitment, registrationAttestation⟩,
      { connection with tables := tables })

/-! ## Appending a message -/

/-- `INSERT INTO messages`. A mailbox has one message of an id, and a message references its
mailbox. -/
def insertMessage (handle : Db.Handle) (msg : NewMessage) (now : Int64) : Statement Db := fun db =>
  if db.holds handle.id msg.messageId then none
  else if db.mailboxes.any (fun box => decide (box.id = handle.id)) then
    some { db with messages := db.messages ++ [db.newRow handle msg now] }
  else none

/-- `UPDATE mailboxes`. -/
def incrementUidnext (mailboxId : Nat) : Statement Db := fun db =>
  some { db with
    mailboxes := update (fun box => decide (box.id = mailboxId))
      (fun box => { box with uidnext := box.uidnext + 1 }) db.mailboxes }

/-- The statements of `append_message_to` that write. -/
def storeMessage (handle : Db.Handle) (msg : NewMessage) (now : Int64) :
    List (SqlStatement × Statement Db) :=
  [(.insertMessage, insertMessage handle msg now),
    (.incrementUidnext, incrementUidnext handle.id)]

/-- `append_message_to`. -/
def appendMessageTo (fails : SqlStatement → Bool) (connection : Connection) (userId : Nat)
    (mailbox : String) (msg : NewMessage) (now : Int64) :
    Except StoreError MessageMeta × Connection :=
  if fails .selectMailbox then (.error .storage, connection)
  else match connection.tables.mailboxNamed userId mailbox with
  | .error error => (.error error, connection)
  | .ok handle =>
    if fails .countMessages then (.error .storage, connection)
    else if connection.tables.holds handle.id msg.messageId then
      (.error (.duplicateMessage msg.messageId), connection)
    else match execute fails (storeMessage handle msg now) connection.tables with
    | (false, tables) => (.error .storage, { connection with tables := tables })
    | (true, tables) =>
      (.ok (connection.tables.insertedMeta handle msg now), { connection with tables := tables })

/-! ## Deleting a user -/

/-- `BEGIN`, which needs that no transaction is open. -/
def beginTransaction (fails : SqlStatement → Bool) (connection : Connection) : Option Connection :=
  if fails .beginTransaction then none
  else match connection.saved with
  | some _ => none
  | none => some { connection with saved := some connection.tables }

/-- `COMMIT`, which needs an open transaction. -/
def commit (fails : SqlStatement → Bool) (connection : Connection) : Option Connection :=
  if fails .commit then none
  else match connection.saved with
  | none => none
  | some _ => some { connection with saved := none }

/-- `ROLLBACK`, which needs an open transaction. -/
def rollback (fails : SqlStatement → Bool) (connection : Connection) : Option Connection :=
  if fails .rollback then none
  else match connection.saved with
  | none => none
  | some before => some ⟨before, none⟩

/-- The statements between `BEGIN` and `COMMIT`. The rows that reference a row are deleted before
it, so none violates a constraint. -/
def deleteRows (userId : Nat) (username : String) : List (SqlStatement × Statement Db) :=
  [(.deleteKeyring, fun db => some (db.deleteKeyring userId)),
    (.deleteShares, fun db => some (db.deleteShares userId)),
    (.deleteTransactions, fun db => some (db.deleteTransactions userId username)),
    (.deleteMessages, fun db => some (db.deleteMessages userId)),
    (.deleteMailboxes, fun db => some (db.deleteMailboxes userId)),
    (.deleteUser, fun db => some (db.deleteUserRow userId))]

/-- `delete_user`. The result of `ROLLBACK` is dropped, and a `COMMIT` that fails is not rolled
back. -/
def deleteUser (fails : SqlStatement → Bool) (connection : Connection) (username : String) :
    Except StoreError Unit × Connection :=
  if fails .selectUser then (.error .storage, connection)
  else match connection.tables.getUser username with
  | none => (.error (.userNotFound username), connection)
  | some user =>
    match connection.beginTransaction fails with
    | none => (.error .storage, connection)
    | some opened =>
      match execute fails (deleteRows user.id user.username) opened.tables with
      | (true, tables) =>
        match commit fails { opened with tables := tables } with
        | some committed => (.ok (), committed)
        | none => (.error .storage, { opened with tables := tables })
      | (false, tables) =>
        (.error .storage,
          (rollback fails { opened with tables := tables }).getD { opened with tables := tables })

end Connection

end Talk.Mailstore
