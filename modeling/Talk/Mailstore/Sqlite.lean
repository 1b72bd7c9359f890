import Talk.Lib.Like
import Talk.Lib.Table
import Talk.Mailstore.Types

/-!
# The SQLite mail store

The tables and the store's functions over them, each function one or two sections under the
store's lock. A statement that violates a constraint of the schema is refused and changes nothing;
failures of the disk are left out. Row ids come without AUTOINCREMENT: a new row gets the largest
id in use plus one. Each function that reads the clock takes the reading as an argument.
-/

namespace Talk.Mailstore

open Table

/-- The tables. -/
structure Db where
  /-- `users`. -/
  users : List UserRow
  /-- `keyring_entries`. -/
  keyring : List KeyringRow
  /-- `shares`. -/
  shares : List ShareRow
  /-- `mailboxes`. -/
  mailboxes : List MailboxRow
  /-- `messages`. -/
  messages : List MessageRow
  /-- `transactions`. -/
  transactions : List Transaction
  deriving DecidableEq

/-- What a function returns, and the tables it leaves. -/
abbrev Outcome (α : Type) := Except StoreError α × Db

namespace Db

/-- The tables `init_schema` creates. -/
def empty : Db := ⟨[], [], [], [], [], []⟩

/-! ## Users -/

/-- A new mailbox of a user. -/
def insertMailbox (db : Db) (userId : Nat) (name : String) (uidvalidity : UInt32) : Db :=
  { db with mailboxes := db.mailboxes ++
      [⟨nextId MailboxRow.id db.mailboxes, userId, name, uidvalidity, 1⟩] }

/-- `create_user_full`. The user id is new and mailboxes reference their user, so neither mailbox
can exist already. -/
def createUserFull (db : Db) (username passwordHash : String) (masterPubkey : List UInt8)
    (ivkCommitment registrationAttestation : Option String) (now : Int64) : Outcome User :=
  if db.users.any (·.username == username) then (.error .storage, db)
  else
    let userId := nextId UserRow.id db.users
    let uidvalidity := now.toUInt64.toUInt32
    let row : UserRow := ⟨userId, username, passwordHash, masterPubkey, now, ivkCommitment,
      registrationAttestation⟩
    let db := { db with users := db.users ++ [row] }
    let db := db.insertMailbox userId inbox uidvalidity
    let db := db.insertMailbox userId sent uidvalidity
    (.ok ⟨userId, username, masterPubkey, ivkCommitment, registrationAttestation⟩, db)

/-- `get_user`. -/
def getUser (db : Db) (username : String) : Option User :=
  (db.users.find? fun row => decide (row.username = username)).map fun row =>
    ⟨row.id, row.username, row.masterPubkey, row.ivkCommitment, row.registrationAttestation⟩

/-- `password_hash`. -/
def passwordHash (db : Db) (username : String) : Option String :=
  (db.users.find? fun row => decide (row.username = username)).map UserRow.passwordHash

/-- Change the row of a user, if there is one. -/
def updateUser (db : Db) (username : String) (change : UserRow → UserRow) : Outcome Unit :=
  let selects := fun row : UserRow => decide (row.username = username)
  if db.users.any selects then (.ok (), { db with users := update selects change db.users })
  else (.error (.userNotFound username), db)

/-- `set_password`. -/
def setPassword (db : Db) (username passwordHash : String) : Outcome Unit :=
  db.updateUser username fun row => { row with passwordHash := passwordHash }

/-- `set_ivk`. -/
def setIvk (db : Db) (username : String) (ivkCommitment : Option String) : Outcome Unit :=
  db.updateUser username fun row => { row with ivkCommitment := ivkCommitment }

/-- The (user, share id) pair of a share. -/
def shareKey (row : ShareRow) : Nat × String := (row.userId, row.shareId)

/-- `add_share`: the pair is new, and references its user. -/
def addShare (db : Db) (userId : Nat) (shareId : String) (wrappedDk : List UInt8) : Outcome Unit :=
  if db.shares.any (fun row => decide (shareKey row = (userId, shareId))) then (.error .storage, db)
  else if db.users.any (fun user => decide (user.id = userId)) then
    (.ok (), { db with shares := db.shares ++ [⟨userId, shareId, wrappedDk, false⟩] })
  else (.error .storage, db)

/-- `revoke_share`. -/
def revokeShare (db : Db) (userId : Nat) (shareId : String) : Outcome Unit :=
  let selects := fun row : ShareRow => decide (shareKey row = (userId, shareId))
  if db.shares.any selects then
    (.ok (), { db with
      shares := update selects (fun row => { row with revoked := true }) db.shares })
  else (.error (.userNotFound shareId), db)

/-- `get_shares`: the shares of a user that are not revoked. -/
def getShares (db : Db) (userId : Nat) : List (String × List UInt8) :=
  (db.shares.filter fun row => decide (row.userId = userId) && !row.revoked).map fun row =>
    (row.shareId, row.wrappedDk)

/-- `list_shares`, in the order of their ids. -/
def listShares (db : Db) (userId : Nat) : List ShareEntry :=
  ((db.shares.filter fun row => decide (row.userId = userId)).insertionSort
    fun left right => left.shareId ≤ right.shareId).map fun row =>
      ⟨row.shareId, row.wrappedDk, row.revoked⟩

/-- The mailboxes of a user. -/
def mailboxIdsOf (db : Db) (userId : Nat) : List Nat :=
  (db.mailboxes.filter fun box => decide (box.userId = userId)).map MailboxRow.id

/-- The message rows of a user. -/
def rowIdsOf (db : Db) (userId : Nat) : List Nat :=
  (db.messages.filter fun row => decide (row.mailboxId ∈ db.mailboxIdsOf userId)).map MessageRow.id

/-- The transactions that are deleted with a user: those linked to one of its messages, and those
whose sender is LIKE its name, an `@` and anything. -/
def txOf (db : Db) (userId : Nat) (username : String) (tx : Transaction) : Bool :=
  (match tx.messageRowId with
    | none => false
    | some rowId => decide (rowId ∈ db.rowIdsOf userId)) ||
    Like.like tx.senderMailbox (username ++ "@%")

/-- `DELETE FROM keyring_entries`. -/
def deleteKeyring (db : Db) (userId : Nat) : Db :=
  { db with keyring := db.keyring.filter fun row => decide (row.userId ≠ userId) }

/-- `DELETE FROM shares`. -/
def deleteShares (db : Db) (userId : Nat) : Db :=
  { db with shares := db.shares.filter fun row => decide (row.userId ≠ userId) }

/-- `DELETE FROM transactions`. -/
def deleteTransactions (db : Db) (userId : Nat) (username : String) : Db :=
  { db with transactions := db.transactions.filter fun tx => !db.txOf userId username tx }

/-- `DELETE FROM messages`. -/
def deleteMessages (db : Db) (userId : Nat) : Db :=
  { db with
    messages := db.messages.filter fun row => decide (row.mailboxId ∉ db.mailboxIdsOf userId) }

/-- `DELETE FROM mailboxes`. -/
def deleteMailboxes (db : Db) (userId : Nat) : Db :=
  { db with mailboxes := db.mailboxes.filter fun box => decide (box.userId ≠ userId) }

/-- `DELETE FROM users`. -/
def deleteUserRow (db : Db) (userId : Nat) : Db :=
  { db with users := db.users.filter fun row => decide (row.id ≠ userId) }

/-- `delete_user`. The rows that reference a row are deleted before it, so no statement is
refused. -/
def deleteUser (db : Db) (username : String) : Outcome Unit :=
  match db.getUser username with
  | none => (.error (.userNotFound username), db)
  | some user =>
    let db := db.deleteKeyring user.id
    let db := db.deleteShares user.id
    let db := db.deleteTransactions user.id user.username
    let db := db.deleteMessages user.id
    let db := db.deleteMailboxes user.id
    (.ok (), db.deleteUserRow user.id)

/-- `keyring_sender_key`. -/
def keyringSenderKey (db : Db) (userId : Nat) (senderMailbox : String) : Option String :=
  (db.keyring.find? fun row =>
    row.userId == userId && row.senderMailbox == senderMailbox && row.state == "trusted").map
      KeyringRow.senderPubkey

/-- The (user, sender) pair of a pin. -/
def pinKey (row : KeyringRow) : Nat × String := (row.userId, row.senderMailbox)

/-- `keyring_set_trusted`: a pin that exists is updated, a new one references its user. -/
def keyringSetTrusted (db : Db) (userId : Nat) (senderMailbox senderPubkey : String)
    (attestation : List UInt8) (now : Int64) : Outcome Unit :=
  let selects := fun row : KeyringRow => decide (pinKey row = (userId, senderMailbox))
  if db.keyring.any selects then
    (.ok (), { db with
      keyring := update selects (fun row => { row with
        senderPubkey := senderPubkey, attestation := attestation,
        state := "trusted" }) db.keyring })
  else if db.users.any (fun user => decide (user.id = userId)) then
    (.ok (), { db with
      keyring := db.keyring ++
        [⟨userId, senderMailbox, senderPubkey, attestation, "trusted", now⟩] })
  else (.error .storage, db)

/-- `list_keyring`, in the order in which the senders were first pinned. -/
def listKeyring (db : Db) (userId : Nat) : List KeyringEntry :=
  ((db.keyring.filter fun row => decide (row.userId = userId)).insertionSort
    fun left right => left.firstSeen ≤ right.firstSeen).map fun row =>
      ⟨row.senderMailbox, row.senderPubkey, row.state, row.firstSeen⟩

/-- `unpin_keyring`. -/
def unpinKeyring (db : Db) (userId : Nat) (senderMailbox : String) : Outcome Unit :=
  let selects := fun row : KeyringRow => decide (pinKey row = (userId, senderMailbox))
  if db.keyring.any selects then
    (.ok (), { db with keyring := db.keyring.filter fun row => !selects row })
  else (.error (.userNotFound senderMailbox), db)

/-! ## The ledger -/

/-- The (direction, message id) pair of a transaction. -/
def txKey (tx : Transaction) : TxDirection × String := (tx.direction, tx.messageId)

/-- The row a new transaction is stored as, linked to no message. -/
def newTx (db : Db) (new : NewTransaction) (now : Int64) : Transaction :=
  ⟨nextId Transaction.id db.transactions, new.direction, new.state, new.senderMailbox,
    new.recipientMailbox, new.amount, new.binding, new.messageId, none, new.outboundBody,
    new.payload, now, now⟩

/-- `tx_create`. -/
def txCreate (db : Db) (new : NewTransaction) (now : Int64) : Outcome Transaction :=
  if db.transactions.any (fun tx => decide (txKey tx = (new.direction, new.messageId))) then
    (.error .storage, db)
  else
    (.ok (db.newTx new now), { db with transactions := db.transactions ++ [db.newTx new now] })

/-- Change the transaction with an id. -/
def txUpdate (db : Db) (id : Nat) (change : Transaction → Transaction) : Db :=
  { db with transactions := update (fun tx => decide (tx.id = id)) change db.transactions }

/-- `tx_link_message`. -/
def txLinkMessage (db : Db) (txId messageRowId : Nat) (now : Int64) : Db :=
  db.txUpdate txId fun tx => { tx with messageRowId := some messageRowId, updatedAt := now }

/-- `tx_get`. -/
def txGet (db : Db) (id : Nat) : Option Transaction :=
  db.transactions.find? fun tx => decide (tx.id = id)

/-- `tx_by_message_id`. -/
def txByMessageId (db : Db) (direction : TxDirection) (messageId : String) : Option Transaction :=
  db.transactions.find? fun tx => decide (txKey tx = (direction, messageId))

/-- An update that has to find its row. -/
def txUpdateFound (db : Db) (id : Nat) (change : Transaction → Transaction) : Outcome Unit :=
  if db.transactions.any (fun tx => decide (tx.id = id)) then (.ok (), db.txUpdate id change)
  else (.error (.userNotFound (toString id)), db)

/-- `tx_transition`. -/
def txTransition (db : Db) (id : Nat) (state : TxState) (now : Int64) : Outcome Unit :=
  db.txUpdateFound id fun tx => { tx with state := state, updatedAt := now }

/-- `tx_set_binding`. -/
def txSetBinding (db : Db) (id : Nat) (binding : Option String) (now : Int64) : Outcome Unit :=
  db.txUpdateFound id fun tx => { tx with binding := binding, updatedAt := now }

/-! ## Messages -/

/-- What `mailbox_named` reads. -/
structure Handle where
  /-- The mailbox. -/
  id : Nat
  /-- The validity of the UIDs. -/
  uidvalidity : UInt32
  /-- The next UID, when it was read. -/
  uidnext : Nat
  deriving DecidableEq

/-- `mailbox_named`. -/
def mailboxNamed (db : Db) (userId : Nat) (name : String) : Except StoreError Handle :=
  match db.mailboxes.find? fun box => decide ((box.userId, box.name) = (userId, name)) with
  | none => .error .mailboxNotFound
  | some box => .ok ⟨box.id, box.uidvalidity, box.uidnext⟩

/-- The row a message is stored as. -/
def newRow (db : Db) (handle : Handle) (msg : NewMessage) (now : Int64) : MessageRow :=
  ⟨nextId MessageRow.id db.messages, handle.id, msg.messageId, handle.uidnext, now, msg.flags,
    msg.subject, msg.body.length, msg.body, msg.sender, msg.trustState⟩

/-- The mailbox holds the message id. -/
def holds (db : Db) (mailboxId : Nat) (messageId : String) : Bool :=
  db.messages.any fun row => decide ((row.mailboxId, row.messageId) = (mailboxId, messageId))

/-- The tables with the message stored and the counter incremented. -/
def inserted (db : Db) (handle : Handle) (msg : NewMessage) (now : Int64) : Db :=
  { db with
    messages := db.messages ++ [db.newRow handle msg now]
    mailboxes := update (fun box => decide (box.id = handle.id))
      (fun box => { box with uidnext := box.uidnext + 1 }) db.mailboxes }

/-- What is returned for a stored message. -/
def insertedMeta (db : Db) (handle : Handle) (msg : NewMessage) (now : Int64) : MessageMeta :=
  ⟨nextId MessageRow.id db.messages, msg.messageId, UInt32.ofNat handle.uidnext,
    handle.uidvalidity, now, msg.flags, msg.subject, msg.body.length, msg.sender, msg.trustState,
    none, none⟩

/-- The second section of `append_message_to`: with what the first one has read, insert the message
and increment the counter. The UID is the one that was read. -/
def insertMessage (db : Db) (handle : Handle) (msg : NewMessage) (now : Int64) :
    Outcome MessageMeta :=
  if db.holds handle.id msg.messageId then (.error (.duplicateMessage msg.messageId), db)
  else if db.mailboxes.any (fun box => decide (box.id = handle.id)) = false then
    -- The mailbox is gone: the row would reference nothing.
    (.error .storage, db)
  else (.ok (db.insertedMeta handle msg now), db.inserted handle msg now)

/-- `append_message_to`. -/
def appendMessageTo (db : Db) (userId : Nat) (mailbox : String) (msg : NewMessage) (now : Int64) :
    Outcome MessageMeta :=
  match db.mailboxNamed userId mailbox with
  | .error error => (.error error, db)
  | .ok handle => db.insertMessage handle msg now

/-- `append_message`. -/
def appendMessage (db : Db) (userId : Nat) (msg : NewMessage) (now : Int64) :
    Outcome MessageMeta :=
  db.appendMessageTo userId inbox msg now

/-- `row_to_meta`. -/
def rowToMeta (uidvalidity : UInt32) (joined : MessageRow × Option Transaction) : MessageMeta :=
  ⟨joined.1.id, joined.1.messageId, UInt32.ofNat joined.1.uid, uidvalidity, joined.1.internaldate,
    joined.1.flags, joined.1.subject, joined.1.size, joined.1.sender, joined.1.trustState,
    joined.2.map fun tx => tx.state.word, joined.2.map Transaction.id⟩

/-- A transaction points at a message row. -/
def linked (row : MessageRow) (tx : Transaction) : Bool := tx.messageRowId == some row.id

/-- Newest first. -/
def newer (left right : MessageRow × Option Transaction) : Prop := right.1.uid ≤ left.1.uid

instance : DecidableRel newer := fun _ _ => inferInstanceAs (Decidable (_ ≤ _))

/-- The rows of a mailbox. -/
def rowsIn (db : Db) (mailboxId : Nat) : List MessageRow :=
  db.messages.filter fun row => decide (row.mailboxId = mailboxId)

/-- `list_messages_in`. -/
def listMessagesIn (db : Db) (userId : Nat) (mailbox : String) :
    Except StoreError (List MessageMeta) :=
  match db.mailboxNamed userId mailbox with
  | .error error => .error error
  | .ok handle => .ok (((leftJoin linked (db.rowsIn handle.id) db.transactions).insertionSort
      newer).map (rowToMeta handle.uidvalidity))

/-- `uidnext_in`. -/
def uidnextIn (db : Db) (userId : Nat) (mailbox : String) : Except StoreError UInt32 :=
  match db.mailboxNamed userId mailbox with
  | .error error => .error error
  | .ok handle => .ok (UInt32.ofNat handle.uidnext)

/-- `fetch_message_in`: the first row the query finds. -/
def fetchMessageIn (db : Db) (userId : Nat) (mailbox : String) (messageId : Nat) :
    Except StoreError Message :=
  match db.mailboxNamed userId mailbox with
  | .error error => .error error
  | .ok handle =>
    match leftJoin linked ((db.rowsIn handle.id).filter fun row => decide (row.id = messageId))
        db.transactions with
    | [] => .error .messageNotFound
    | joined :: _ => .ok ⟨rowToMeta handle.uidvalidity joined, joined.1.body⟩

/-- Set or clear flags of a message. -/
def changeFlags (mask : UInt32) (value : Bool) (row : MessageRow) : MessageRow :=
  { row with flags := ⟨if value then row.flags.bits ||| mask else row.flags.bits &&& ~~~mask⟩ }

/-- `set_flags_in`. -/
def setFlagsIn (db : Db) (userId : Nat) (mailbox : String) (messageId : Nat) (mask : UInt32)
    (value : Bool) : Outcome Unit :=
  match db.mailboxNamed userId mailbox with
  | .error error => (.error error, db)
  | .ok handle =>
    let selects := fun row : MessageRow => decide ((row.mailboxId, row.id) = (handle.id, messageId))
    (.ok (), { db with messages := update selects (changeFlags mask value) db.messages })

/-- A message that an expunge of a mailbox deletes. -/
def expunges (mailboxId : Nat) (row : MessageRow) : Bool :=
  decide (row.mailboxId = mailboxId) && row.flags.contains MessageFlags.deleted

/-- `expunge_in`: the UIDs of the deleted messages, in order. -/
def expungeIn (db : Db) (userId : Nat) (mailbox : String) : Outcome (List UInt32) :=
  match db.mailboxNamed userId mailbox with
  | .error error => (.error error, db)
  | .ok handle =>
    let uids := ((db.messages.filter (expunges handle.id)).map MessageRow.uid).insertionSort (· ≤ ·)
    (.ok (uids.map UInt32.ofNat),
      { db with messages := db.messages.filter fun row => !expunges handle.id row })

end Db

end Talk.Mailstore
