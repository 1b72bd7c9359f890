import Mathlib.Logic.Relation
import Talk.Daemon.Secure
import Talk.Lib.Transition

/-!
# What a store operation can do

Every operation on the store is a chain of a few changes to single tables. Each change is listed
once, with what the operation has checked before it, and the keys of the tables stay unique under
each of them. So they are unique in every state that operations on an empty store can reach.
-/

namespace Talk.Verif.StoreSteps

open Mailstore Table Daemon Protocol

/-! ## Changes -/

/-- A change to a transaction that leaves its id and its key. -/
structure KeepsTxKey (change : Transaction → Transaction) : Prop where
  /-- The id stays. -/
  id : ∀ tx, (change tx).id = tx.id
  /-- The direction and the message id stay. -/
  key : ∀ tx, Db.txKey (change tx) = Db.txKey tx

/-- One change to the tables. -/
inductive Change (db : Db) : Db → Prop where
  /-- A new user, with a new name. -/
  | user (row : UserRow) (id : row.id = nextId UserRow.id db.users)
    (fresh : ∀ other ∈ db.users, other.username ≠ row.username) :
    Change db { db with users := db.users ++ [row] }
  /-- A new mailbox of a user, with a new name. -/
  | mailbox (userId : Nat) (name : String) (uidvalidity : UInt32)
    (owner : ∃ user ∈ db.users, user.id = userId)
    (fresh : ∀ other ∈ db.mailboxes, (other.userId, other.name) ≠ (userId, name)) :
    Change db (db.insertMailbox userId name uidvalidity)
  /-- A new message, with a new message id in a mailbox as it is. -/
  | message (handle : Db.Handle) (msg : NewMessage) (now : Int64)
    (fresh : db.holds handle.id msg.messageId = false)
    (read : ∃ userId name, db.mailboxNamed userId name = .ok handle) :
    Change db (db.inserted handle msg now)
  /-- A new transaction, with a new key, linked to no message. -/
  | tx (row : Transaction) (id : row.id = nextId Transaction.id db.transactions)
    (fresh : ∀ other ∈ db.transactions, Db.txKey other ≠ Db.txKey row)
    (unlinked : row.messageRowId = none) :
    Change db { db with transactions := db.transactions ++ [row] }
  /-- A transaction changes, but not its key. -/
  | txUpdate (id : Nat) (change : Transaction → Transaction) (keeps : KeepsTxKey change) :
    Change db (db.txUpdate id change)
  /-- Flags change. -/
  | flags (selects : MessageRow → Bool) (mask : UInt32) (value : Bool) :
    Change db { db with messages := update selects (Db.changeFlags mask value) db.messages }
  /-- Messages are deleted. -/
  | delete (keeps : MessageRow → Bool) : Change db { db with messages := db.messages.filter keeps }

/-- A chain of changes. -/
abbrev Changes : Db → Db → Prop := Relation.ReflTransGen Change

/-- Linking a transaction keeps its key. -/
theorem keeps_link (messageRowId : Nat) (now : Int64) :
    KeepsTxKey fun tx => { tx with messageRowId := some messageRowId, updatedAt := now } :=
  ⟨fun _ => rfl, fun _ => rfl⟩

/-- A transition of a transaction keeps its key. -/
theorem keeps_transition (state : TxState) (now : Int64) :
    KeepsTxKey fun tx => { tx with state := state, updatedAt := now } :=
  ⟨fun _ => rfl, fun _ => rfl⟩

/-! ## Appending a message -/

/-- The three ways the second section of an append ends. -/
theorem insertMessage_cases (db : Db) (handle : Db.Handle) (msg : NewMessage) (now : Int64) :
    (db.holds handle.id msg.messageId = true ∧
      db.insertMessage handle msg now = (.error (.duplicateMessage msg.messageId), db)) ∨
    (db.holds handle.id msg.messageId = false ∧ (¬∃ box ∈ db.mailboxes, box.id = handle.id) ∧
      db.insertMessage handle msg now = (.error .storage, db)) ∨
    (db.holds handle.id msg.messageId = false ∧ (∃ box ∈ db.mailboxes, box.id = handle.id) ∧
      db.insertMessage handle msg now =
        (.ok (db.insertedMeta handle msg now), db.inserted handle msg now)) := by
  unfold Db.insertMessage
  cases held : db.holds handle.id msg.messageId with
  | true => exact .inl ⟨rfl, if_pos rfl⟩
  | false =>
    rw [if_neg Bool.false_ne_true]
    cases found : db.mailboxes.any fun box => decide (box.id = handle.id) with
    | false =>
      refine .inr (.inl ⟨rfl, fun exists' => ?_, if_pos rfl⟩)
      have some : (db.mailboxes.any fun box => decide (box.id = handle.id)) = true :=
        List.any_eq_true.mpr (by simpa using exists')
      rw [found] at some
      cases some
    | true =>
      refine .inr (.inr ⟨rfl, ?_, if_neg (by simp)⟩)
      simpa using List.any_eq_true.mp found

/-- A named mailbox is a row of the table. -/
theorem mailboxNamed_ok {db : Db} {userId : Nat} {name : String} {handle : Db.Handle}
    (named : db.mailboxNamed userId name = .ok handle) :
    ∃ box ∈ db.mailboxes, box.userId = userId ∧ box.name = name ∧
      handle = ⟨box.id, box.uidvalidity, box.uidnext⟩ := by
  unfold Db.mailboxNamed at named
  split at named
  · cases named
  · rename_i box found
    obtain ⟨rfl, rfl⟩ : box.userId = userId ∧ box.name = name := by
      simpa using List.find?_some found
    exact ⟨box, List.mem_of_find?_eq_some found, rfl, rfl, (Except.ok.inj named).symm⟩

/-- The ways an append ends: no such mailbox, a duplicate, or a new message under the counter of
the mailbox. -/
theorem appendMessageTo_cases (db : Db) (userId : Nat) (mailbox : String) (msg : NewMessage)
    (now : Int64) :
    (db.mailboxNamed userId mailbox = .error .mailboxNotFound ∧
      db.appendMessageTo userId mailbox msg now = (.error .mailboxNotFound, db)) ∨
    ∃ handle, db.mailboxNamed userId mailbox = .ok handle ∧
      ((db.holds handle.id msg.messageId = true ∧
        db.appendMessageTo userId mailbox msg now =
          (.error (.duplicateMessage msg.messageId), db)) ∨
      (db.holds handle.id msg.messageId = false ∧
        db.appendMessageTo userId mailbox msg now =
          (.ok (db.insertedMeta handle msg now), db.inserted handle msg now))) := by
  unfold Db.appendMessageTo
  cases named : db.mailboxNamed userId mailbox with
  | error error =>
    unfold Db.mailboxNamed at named
    split at named
    · cases named
      exact .inl ⟨rfl, rfl⟩
    · cases named
  | ok handle =>
    obtain ⟨box, member, -, -, rfl⟩ := mailboxNamed_ok named
    refine .inr ⟨_, rfl, ?_⟩
    rcases insertMessage_cases db ⟨box.id, box.uidvalidity, box.uidnext⟩ msg now with
      duplicate | gone | stored
    · exact .inl duplicate
    · exact absurd ⟨box, member, rfl⟩ gone.2.1
    · exact .inr ⟨stored.1, stored.2.2⟩

/-! ## Deliveries -/

/-- The user half of a mailbox is what stands before the first separator. -/
theorem mailboxUser_eq (mailbox : String) :
    mailboxUser mailbox = String.ofList (mailbox.toList.takeWhile (· != '@')) := by
  rw [mailboxUser, Text.split, List.headD_eq_head?_getD, List.head?_map, Text.head_splitOn]
  rfl

/-- The user half of a mailbox that is made of a name without the separator is the name. -/
theorem mailboxUser_qualified {username : String} (bare : '@' ∉ username.toList)
    (domain : String) : mailboxUser (username ++ "@" ++ domain) = username := by
  have before : ∀ c ∈ username.toList, (c != '@') = true := by
    intro c member
    have other : c ≠ '@' := fun same => bare (same ▸ member)
    simpa using other
  rw [mailboxUser_eq]
  simp only [String.toList_append, List.append_assoc]
  rw [List.takeWhile_append_of_pos before]
  simp

/-- The ways a message is stored: no mailbox, a duplicate, or a new message and its transaction. -/
theorem store_cases (db : Db) (userId : Nat) (msg : NewMessage) (recipientMailbox amount : String)
    (now : Int64) :
    (db.mailboxNamed userId inbox = .error .mailboxNotFound ∧
      store db userId msg recipientMailbox amount now = (.retryLater "storage error", db)) ∨
    ∃ handle, db.mailboxNamed userId inbox = .ok handle ∧
      ((db.holds handle.id msg.messageId = true ∧
        store db userId msg recipientMailbox amount now =
          (.rejected ("duplicate message id: " ++ msg.messageId), db)) ∨
      (db.holds handle.id msg.messageId = false ∧
        store db userId msg recipientMailbox amount now = (.accepted msg.messageId,
          recordInboundTx (db.inserted handle msg now) msg.sender recipientMailbox amount
            msg.messageId (nextId MessageRow.id db.messages) now))) := by
  rcases appendMessageTo_cases db userId inbox msg now with
    ⟨named, missing⟩ | ⟨handle, named, ⟨held, duplicate⟩ | ⟨fresh, stored⟩⟩
  · refine .inl ⟨named, ?_⟩
    simp only [store, appendAndBroadcast, Db.appendMessage, missing]
  · refine .inr ⟨handle, named, .inl ⟨held, ?_⟩⟩
    simp only [store, appendAndBroadcast, Db.appendMessage, duplicate]
  · refine .inr ⟨handle, named, .inr ⟨fresh, ?_⟩⟩
    simp only [store, appendAndBroadcast, Db.appendMessage, stored, Db.insertedMeta]

/-- A transaction is created unless its direction and message id are taken. -/
theorem txCreate_cases (db : Db) (new : NewTransaction) (now : Int64) :
    ((∃ tx ∈ db.transactions, Db.txKey tx = (new.direction, new.messageId)) ∧
      db.txCreate new now = (.error .storage, db)) ∨
    ((∀ tx ∈ db.transactions, Db.txKey tx ≠ (new.direction, new.messageId)) ∧
      db.txCreate new now = (.ok (db.newTx new now),
        { db with transactions := db.transactions ++ [db.newTx new now] })) := by
  by_cases found : ∃ tx ∈ db.transactions, Db.txKey tx = (new.direction, new.messageId)
  · exact .inl ⟨found, if_pos (List.any_eq_true.mpr (by simpa using found))⟩
  · refine .inr ⟨fun tx member same => found ⟨tx, member, same⟩, if_neg fun taken => found ?_⟩
    simpa using List.any_eq_true.mp taken

/-- A delivery is recorded unless its message id has an inbound transaction. -/
theorem recordInboundTx_cases (db : Db) (senderMailbox recipientMailbox amount messageId : String)
    (messageRowId : Nat) (now : Int64) :
    ((∃ tx ∈ db.transactions, Db.txKey tx = (.incoming, messageId)) ∧
      recordInboundTx db senderMailbox recipientMailbox amount messageId messageRowId now = db) ∨
    ((∀ tx ∈ db.transactions, Db.txKey tx ≠ (.incoming, messageId)) ∧
      recordInboundTx db senderMailbox recipientMailbox amount messageId messageRowId now =
        Db.txLinkMessage
          { db with transactions := db.transactions ++
            [db.newTx (inboundTx senderMailbox recipientMailbox amount messageId) now] }
          (nextId Transaction.id db.transactions) messageRowId now) := by
  unfold recordInboundTx
  rcases txCreate_cases db (inboundTx senderMailbox recipientMailbox amount messageId) now with
    ⟨taken, kept⟩ | ⟨fresh, created⟩
  · rw [kept]
    exact .inl ⟨taken, rfl⟩
  · rw [created]
    exact .inr ⟨fresh, rfl⟩

/-- Recording a delivery leaves the messages. -/
theorem messages_recordInboundTx (db : Db)
    (senderMailbox recipientMailbox amount messageId : String) (rowId : Nat) (now : Int64) :
    (recordInboundTx db senderMailbox recipientMailbox amount messageId rowId now).messages =
      db.messages := by
  rcases recordInboundTx_cases db senderMailbox recipientMailbox amount messageId rowId now with
    ⟨-, kept⟩ | ⟨-, kept⟩
  · rw [kept]
  · rw [kept]
    rfl

/-- A new transaction that is linked at once is inserted with its link. -/
theorem txLinkMessage_insert {db : Db} {tx : Transaction}
    (new : tx.id = nextId Transaction.id db.transactions) (rowId : Nat) (now : Int64) :
    Db.txLinkMessage { db with transactions := db.transactions ++ [tx] }
        (nextId Transaction.id db.transactions) rowId now =
      { db with transactions :=
        db.transactions ++ [{ tx with messageRowId := some rowId, updatedAt := now }] } := by
  rw [Db.txLinkMessage, Db.txUpdate]
  dsimp only
  rw [update_insert new]

/-- A wire delivery is refused for its recipient, or stores a message with the delivery's message
id and sender. -/
theorem deliver_cases (template : Template) (now : Int64) (delivery : Delivery) (db : Db) :
    (∃ reason, recipientUser db delivery.recipientMailbox = .error (.rejected reason) ∧
      deliver template now delivery db = (.rejected reason, db)) ∨
    ∃ user msg, recipientUser db delivery.recipientMailbox = .ok user ∧
      msg.messageId = delivery.messageId ∧ msg.sender = delivery.senderMailbox ∧
      deliver template now delivery db =
        store db user.id msg delivery.recipientMailbox "" now := by
  unfold deliver
  cases found : recipientUser db delivery.recipientMailbox with
  | error outcome =>
    unfold recipientUser at found
    dsimp only at found
    split at found
    · cases found
      exact .inl ⟨_, rfl, rfl⟩
    · split at found
      · cases found
      · cases found
        exact .inl ⟨_, rfl, rfl⟩
  | ok user => exact .inr ⟨user, _, rfl, rfl, rfl, rfl⟩

/-- An emulated delivery is refused for its recipient, or stores a message with its message id and
sender. -/
theorem deliverEmulated_cases (db : Db) (recipient senderLabel amount messageId subject : String)
    (body : List UInt8) (now : Int64) :
    (∃ outcome, recipientUser db recipient = .error outcome ∧
      deliverEmulated db recipient senderLabel amount messageId subject body now =
        (outcome, db)) ∨
    ∃ user msg, recipientUser db recipient = .ok user ∧ msg.messageId = messageId ∧
      msg.sender = senderLabel ∧
      deliverEmulated db recipient senderLabel amount messageId subject body now =
        store db user.id msg recipient amount now := by
  unfold deliverEmulated
  cases found : recipientUser db recipient with
  | error outcome => exact .inl ⟨outcome, rfl, rfl⟩
  | ok user => exact .inr ⟨user, _, rfl, rfl, rfl, rfl⟩

/-- Storing a message is a chain of changes. -/
theorem store_changes (db : Db) (userId : Nat) (msg : NewMessage)
    (recipientMailbox amount : String) (now : Int64) :
    Changes db (store db userId msg recipientMailbox amount now).2 := by
  rcases store_cases db userId msg recipientMailbox amount now with
    ⟨-, missing⟩ | ⟨handle, named, ⟨-, duplicate⟩ | ⟨fresh, stored⟩⟩
  · rw [missing]
  · rw [duplicate]
  · rw [stored]
    refine .head (.message handle msg now fresh ⟨_, _, named⟩) ?_
    rcases recordInboundTx_cases (db.inserted handle msg now) msg.sender recipientMailbox amount
      msg.messageId (nextId MessageRow.id db.messages) now with ⟨-, kept⟩ | ⟨newKey, recorded⟩
    · rw [kept]
    · rw [recorded]
      refine .head (.tx (Db.newTx (db.inserted handle msg now)
        (inboundTx msg.sender recipientMailbox amount msg.messageId) now) rfl newKey rfl) ?_
      exact .single (.txUpdate _ _ (keeps_link _ now))

/-! ## Outbound records -/

/-- An update that has to find its row changes it, or nothing. -/
theorem txUpdateFound_snd (db : Db) (id : Nat) (change : Transaction → Transaction) :
    (db.txUpdateFound id change).2 = db.txUpdate id change := by
  unfold Db.txUpdateFound
  split
  · rfl
  · rename_i missing
    have same : update (fun tx : Transaction => decide (tx.id = id)) change db.transactions =
        db.transactions := by
      rw [update]
      refine (List.map_congr_left fun tx member => ?_).trans (List.map_id _)
      have other : decide (tx.id = id) = false := by
        by_contra found
        exact missing (List.any_eq_true.mpr ⟨tx, member, by simpa using found⟩)
      rw [other]
      rfl
    simp only [Db.txUpdate, same]

/-- An attempt transitions the transaction of its message id, or creates one. -/
theorem outboundRow_cases (db : Db) (senderMailbox recipientMailbox messageId : String)
    (payload : Payload) (body : List UInt8) (state : TxState) (now : Int64) :
    (∃ tx ∈ db.transactions, Db.txKey tx = (.outgoing, messageId) ∧
      outboundRow db senderMailbox recipientMailbox messageId payload body state now =
        (.ok tx, db.txUpdate tx.id fun tx => { tx with state := state, updatedAt := now })) ∨
    ((∀ tx ∈ db.transactions, Db.txKey tx ≠ (.outgoing, messageId)) ∧
      outboundRow db senderMailbox recipientMailbox messageId payload body state now =
        (.ok (db.newTx (outboundTx senderMailbox recipientMailbox messageId payload body state)
          now), { db with transactions := db.transactions ++
            [db.newTx (outboundTx senderMailbox recipientMailbox messageId payload body state)
              now] })) := by
  unfold outboundRow
  cases found : db.txByMessageId .outgoing messageId with
  | some tx =>
    refine .inl ⟨tx, List.mem_of_find?_eq_some found, by simpa using List.find?_some found, ?_⟩
    exact Prod.ext rfl (txUpdateFound_snd db tx.id _)
  | none =>
    have fresh : ∀ tx ∈ db.transactions, Db.txKey tx ≠ (.outgoing, messageId) := by
      simpa using List.find?_eq_none.mp found
    rcases txCreate_cases db
      (outboundTx senderMailbox recipientMailbox messageId payload body state) now with
      ⟨⟨tx, member, same⟩, -⟩ | ⟨-, created⟩
    · exact absurd same (fresh tx member)
    · exact .inr ⟨fresh, created⟩

/-- The copy of a sent invoice is not stored, or is a new message linked to the transaction. -/
theorem sentCopy_cases (db : Db) (template : Template) (senderUsername senderMailbox
    recipientMailbox messageId : String) (body : List UInt8) (txId : Nat) (now : Int64) :
    ((∀ user handle, db.getUser senderUsername = some user →
        db.mailboxNamed user.id sent = .ok handle → db.holds handle.id messageId = true) ∧
      sentCopy db template senderUsername senderMailbox recipientMailbox messageId body txId now =
        db) ∨
    ∃ user handle msg, db.getUser senderUsername = some user ∧
      db.mailboxNamed user.id sent = .ok handle ∧ msg.messageId = messageId ∧
      msg.sender = recipientMailbox ∧ db.holds handle.id messageId = false ∧
      sentCopy db template senderUsername senderMailbox recipientMailbox messageId body txId now =
        (db.inserted handle msg now).txLinkMessage txId (nextId MessageRow.id db.messages) now := by
  unfold sentCopy
  cases found : db.getUser senderUsername with
  | none => exact .inl ⟨nofun, rfl⟩
  | some user =>
    dsimp only
    rcases appendMessageTo_cases db user.id sent ⟨messageId,
      (template.renderOr senderMailbox "Sent invoice" body).1,
      (template.renderOr senderMailbox "Sent invoice" body).2, .default, recipientMailbox,
      "unverified"⟩ now with
      ⟨gone, missing⟩ | ⟨handle, named, ⟨held, duplicate⟩ | ⟨fresh, stored⟩⟩
    · rw [missing]
      refine .inl ⟨fun other box same named => ?_, rfl⟩
      obtain rfl := Option.some.inj same
      rw [gone] at named
      cases named
    · rw [duplicate]
      refine .inl ⟨fun other box same again => ?_, rfl⟩
      obtain rfl := Option.some.inj same
      obtain rfl := Except.ok.inj (named.symm.trans again)
      exact held
    · rw [stored]
      exact .inr ⟨user, handle, _, rfl, named, rfl, rfl, fresh, rfl⟩

/-- Storing the copy of a sent invoice is a chain of changes. -/
theorem sentCopy_changes (db : Db) (template : Template) (senderUsername senderMailbox
    recipientMailbox messageId : String) (body : List UInt8) (txId : Nat) (now : Int64) :
    Changes db (sentCopy db template senderUsername senderMailbox recipientMailbox messageId body
      txId now) := by
  rcases sentCopy_cases db template senderUsername senderMailbox recipientMailbox messageId body
    txId now with ⟨-, kept⟩ | ⟨user, handle, msg, -, named, rfl, -, fresh, stored⟩
  · rw [kept]
  · rw [stored]
    refine .head (.message handle msg now fresh ⟨_, _, named⟩) ?_
    exact .single (.txUpdate _ _ (keeps_link _ now))

/-- Recording an attempt: its transaction, then the copy. -/
theorem recordOutboundTx_eq (db : Db) (template : Template) (senderDomain senderUsername
    recipientMailbox messageId : String) (payload : Payload) (body : List UInt8) (state : TxState)
    (now : Int64) :
    ∃ txId middle, recordOutboundTx db template senderDomain senderUsername recipientMailbox
        messageId payload body state now =
      sentCopy middle template senderUsername (senderUsername ++ "@" ++ senderDomain)
        recipientMailbox messageId body txId now ∧
      ((∃ tx ∈ db.transactions, Db.txKey tx = (.outgoing, messageId) ∧ txId = tx.id ∧
        middle = db.txUpdate tx.id fun tx => { tx with state := state, updatedAt := now }) ∨
      ((∀ tx ∈ db.transactions, Db.txKey tx ≠ (.outgoing, messageId)) ∧
        txId = nextId Transaction.id db.transactions ∧
        middle = { db with transactions := db.transactions ++
          [db.newTx (outboundTx (senderUsername ++ "@" ++ senderDomain) recipientMailbox messageId
            payload body state) now] })) := by
  unfold recordOutboundTx
  dsimp only
  rcases outboundRow_cases db (senderUsername ++ "@" ++ senderDomain) recipientMailbox messageId
    payload body state now with ⟨tx, member, key, done⟩ | ⟨fresh, done⟩
  · rw [done]
    exact ⟨_, _, rfl, .inl ⟨tx, member, key, rfl, rfl⟩⟩
  · rw [done]
    exact ⟨_, _, rfl, .inr ⟨fresh, rfl, rfl⟩⟩

/-- Recording an attempt is a chain of changes. -/
theorem recordOutboundTx_changes (db : Db) (template : Template) (senderDomain senderUsername
    recipientMailbox messageId : String) (payload : Payload) (body : List UInt8) (state : TxState)
    (now : Int64) :
    Changes db (recordOutboundTx db template senderDomain senderUsername recipientMailbox messageId
      payload body state now) := by
  obtain ⟨txId, middle, done, ⟨tx, -, -, -, same⟩ | ⟨fresh, -, same⟩⟩ := recordOutboundTx_eq db
    template senderDomain senderUsername recipientMailbox messageId payload body state now
  · rw [done, same]
    exact .head (.txUpdate _ _ (keeps_transition state now)) (sentCopy_changes ..)
  · rw [done, same]
    refine .head (.tx (db.newTx (outboundTx (senderUsername ++ "@" ++ senderDomain)
      recipientMailbox messageId payload body state) now) rfl fresh rfl) ?_
    exact sentCopy_changes ..

/-! ## Operations -/

/-- A completed operation on the store. -/
inductive Operation where
  /-- `create_user_full`. -/
  | createUser (username passwordHash : String) (masterPubkey : List UInt8)
    (ivkCommitment registrationAttestation : Option String) (now : Int64)
  /-- A wire delivery. -/
  | deliver (delivery : Delivery) (now : Int64)
  /-- An emulated delivery. -/
  | emulate (recipient senderLabel amount messageId subject : String) (body : List UInt8)
    (now : Int64)
  /-- The record of an outbound attempt. -/
  | recordOutbound (senderUsername recipientMailbox messageId : String) (payload : Payload)
    (body : List UInt8) (state : TxState) (now : Int64)
  /-- `set_flags_in`. -/
  | setFlags (userId : Nat) (mailbox : String) (messageId : Nat) (mask : UInt32) (value : Bool)
  /-- `expunge_in`. -/
  | expunge (userId : Nat) (mailbox : String)
  /-- `tx_transition`. -/
  | transition (id : Nat) (state : TxState) (now : Int64)

/-- What an operation leaves, for a daemon with a template and a domain. -/
def apply (template : Template) (domain : String) (db : Db) : Operation → Db
  | .createUser username passwordHash masterPubkey ivkCommitment registrationAttestation now =>
    (db.createUserFull username passwordHash masterPubkey ivkCommitment registrationAttestation
      now).2
  | .deliver delivery now => (deliver template now delivery db).2
  | .emulate recipient senderLabel amount messageId subject body now =>
    (deliverEmulated db recipient senderLabel amount messageId subject body now).2
  | .recordOutbound senderUsername recipientMailbox messageId payload body state now =>
    recordOutboundTx db template domain senderUsername recipientMailbox messageId payload body
      state now
  | .setFlags userId mailbox messageId mask value =>
    (db.setFlagsIn userId mailbox messageId mask value).2
  | .expunge userId mailbox => (db.expungeIn userId mailbox).2
  | .transition id state now => (db.txTransition id state now).2

/-- A daemon that renders nothing. -/
def noTemplate : Template := ⟨Unit, none, fun _ _ _ _ _ _ => none, ""⟩

/-- A user is created. -/
def createBob : Operation := .createUser "bob" "" [] none none 0

/-- An invoice for that user. -/
def invoice (messageId : String) : Delivery := ⟨"alice@a.io", messageId, "bob@b.io", .sealed, []⟩

/-- Flags are changed in a mailbox that exists, or nothing is. -/
theorem setFlagsIn_changes (db : Db) (userId : Nat) (mailbox : String) (messageId : Nat)
    (mask : UInt32) (value : Bool) :
    Changes db (db.setFlagsIn userId mailbox messageId mask value).2 := by
  unfold Db.setFlagsIn
  split
  · exact .refl
  · exact .single (.flags _ mask value)

/-- Messages are expunged from a mailbox that exists, or none is. -/
theorem expungeIn_cases (db : Db) (userId : Nat) (mailbox : String) :
    (db.expungeIn userId mailbox).2 = db ∨
    ∃ handle, db.mailboxNamed userId mailbox = .ok handle ∧
      (db.expungeIn userId mailbox).2 =
        { db with messages := db.messages.filter fun row => !Db.expunges handle.id row } := by
  unfold Db.expungeIn
  split
  · exact .inl rfl
  · rename_i handle named
    exact .inr ⟨handle, named, rfl⟩

/-! ## Keys -/

/-- The keys of the tables are unique, and references find their rows. -/
structure Keyed (db : Db) : Prop where
  /-- User ids. -/
  userIds : Unique UserRow.id db.users
  /-- User names. -/
  usernames : Unique UserRow.username db.users
  /-- Mailbox ids. -/
  mailboxIds : Unique MailboxRow.id db.mailboxes
  /-- Mailbox names of a user. -/
  mailboxNames : Unique (fun box => (box.userId, box.name)) db.mailboxes
  /-- Owners. -/
  owners : ∀ box ∈ db.mailboxes, ∃ user ∈ db.users, user.id = box.userId
  /-- Mailboxes of messages. -/
  homes : ∀ row ∈ db.messages, ∃ box ∈ db.mailboxes, box.id = row.mailboxId
  /-- Message rows. -/
  rowIds : Unique MessageRow.id db.messages
  /-- Message ids in a mailbox. -/
  messageIds : Unique (fun row => (row.mailboxId, row.messageId)) db.messages
  /-- Transaction ids. -/
  txIds : Unique Transaction.id db.transactions
  /-- Message ids in a direction. -/
  txKeys : Unique Db.txKey db.transactions

/-- The empty store has unique keys. -/
theorem keyed_empty : Keyed .empty :=
  ⟨unique_nil _, unique_nil _, unique_nil _, unique_nil _, nofun, nofun, unique_nil _,
    unique_nil _, unique_nil _, unique_nil _⟩

/-- A mailbox that does not hold a message id has no row with it. -/
theorem not_holds_iff {db : Db} {mailboxId : Nat} {messageId : String} :
    db.holds mailboxId messageId = false ↔
      ∀ row ∈ db.messages, (row.mailboxId, row.messageId) ≠ (mailboxId, messageId) := by
  simp [Db.holds]

/-- A mailbox that holds a message id has a row with it. -/
theorem holds_iff {db : Db} {mailboxId : Nat} {messageId : String} :
    db.holds mailboxId messageId = true ↔
      ∃ row ∈ db.messages, row.mailboxId = mailboxId ∧ row.messageId = messageId := by
  simp [Db.holds]

/-- A mailbox is still there after an insert, with its counter incremented if it is the one. -/
theorem mem_inserted {db : Db} {box : MailboxRow} (member : box ∈ db.mailboxes)
    (handle : Db.Handle) (msg : NewMessage) (now : Int64) :
    (if box.id = handle.id then { box with uidnext := box.uidnext + 1 } else box) ∈
      (db.inserted handle msg now).mailboxes :=
  mem_update.mpr ⟨box, member, by simp⟩

/-- The keys stay unique. -/
theorem keyed_change {db after : Db} (keyed : Keyed db) (change : Change db after) :
    Keyed after := by
  cases change with
  | user row id fresh =>
    refine { keyed with
      userIds := unique_insert keyed.userIds (id ▸ nextId_fresh UserRow.id db.users)
      usernames := unique_insert keyed.usernames fresh
      owners := fun box member => ?_ }
    obtain ⟨user, found, same⟩ := keyed.owners box member
    exact ⟨user, List.mem_append_left _ found, same⟩
  | mailbox userId name uidvalidity owner fresh =>
    refine { keyed with
      mailboxIds := unique_insert keyed.mailboxIds (nextId_fresh MailboxRow.id db.mailboxes)
      mailboxNames := unique_insert keyed.mailboxNames fresh
      owners := fun box member => ?_
      homes := fun row stored => ?_ }
    · rcases List.mem_append.mp member with old | new
      · exact keyed.owners box old
      · obtain rfl := List.mem_singleton.mp new
        exact owner
    · obtain ⟨home, found, same⟩ := keyed.homes row stored
      exact ⟨home, List.mem_append_left _ found, same⟩
  | message handle msg now fresh read =>
    obtain ⟨userId, name, named⟩ := read
    obtain ⟨box, member, -, -, rfl⟩ := mailboxNamed_ok named
    refine { keyed with
      mailboxIds := unique_update keyed.mailboxIds _ fun _ => rfl
      mailboxNames := unique_update keyed.mailboxNames _ fun _ => rfl
      owners := fun box member => ?_
      homes := fun row stored => ?_
      rowIds := unique_insert keyed.rowIds (nextId_fresh MessageRow.id db.messages)
      messageIds := unique_insert keyed.messageIds (not_holds_iff.mp fresh) }
    · obtain ⟨old, found, rfl⟩ := mem_update.mp member
      obtain ⟨user, owner, same⟩ := keyed.owners old found
      refine ⟨user, owner, ?_⟩
      rw [same]
      split <;> rfl
    · rcases List.mem_append.mp stored with old | new
      · obtain ⟨home, found, same⟩ := keyed.homes row old
        exact ⟨_, mem_inserted found _ msg now, by rw [← same]; split <;> rfl⟩
      · obtain rfl := List.mem_singleton.mp new
        exact ⟨_, mem_inserted member _ msg now, by rw [if_pos rfl]; rfl⟩
  | tx row id fresh unlinked =>
    exact { keyed with
      txIds := unique_insert keyed.txIds (id ▸ nextId_fresh Transaction.id db.transactions)
      txKeys := unique_insert keyed.txKeys fresh }
  | txUpdate id change keeps =>
    exact { keyed with
      txIds := unique_update keyed.txIds _ keeps.id
      txKeys := unique_update keyed.txKeys _ keeps.key }
  | flags selects mask value =>
    refine { keyed with
      homes := fun row stored => ?_
      rowIds := unique_update keyed.rowIds _ fun _ => rfl
      messageIds := unique_update keyed.messageIds _ fun _ => rfl }
    obtain ⟨old, member, rfl⟩ := mem_update.mp stored
    obtain ⟨home, found, same⟩ := keyed.homes old member
    exact ⟨home, found, by rw [same]; split <;> rfl⟩
  | delete keeps =>
    exact { keyed with
      homes := fun row stored => keyed.homes row (List.mem_of_mem_filter stored)
      rowIds := unique_filter keyed.rowIds keeps
      messageIds := unique_filter keyed.messageIds keeps }

/-- A mailbox is found by its owner and name. -/
theorem mailboxNamed_of_mem {db : Db} (keyed : Keyed db) {box : MailboxRow}
    (member : box ∈ db.mailboxes) :
    db.mailboxNamed box.userId box.name = .ok ⟨box.id, box.uidvalidity, box.uidnext⟩ := by
  rw [Db.mailboxNamed, (find_eq_some_iff keyed.mailboxNames).mpr ⟨member, rfl⟩]

/-- The transactions after one was changed. -/
theorem mem_txUpdate {db : Db} (keyed : Keyed db) {tx : Transaction}
    (member : tx ∈ db.transactions) (change : Transaction → Transaction) {after : Transaction} :
    after ∈ (db.txUpdate tx.id change).transactions ↔
      after = change tx ∨ after ∈ db.transactions ∧ after.id ≠ tx.id := by
  rw [Db.txUpdate, mem_update]
  constructor
  · rintro ⟨old, found, rfl⟩
    by_cases same : old.id = tx.id
    · obtain rfl := eq_of_unique keyed.txIds found member same
      exact .inl (if_pos (by simp))
    · rw [if_neg (by simpa using same)]
      exact .inr ⟨found, same⟩
  · rintro (rfl | ⟨found, other⟩)
    · exact ⟨tx, member, (if_pos (by simp)).symm⟩
    · exact ⟨after, found, (if_neg (by simpa using other)).symm⟩

/-- The keys stay unique along a chain. -/
theorem keyed_changes {db after : Db} (keyed : Keyed db) (changes : Changes db after) :
    Keyed after := by
  induction changes with
  | refl => exact keyed
  | tail _ change ih => exact keyed_change ih change

/-- Creating a user is a chain of changes where the keys are unique. -/
theorem createUserFull_changes {db : Db} (keyed : Keyed db) (username passwordHash : String)
    (masterPubkey : List UInt8) (ivkCommitment registrationAttestation : Option String)
    (now : Int64) :
    Changes db (db.createUserFull username passwordHash masterPubkey ivkCommitment
      registrationAttestation now).2 := by
  unfold Db.createUserFull
  split
  · exact .refl
  · rename_i unused
    have fresh : ∀ other ∈ db.users, other.username ≠ username := by
      intro other member same
      exact unused (List.any_eq_true.mpr ⟨other, member, by simpa using same⟩)
    -- Mailboxes have owners, so none belongs to the new user id.
    have others : ∀ box ∈ db.mailboxes, box.userId ≠ nextId UserRow.id db.users := by
      intro box member same
      obtain ⟨user, found, owner⟩ := keyed.owners box member
      exact nextId_fresh UserRow.id db.users user found (owner.trans same)
    refine .head (.user ⟨nextId UserRow.id db.users, username, passwordHash, masterPubkey, now,
      ivkCommitment, registrationAttestation⟩ rfl fresh) ?_
    refine .head (.mailbox (nextId UserRow.id db.users) inbox now.toUInt64.toUInt32
      ⟨_, List.mem_append_right _ (List.mem_singleton_self _), rfl⟩ ?_) ?_
    · intro box member same
      exact others box member (congrArg Prod.fst same)
    · refine .single (.mailbox (nextId UserRow.id db.users) sent now.toUInt64.toUInt32
        ⟨_, List.mem_append_right _ (List.mem_singleton_self _), rfl⟩ ?_)
      intro box member same
      rcases List.mem_append.mp member with old | new
      · exact others box old (congrArg Prod.fst same)
      · obtain rfl := List.mem_singleton.mp new
        have names : inbox = sent := congrArg Prod.snd same
        exact absurd names (by decide)

/-- A user with a name that is taken is not created. -/
theorem createUserFull_taken {db : Db} {username : String}
    (taken : ∃ row ∈ db.users, row.username = username) (passwordHash : String)
    (masterPubkey : List UInt8) (ivkCommitment registrationAttestation : Option String)
    (now : Int64) :
    db.createUserFull username passwordHash masterPubkey ivkCommitment registrationAttestation
      now = (.error .storage, db) := by
  have used : db.users.any (·.username == username) = true := by simpa using taken
  rw [Db.createUserFull, if_pos used]

/-- A user is not created, or is added with mailboxes of its own. -/
theorem createUserFull_cases (db : Db) (username passwordHash : String)
    (masterPubkey : List UInt8) (ivkCommitment registrationAttestation : Option String)
    (now : Int64) :
    (db.createUserFull username passwordHash masterPubkey ivkCommitment registrationAttestation
      now).2 = db ∨
    ∃ row inboxRow sentRow, row.id = nextId UserRow.id db.users ∧ inboxRow.userId = row.id ∧
      inboxRow.name = inbox ∧
      (db.createUserFull username passwordHash masterPubkey ivkCommitment registrationAttestation
        now).2 = { db with users := db.users ++ [row],
                           mailboxes := db.mailboxes ++ [inboxRow, sentRow] } := by
  unfold Db.createUserFull
  split
  · exact .inl rfl
  · let row : UserRow := ⟨nextId UserRow.id db.users, username, passwordHash, masterPubkey, now,
      ivkCommitment, registrationAttestation⟩
    let inboxRow : MailboxRow :=
      ⟨nextId MailboxRow.id db.mailboxes, row.id, inbox, now.toUInt64.toUInt32, 1⟩
    let sentRow : MailboxRow :=
      ⟨nextId MailboxRow.id (db.mailboxes ++ [inboxRow]), row.id, sent, now.toUInt64.toUInt32, 1⟩
    refine .inr ⟨row, inboxRow, sentRow, rfl, rfl, rfl, ?_⟩
    simp only [Db.insertMailbox, List.append_assoc, List.singleton_append, row, inboxRow, sentRow]

/-- Every operation is a chain of changes where the keys are unique. -/
theorem apply_changes (template : Template) (domain : String) {db : Db} (keyed : Keyed db)
    (operation : Operation) : Changes db (apply template domain db operation) := by
  cases operation with
  | createUser => exact createUserFull_changes keyed ..
  | deliver delivery now =>
    rcases deliver_cases template now delivery db with
      ⟨reason, -, refused⟩ | ⟨user, msg, -, -, -, done⟩
    · rw [apply, refused]
    · rw [apply, done]
      exact store_changes ..
  | emulate recipient senderLabel amount messageId subject body now =>
    rcases deliverEmulated_cases db recipient senderLabel amount messageId subject body now with
      ⟨outcome, -, refused⟩ | ⟨user, msg, -, -, -, done⟩
    · rw [apply, refused]
    · rw [apply, done]
      exact store_changes ..
  | recordOutbound => exact recordOutboundTx_changes ..
  | setFlags userId mailbox messageId mask value => exact setFlagsIn_changes ..
  | expunge userId mailbox =>
    rcases expungeIn_cases db userId mailbox with kept | ⟨handle, -, deleted⟩
    · rw [apply, kept]
    · rw [apply, deleted]
      exact .single (.delete _)
  | transition id state now =>
    rw [apply, Db.txTransition, txUpdateFound_snd]
    exact .single (.txUpdate _ _ (keeps_transition state now))

/-- The keys stay unique under every operation. -/
theorem keyed_apply (template : Template) (domain : String) {db : Db} (keyed : Keyed db)
    (operation : Operation) : Keyed (apply template domain db operation) :=
  keyed_changes keyed (apply_changes template domain keyed operation)

end Talk.Verif.StoreSteps
