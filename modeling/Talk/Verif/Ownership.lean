import Talk.Verif.Inbox

/-!
# Whose outbound transactions are

A send finds an earlier transaction by its message id alone, moves it to the new state and links it
to the copy in the Sent mailbox of whoever sends now. So outbound transactions stay with their
senders exactly if no send uses the message id of another sender's transaction, and none that
stores a copy uses it for another recipient.
-/

namespace Talk.Verif.Ownership

open Mailstore Table Daemon Protocol Text Transition StoreSteps Inbox

/-! ## Sent copies -/

/-- The mailbox of a local user. -/
def localMailbox (domain username : String) : String := username ++ "@" ++ domain

/-- A mailbox is the Sent mailbox of the user that an address names. -/
def SentOf (domain : String) (db : Db) (address : String) (mailboxId : Nat) : Prop :=
  ∃ user ∈ db.users, localMailbox domain user.username = address ∧
    ∃ box ∈ db.mailboxes, box.userId = user.id ∧ box.name = sent ∧ box.id = mailboxId

/-- A message row is the copy of a transaction: in its sender's Sent mailbox, with its message id
and recipient. -/
def CopyOf (domain : String) (db : Db) (tx : Transaction) (rowId : Nat) : Prop :=
  ∃ row ∈ db.messages, row.id = rowId ∧ row.messageId = tx.messageId ∧
    row.sender = tx.recipientMailbox ∧ SentOf domain db tx.senderMailbox row.mailboxId

/-- Outbound transactions are linked to their copies. -/
def Owned (domain : String) (db : Db) : Prop :=
  ∀ tx ∈ db.transactions, tx.direction = .outgoing → ∀ rowId, tx.messageRowId = some rowId →
    CopyOf domain db tx rowId

/-- Users, mailboxes and messages stay. -/
structure Grows (db after : Db) : Prop where
  /-- Users. -/
  users : ∀ user ∈ db.users, user ∈ after.users
  /-- Mailboxes, up to their counters. -/
  mailboxes : ∀ box ∈ db.mailboxes, ∃ new ∈ after.mailboxes,
    new.id = box.id ∧ new.userId = box.userId ∧ new.name = box.name
  /-- Messages. -/
  messages : ∀ row ∈ db.messages, row ∈ after.messages

/-- A store that only differs in its ledger has grown. -/
theorem grows_ledger {db after : Db} (users : after.users = db.users)
    (mailboxes : after.mailboxes = db.mailboxes) (messages : after.messages = db.messages) :
    Grows db after := by
  refine ⟨fun user member => users ▸ member, fun box member => ?_,
    fun row member => messages ▸ member⟩
  exact ⟨box, mailboxes ▸ member, rfl, rfl, rfl⟩

/-- An insert grows the store. -/
theorem grows_inserted (db : Db) (handle : Db.Handle) (msg : NewMessage) (now : Int64) :
    Grows db (db.inserted handle msg now) := by
  refine ⟨fun user member => member, fun box member => ?_,
    fun row member => List.mem_append_left _ member⟩
  refine ⟨_, mem_inserted member handle msg now, ?_⟩
  split
  · exact ⟨rfl, rfl, rfl⟩
  · exact ⟨rfl, rfl, rfl⟩

/-- A copy stays one in a store that grows. -/
theorem copyOf_grows {domain : String} {db after : Db} (grows : Grows db after) {tx : Transaction}
    {rowId : Nat} (copy : CopyOf domain db tx rowId) : CopyOf domain after tx rowId := by
  obtain ⟨row, stored, id, messageId, sender, user, member, name, box, found, owner, boxName,
    boxId⟩ := copy
  obtain ⟨new, inside, newId, newOwner, newName⟩ := grows.mailboxes box found
  exact ⟨row, grows.messages row stored, id, messageId, sender, user, grows.users user member, name,
    new, inside, newOwner.trans owner, newName.trans boxName, newId.trans boxId⟩

/-- Transactions that were linked before stay with their copies in a store that grows. -/
theorem owned_grows {domain : String} {db after : Db} (owned : Owned domain db)
    (grows : Grows db after)
    (same : ∀ tx ∈ after.transactions, tx.direction = .outgoing → ∀ rowId,
      tx.messageRowId = some rowId → ∃ old ∈ db.transactions, old.direction = .outgoing ∧
        old.messageId = tx.messageId ∧ old.senderMailbox = tx.senderMailbox ∧
        old.recipientMailbox = tx.recipientMailbox ∧ old.messageRowId = some rowId) :
    Owned domain after := by
  intro tx member direction rowId points
  obtain ⟨old, found, oldDirection, messageId, sender, recipient, oldPoints⟩ :=
    same tx member direction rowId points
  have copy := copyOf_grows grows (owned old found oldDirection rowId oldPoints)
  rw [CopyOf, messageId, recipient, sender] at copy
  exact copy

/-! ## Operations that send nothing -/

/-- A received message leaves the outbound transactions with their copies. -/
theorem owned_store {domain : String} {db : Db} (owned : Owned domain db)
    (userId : Nat) (msg : NewMessage) (recipientMailbox amount : String) (now : Int64) :
    Owned domain (store db userId msg recipientMailbox amount now).2 := by
  rcases store_cases db userId msg recipientMailbox amount now with
    ⟨-, kept⟩ | ⟨handle, -, ⟨-, kept⟩ | ⟨-, stored⟩⟩
  · rw [kept]
    exact owned
  · rw [kept]
    exact owned
  · rw [stored]
    obtain ⟨ledger, tables⟩ := recordInboundTx_tables (db.inserted handle msg now) msg.sender
      recipientMailbox amount msg.messageId (nextId MessageRow.id db.messages) now
    have grown := grows_inserted db handle msg now
    refine owned_grows owned ?_ ?_
    · dsimp only
      rw [tables]
      exact ⟨grown.users, grown.mailboxes, grown.messages⟩
    · intro tx member direction rowId points
      rcases recordInboundTx_cases (db.inserted handle msg now) msg.sender recipientMailbox amount
        msg.messageId (nextId MessageRow.id db.messages) now with ⟨-, kept⟩ | ⟨-, recorded⟩
      · dsimp only at member
        rw [kept] at member
        exact ⟨tx, member, direction, rfl, rfl, rfl, points⟩
      · dsimp only at member
        rw [recorded, txLinkMessage_insert rfl] at member
        -- The new transaction is inbound.
        rcases List.mem_append.mp member with before | added
        · exact ⟨tx, before, direction, rfl, rfl, rfl, points⟩
        · rw [List.mem_singleton.mp added] at direction
          cases direction

/-- A new user leaves the outbound transactions with their copies. -/
theorem owned_createUserFull {domain : String} {db : Db} (owned : Owned domain db)
    (username passwordHash : String) (masterPubkey : List UInt8)
    (ivkCommitment registrationAttestation : Option String) (now : Int64) :
    Owned domain (db.createUserFull username passwordHash masterPubkey ivkCommitment
      registrationAttestation now).2 := by
  rcases createUserFull_cases db username passwordHash masterPubkey ivkCommitment
    registrationAttestation now with kept | ⟨row, inboxRow, sentRow, -, -, -, created⟩
  · rw [kept]
    exact owned
  · rw [created]
    refine owned_grows owned ⟨fun user member => List.mem_append_left _ member,
      fun box member => ⟨box, List.mem_append_left _ member, rfl, rfl, rfl⟩,
      fun row member => member⟩ ?_
    intro tx member direction rowId points
    exact ⟨tx, member, direction, rfl, rfl, rfl, points⟩

/-! ## Sends -/

/-- A send leaves the state and the link of every transaction but its sender's outbound ones. -/
def Spares (domain : String) (db after : Db) (username : String) : Prop :=
  ∀ tx ∈ db.transactions,
    ¬(tx.direction = .outgoing ∧ tx.senderMailbox = localMailbox domain username) →
      ∃ same ∈ after.transactions, same.id = tx.id ∧ same.state = tx.state ∧
        same.messageRowId = tx.messageRowId

instance (domain : String) (db after : Db) (username : String) :
    Decidable (Spares domain db after username) :=
  inferInstanceAs (Decidable (∀ _ ∈ _, _))

/-- A send stores a copy. -/
def Copies (db : Db) (username messageId : String) : Prop :=
  ∃ user handle, db.getUser username = some user ∧ db.mailboxNamed user.id sent = .ok handle ∧
    db.holds handle.id messageId = false

/-- An attempt may touch a transaction: its sender's, for the same recipient if a copy is stored,
or one that it leaves as it is. -/
def Touches (domain : String) (db : Db) (username recipientMailbox : String) (state : TxState)
    (tx : Transaction) : Prop :=
  if tx.senderMailbox = localMailbox domain username then
    Copies db username tx.messageId → tx.recipientMailbox = recipientMailbox
  else tx.state = state ∧ ¬Copies db username tx.messageId

/-- A transition leaves outbound transactions with their copies. -/
theorem owned_transition {domain : String} {db : Db} (keyed : Keyed db) (owned : Owned domain db)
    {tx : Transaction} (member : tx ∈ db.transactions) (state : TxState) (now : Int64) :
    Owned domain (db.txUpdate tx.id fun tx => { tx with state := state, updatedAt := now }) := by
  refine owned_grows owned (grows_ledger rfl rfl rfl) fun after found direction rowId points => ?_
  rcases (mem_txUpdate keyed member _).mp found with rfl | ⟨old, -⟩
  · exact ⟨tx, member, direction, rfl, rfl, rfl, points⟩
  · exact ⟨after, old, direction, rfl, rfl, rfl, points⟩

/-- A new transaction is linked to nothing. -/
theorem owned_insert {domain : String} {db : Db} (owned : Owned domain db) {tx : Transaction}
    (unlinked : tx.messageRowId = none) :
    Owned domain { db with transactions := db.transactions ++ [tx] } := by
  refine owned_grows owned (grows_ledger rfl rfl rfl) fun after found direction rowId points => ?_
  rcases List.mem_append.mp found with old | new
  · exact ⟨after, old, direction, rfl, rfl, rfl, points⟩
  · rw [List.mem_singleton.mp new, unlinked] at points
    cases points

/-- The Sent mailbox a copy is stored in belongs to the address of its sender alone. -/
theorem sentOf_inserted {domain : String} {db : Db} (keyed : Keyed db) {username address : String}
    {user : User} {handle : Db.Handle} (found : db.getUser username = some user)
    (named : db.mailboxNamed user.id sent = .ok handle) (msg : NewMessage) (now : Int64) :
    SentOf domain (db.inserted handle msg now) address handle.id ↔
      address = localMailbox domain username := by
  obtain ⟨row, member, rfl, id⟩ := getUser_some found
  obtain ⟨box, inside, owner, name, rfl⟩ := mailboxNamed_ok named
  constructor
  · rintro ⟨other, otherMember, rfl, new, newInside, newOwner, -, newId⟩
    obtain ⟨old, oldInside, rfl⟩ := mem_update.mp newInside
    have same : old.id = box.id ∧ old.userId = other.id := by
      split at newId
      · exact ⟨newId, by rw [← newOwner, if_pos ‹_›]⟩
      · exact ⟨newId, by rw [← newOwner, if_neg ‹_›]⟩
    obtain rfl := eq_of_unique keyed.mailboxIds oldInside inside same.1
    rw [eq_of_unique keyed.userIds otherMember member
      (same.2.symm.trans (owner.trans id.symm))]
  · rintro rfl
    refine ⟨row, member, rfl, _, mem_inserted inside _ msg now, ?_⟩
    rw [if_pos rfl]
    exact ⟨owner.trans id.symm, name, rfl⟩

/-- A copy that is stored and linked to an outbound transaction of its message id belongs to it
exactly if the transaction has this sender and this recipient. -/
theorem owned_link_iff {domain : String} {db : Db} (keyed : Keyed db) (owned : Owned domain db)
    {tx : Transaction} (member : tx ∈ db.transactions) (direction : tx.direction = .outgoing)
    {username : String} {user : User} {handle : Db.Handle} {msg : NewMessage}
    (found : db.getUser username = some user) (named : db.mailboxNamed user.id sent = .ok handle)
    (messageId : msg.messageId = tx.messageId)
    (fresh : db.holds handle.id msg.messageId = false) (now : Int64) :
    Owned domain ((db.inserted handle msg now).txLinkMessage tx.id
        (nextId MessageRow.id db.messages) now) ↔
      tx.senderMailbox = localMailbox domain username ∧ tx.recipientMailbox = msg.sender := by
  have after := keyed_change keyed (.message handle msg now fresh ⟨_, _, named⟩)
  have grows := grows_inserted db handle msg now
  constructor
  · intro linked
    have inside := (mem_txUpdate after member fun tx => { tx with
      messageRowId := some (nextId MessageRow.id db.messages), updatedAt := now }).mpr (.inl rfl)
    obtain ⟨row, stored, id, -, sender, sentOf⟩ := linked _ inside direction _ rfl
    obtain rfl : row = db.newRow handle msg now := eq_of_unique after.rowIds stored
      (List.mem_append_right _ (List.mem_singleton_self _)) id
    exact ⟨(sentOf_inserted keyed found named msg now).mp sentOf, sender.symm⟩
  · rintro ⟨sender, recipient⟩ other inside outgoing rowId points
    rcases (mem_txUpdate after member _).mp inside with rfl | ⟨old, -⟩
    · obtain rfl := Option.some.inj points
      refine ⟨db.newRow handle msg now, List.mem_append_right _ (List.mem_singleton_self _), rfl,
        messageId, recipient.symm, ?_⟩
      exact (sentOf_inserted keyed found named msg now).mpr sender
    · exact copyOf_grows grows (owned other old outgoing rowId points)

/-- A send that leaves every transaction but one of its sender spares the others. -/
theorem spares_of_own {domain : String} {db after : Db} {username : String} {id : Nat}
    (others : ∀ tx ∈ db.transactions, tx.id ≠ id → tx ∈ after.transactions)
    (own : ∀ tx ∈ db.transactions, tx.id = id →
      tx.direction = .outgoing ∧ tx.senderMailbox = localMailbox domain username) :
    Spares domain db after username := by
  intro tx member notOwn
  have other : tx.id ≠ id := fun same => notOwn (own tx member same)
  exact ⟨tx, others tx member other, rfl, rfl, rfl⟩

/-- An attempt on a message id that is new to the ledger keeps everything in place. -/
theorem recordOutboundTx_new {domain : String} {db : Db} (keyed : Keyed db)
    (owned : Owned domain db) {tx : Transaction}
    (id : tx.id = nextId Transaction.id db.transactions)
    (fresh : ∀ other ∈ db.transactions, Db.txKey other ≠ Db.txKey tx)
    (direction : tx.direction = .outgoing) (unlinked : tx.messageRowId = none)
    (template : Template) {username recipientMailbox : String}
    (recipient : tx.recipientMailbox = recipientMailbox)
    (sender : tx.senderMailbox = localMailbox domain username) (body : List UInt8) (now : Int64) :
    Owned domain (sentCopy { db with transactions := db.transactions ++ [tx] } template username
        tx.senderMailbox recipientMailbox tx.messageId body tx.id now) ∧
      ∀ other ∈ db.transactions, other ∈ (sentCopy
        { db with transactions := db.transactions ++ [tx] } template username tx.senderMailbox
        recipientMailbox tx.messageId body tx.id now).transactions := by
  have middle := keyed_change keyed (.tx tx id fresh unlinked)
  have ownedMiddle := owned_insert owned unlinked
  have member : tx ∈ db.transactions ++ [tx] :=
    List.mem_append_right _ (List.mem_singleton_self _)
  rcases sentCopy_cases { db with transactions := db.transactions ++ [tx] } template username
    tx.senderMailbox recipientMailbox tx.messageId body tx.id now with
    ⟨-, kept⟩ | ⟨user, handle, msg, found, named, messageId, msgSender, free, stored⟩
  · rw [kept]
    exact ⟨ownedMiddle, fun other inside => List.mem_append_left _ inside⟩
  · rw [stored]
    rw [← messageId] at free
    constructor
    · refine (owned_link_iff middle ownedMiddle member direction found named messageId free
        now).mpr ⟨sender, ?_⟩
      rw [recipient, msgSender]
    · intro other inside
      have after := keyed_change middle (.message handle msg now free ⟨_, _, named⟩)
      refine (mem_txUpdate after member _).mpr (.inr ⟨List.mem_append_left _ inside, ?_⟩)
      rw [id]
      exact nextId_fresh Transaction.id db.transactions other inside

/-- An attempt on a message id with a transaction keeps everything in place exactly if it may touch
the transaction. -/
theorem recordOutboundTx_again {domain : String} {db : Db} (keyed : Keyed db)
    (owned : Owned domain db) {tx : Transaction} (member : tx ∈ db.transactions)
    (direction : tx.direction = .outgoing) (template : Template)
    (username senderMailbox recipientMailbox : String) (body : List UInt8) (state : TxState)
    (now : Int64) {after : Db}
    (done : after = sentCopy
      (db.txUpdate tx.id fun tx => { tx with state := state, updatedAt := now }) template username
      senderMailbox recipientMailbox tx.messageId body tx.id now) :
    (Owned domain after ∧ Spares domain db after username) ↔
      Touches domain db username recipientMailbox state tx := by
  have middle := keyed_change keyed (.txUpdate tx.id _ (keeps_transition state now))
  have ownedMiddle := owned_transition keyed owned member state now
  have moved := (mem_txUpdate keyed member
    fun tx => { tx with state := state, updatedAt := now }).mpr (.inl rfl)
  have others : ∀ other ∈ db.transactions, other.id ≠ tx.id →
      other ∈ (db.txUpdate tx.id fun tx =>
        { tx with state := state, updatedAt := now }).transactions :=
    fun other inside differs => (mem_txUpdate keyed member _).mpr (.inr ⟨inside, differs⟩)
  have ownTx : tx.senderMailbox = localMailbox domain username →
      ∀ other ∈ db.transactions, other.id = tx.id →
        other.direction = .outgoing ∧ other.senderMailbox = localMailbox domain username := by
    intro own other inside same
    rw [eq_of_unique keyed.txIds inside member same]
    exact ⟨direction, own⟩
  rcases sentCopy_cases (db.txUpdate tx.id fun tx => { tx with state := state, updatedAt := now })
    template username senderMailbox recipientMailbox tx.messageId body tx.id now with
    ⟨held, kept⟩ | ⟨user, handle, msg, found, named, messageId, msgSender, free, stored⟩
  · have noCopy : ¬Copies db username tx.messageId := by
      rintro ⟨user, handle, found, named, free⟩
      exact Bool.false_ne_true (free.symm.trans (held user handle found named))
    rw [done, kept, Touches]
    split
    · rename_i own
      exact iff_of_true ⟨ownedMiddle, spares_of_own others (ownTx own)⟩
        fun copies => absurd copies noCopy
    · rename_i other
      constructor
      · rintro ⟨-, spares⟩
        obtain ⟨same, inside, id, sameState, -⟩ := spares tx member fun own => other own.2
        rcases (mem_txUpdate keyed member _).mp inside with rfl | ⟨-, differs⟩
        · exact ⟨sameState.symm, noCopy⟩
        · exact absurd id differs
      · rintro ⟨sameState, -⟩
        refine ⟨ownedMiddle, fun old inside _ => ?_⟩
        by_cases same : old.id = tx.id
        · obtain rfl := eq_of_unique keyed.txIds inside member same
          exact ⟨_, moved, rfl, sameState.symm, rfl⟩
        · exact ⟨old, others old inside same, rfl, rfl, rfl⟩
  · have copies : Copies db username tx.messageId := ⟨user, handle, found, named, free⟩
    rw [← messageId] at free
    have after' := keyed_change middle (.message handle msg now free ⟨_, _, named⟩)
    have linked := owned_link_iff middle ownedMiddle moved direction found named messageId free now
    rw [done, stored, Touches]
    constructor
    · rintro ⟨ownedAfter, -⟩
      obtain ⟨own, recipient⟩ := linked.mp ownedAfter
      rw [if_pos own]
      exact fun _ => recipient.trans msgSender
    · intro touches
      split at touches
      · rename_i own
        refine ⟨linked.mpr ⟨own, (touches copies).trans msgSender.symm⟩, ?_⟩
        refine spares_of_own (fun other inside differs => ?_) (ownTx own)
        exact (mem_txUpdate after' moved _).mpr (.inr ⟨others other inside differs, differs⟩)
      · exact absurd copies touches.2

/-- An attempt keeps everything in place exactly if it may touch the transaction of its message
id. -/
theorem recordOutboundTx_iff {domain : String} {db : Db} (keyed : Keyed db)
    (owned : Owned domain db) (template : Template) (username recipientMailbox messageId : String)
    (payload : Payload) (body : List UInt8) (state : TxState) (now : Int64) {after : Db}
    (done : after = recordOutboundTx db template domain username recipientMailbox messageId payload
      body state now) :
    (Owned domain after ∧ Spares domain db after username) ↔
      ∀ tx ∈ db.transactions, Db.txKey tx = (.outgoing, messageId) →
        Touches domain db username recipientMailbox state tx := by
  obtain ⟨txId, middle, recorded, ⟨tx, member, key, rfl, rfl⟩ | ⟨fresh, rfl, rfl⟩⟩ :=
    recordOutboundTx_eq db template domain username recipientMailbox messageId payload body state
      now
  · obtain ⟨direction, rfl⟩ : tx.direction = .outgoing ∧ tx.messageId = messageId := Prod.mk.inj key
    rw [recordOutboundTx_again keyed owned member direction template username _ recipientMailbox
      body state now (done.trans recorded)]
    constructor
    · intro touches other inside same
      rwa [eq_of_unique keyed.txKeys inside member (same.trans key.symm)]
    · intro all
      exact all tx member key
  · refine iff_of_true ?_ fun tx member key => absurd key (fresh tx member)
    let tx := db.newTx (outboundTx (localMailbox domain username) recipientMailbox messageId payload
      body state) now
    have id : tx.id = nextId Transaction.id db.transactions := rfl
    obtain ⟨ownedAfter, kept⟩ :=
      recordOutboundTx_new keyed owned id fresh rfl rfl template rfl rfl body now
    rw [done, recorded]
    exact ⟨ownedAfter, fun tx member _ => ⟨tx, kept tx member, rfl, rfl, rfl⟩⟩

/-! ## Every history -/

/-- What happens at a daemon that expunges nothing. -/
inductive Step where
  /-- A user is created. -/
  | createUser (username passwordHash : String) (masterPubkey : List UInt8)
    (ivkCommitment registrationAttestation : Option String) (now : Int64)
  /-- A wire delivery. -/
  | deliver (delivery : Delivery) (now : Int64)
  /-- An emulated delivery. -/
  | emulate (recipient senderLabel amount messageId subject : String) (body : List UInt8)
    (now : Int64)
  /-- `SEND`. -/
  | send (request : SendRequest) (network : Network) (now : Int64)

/-- What a step leaves. -/
def step (template : Template) (domain : String) (db : Db) : Step → Db
  | .createUser username passwordHash masterPubkey ivkCommitment registrationAttestation now =>
    (db.createUserFull username passwordHash masterPubkey ivkCommitment registrationAttestation
      now).2
  | .deliver delivery now => (deliver template now delivery db).2
  | .emulate recipient senderLabel amount messageId subject body now =>
    (deliverEmulated db recipient senderLabel amount messageId subject body now).2
  | .send request network now => (send db template domain request network now).2

/-- A send spares the transactions of others. -/
def SparesOthers (template : Template) (domain : String) (db : Db) : Step → Prop
  | .send request network now =>
    Spares domain db (step template domain db (.send request network now)) request.senderUsername
  | _ => True

/-- Outbound transactions are linked to their copies, and sends spare those of others. -/
def Keeps (template : Template) (domain : String) (db : Db) (taken : Step) : Prop :=
  Owned domain (step template domain db taken) ∧ SparesOthers template domain db taken

/-- A send that is not refused may touch the transaction of its message id. -/
def UsesOwnIds (domain : String) (db : Db) : Step → Prop
  | .send request network _ =>
    request.senderUsername ≠ "" → (split '@' request.recipientMailbox)[1]? ≠ none →
      ∀ tx ∈ db.transactions, Db.txKey tx = (.outgoing, request.messageId) →
        Touches domain db request.senderUsername request.recipientMailbox
          (attempt request network).2 tx
  | _ => True

/-- A send is refused and changes nothing, or records its attempt. -/
theorem send_cases (db : Db) (template : Template) (domain : String) (request : SendRequest)
    (network : Network) (now : Int64) :
    ((request.senderUsername = "" ∨ (split '@' request.recipientMailbox)[1]? = none) ∧
      (send db template domain request network now).2 = db) ∨
    (request.senderUsername ≠ "" ∧ (split '@' request.recipientMailbox)[1]? ≠ none ∧
      (send db template domain request network now).2 = recordOutboundTx db template domain
        request.senderUsername request.recipientMailbox request.messageId request.payload
        request.body (attempt request network).2 now) := by
  unfold send
  split
  · rename_i empty
    exact .inl ⟨.inl empty, rfl⟩
  · rename_i named
    split
    · rename_i malformed
      exact .inl ⟨.inr malformed, rfl⟩
    · rename_i found
      exact .inr ⟨named, by rw [found]; exact nofun, rfl⟩

/-- A step keeps everything in place exactly if it uses a message id of its own. -/
theorem keeps_iff (template : Template) {domain : String} {db : Db} (keyed : Keyed db)
    (owned : Owned domain db) (taken : Step) :
    UsesOwnIds domain db taken ↔ Keeps template domain db taken := by
  cases taken with
  | createUser => exact iff_of_true trivial ⟨owned_createUserFull owned _ _ _ _ _ _, trivial⟩
  | deliver delivery now =>
    refine iff_of_true trivial ⟨?_, trivial⟩
    rcases deliver_cases template now delivery db with
      ⟨reason, -, refused⟩ | ⟨user, msg, -, -, -, done⟩
    · rw [step, refused]
      exact owned
    · rw [step, done]
      exact owned_store owned _ _ _ _ _
  | emulate recipient senderLabel amount messageId subject body now =>
    refine iff_of_true trivial ⟨?_, trivial⟩
    rcases deliverEmulated_cases db recipient senderLabel amount messageId subject body now with
      ⟨outcome, -, refused⟩ | ⟨user, msg, -, -, -, done⟩
    · rw [step, refused]
      exact owned
    · rw [step, done]
      exact owned_store owned _ _ _ _ _
  | send request network now =>
    rw [Keeps, SparesOthers, UsesOwnIds, step]
    rcases send_cases db template domain request network now with
      ⟨refused, kept⟩ | ⟨named, found, recorded⟩
    · rw [kept]
      refine iff_of_true (fun named found => ?_)
        ⟨owned, fun tx member _ => ⟨tx, member, rfl, rfl, rfl⟩⟩
      rcases refused with empty | malformed
      · exact absurd empty named
      · exact absurd malformed found
    · rw [recordOutboundTx_iff keyed owned template _ _ _ _ _ _ now recorded]
      exact ⟨fun touches => touches named found, fun touches _ _ => touches⟩

/-- The keys stay unique. -/
theorem keyed_step (template : Template) (domain : String) {db : Db} (keyed : Keyed db)
    (taken : Step) : Keyed (step template domain db taken) := by
  cases taken with
  | createUser => exact keyed_apply template domain keyed (.createUser ..)
  | deliver delivery now => exact keyed_apply template domain keyed (.deliver delivery now)
  | emulate => exact keyed_apply template domain keyed (.emulate ..)
  | send request network now =>
    rw [step]
    rcases send_cases db template domain request network now with
      ⟨-, kept⟩ | ⟨-, -, recorded⟩
    · rwa [kept]
    · rw [recorded]
      exact keyed_changes keyed (recordOutboundTx_changes ..)

/-- Over every history of users, deliveries and sends, outbound transactions are linked to rows of
their own senders' Sent mailboxes, with their message id and recipient, and no send changes the
state or the link of another sender's, exactly if every send on a message id with a transaction is
by its sender, and for its recipient when a copy is stored, or leaves it as it is. -/
theorem ownership_kept_iff_own_ids (template : Template) (domain : String) (steps : List Step) :
    Guarded (step template domain) (UsesOwnIds domain) .empty steps ↔
      Guarded (step template domain) (Keeps template domain) .empty steps := by
  have kept : ∀ db taken, Keyed db ∧ Owned domain db → UsesOwnIds domain db taken →
      Keyed (step template domain db taken) ∧ Owned domain (step template domain db taken) := by
    rintro db taken ⟨keyed, owned⟩ own
    exact ⟨keyed_step template domain keyed taken,
      ((keeps_iff template keyed owned taken).mp own).1⟩
  refine guarded_iff kept ?_ ⟨keyed_empty, fun _ member => absurd member List.not_mem_nil⟩ steps
  rintro db taken ⟨keyed, owned⟩
  exact keeps_iff template keyed owned taken

/-! ## Two senders, one message id -/

/-- A network that delivers. -/
def delivers : Network := ⟨.ok (), .ok "r.io:587", none, .ok (), .ok ()⟩

/-- Bob and carol send an invoice with one message id. -/
def sharedBySenders : List Step :=
  [.createUser "bob" "" [] none none 0, .createUser "carol" "" [] none none 0,
    .send ⟨"bob", "dan@r.io", "m1", .sealed, []⟩ delivers 0,
    .send ⟨"carol", "eve@r.io", "m1", .sealed, []⟩ delivers 0]

/-- Carol's send links bob's transaction to her copy. -/
theorem other_senders_copy_linked :
    ¬Guarded (step noTemplate "b.io") (Keeps noTemplate "b.io") .empty sharedBySenders := by
  rintro ⟨-, -, -, ⟨-, spares⟩, -⟩
  have spared : Spares "b.io" (run (step noTemplate "b.io") .empty (sharedBySenders.take 3))
      (run (step noTemplate "b.io") .empty sharedBySenders) "carol" := spares
  revert spared
  decide +kernel

end Talk.Verif.Ownership
