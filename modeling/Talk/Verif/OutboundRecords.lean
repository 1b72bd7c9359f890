import Talk.Verif.Inbox

/-!
# Repeated outbound attempts

The first attempt to send an invoice creates its transaction and stores its copy. Every further one
finds both, moves the transaction to its own outcome and is refused a second copy. So a store with
any number of attempts differs from the one before by one transaction, one message and one UID.
-/

namespace Talk.Verif.OutboundRecords

open Mailstore Table Daemon Protocol Transition StoreSteps Inbox

/-! ## Attempts -/

/-- What an invoice is sent with. -/
structure Invoice where
  /-- The sender's name. -/
  username : String
  /-- The recipient. -/
  recipientMailbox : String
  /-- The message id. -/
  messageId : String
  /-- How the invoice is carried. -/
  payload : Payload
  /-- The invoice. -/
  body : List UInt8

/-- The record of one attempt: its outcome, and when it was recorded. -/
def record (template : Template) (domain : String) (invoice : Invoice) (db : Db)
    (attempt : TxState × Int64) : Db :=
  recordOutboundTx db template domain invoice.username invoice.recipientMailbox invoice.messageId
    invoice.payload invoice.body attempt.1 attempt.2

/-- A transaction is an outbound one of a message id. -/
def isOutbound (messageId : String) (tx : Transaction) : Bool :=
  decide (Db.txKey tx = (.outgoing, messageId))

/-- A message is a copy of a message id in a mailbox. -/
def isCopy (mailboxId : Nat) (messageId : String) (row : MessageRow) : Bool :=
  decide ((row.mailboxId, row.messageId) = (mailboxId, messageId))

/-- A store has one record of an invoice more than another: a transaction, linked to a copy in the
Sent mailbox, and nothing else but the counter of that mailbox. -/
structure RecordedOnce (domain : String) (invoice : Invoice) (mailboxId : Nat) (state : TxState)
    (db after : Db) (tx : Transaction) (row : MessageRow) : Prop where
  /-- The only outbound transaction of the message id. -/
  transaction : after.transactions.filter (isOutbound invoice.messageId) = [tx]
  /-- The outcome of the last attempt. -/
  outcome : tx.state = state
  /-- What the first attempt has sent. -/
  contents : tx.outboundBody = some invoice.body ∧ tx.payload = invoice.payload.word ∧
    tx.senderMailbox = invoice.username ++ "@" ++ domain ∧
    tx.recipientMailbox = invoice.recipientMailbox
  /-- The only copy. -/
  copy : after.messages.filter (isCopy mailboxId invoice.messageId) = [row]
  /-- The copy is linked. -/
  linked : tx.messageRowId = some row.id
  /-- Every other transaction is as it was. -/
  otherTransactions :
    after.transactions.filter (fun tx => !isOutbound invoice.messageId tx) = db.transactions
  /-- Every other message is as it was. -/
  otherMessages :
    after.messages.filter (fun row => !isCopy mailboxId invoice.messageId row) = db.messages
  /-- The Sent mailbox has given out one UID; every other is as it was. -/
  mailboxes : after.mailboxes = update (fun box => decide (box.id = mailboxId))
    (fun box => { box with uidnext := box.uidnext + 1 }) db.mailboxes
  /-- Every user is as it was. -/
  users : after.users = db.users
  /-- Every keyring is as it was. -/
  keyring : after.keyring = db.keyring
  /-- Every share is as it was. -/
  shares : after.shares = db.shares

/-! ## One record -/

/-- A store with one more transaction and one more message. -/
def withRecord (db : Db) (handle : Db.Handle) (msg : NewMessage) (stored : Int64)
    (tx : Transaction) : Db :=
  { db.inserted handle msg stored with transactions := db.transactions ++ [tx] }

/-- The transaction of an invoice in a store, linked to the message that is stored next. -/
structure Sends (domain : String) (invoice : Invoice) (db : Db) (tx : Transaction) : Prop where
  /-- The id. -/
  id : tx.id = nextId Transaction.id db.transactions
  /-- The direction and the message id. -/
  key : Db.txKey tx = (.outgoing, invoice.messageId)
  /-- The contents. -/
  contents : tx.outboundBody = some invoice.body ∧ tx.payload = invoice.payload.word ∧
    tx.senderMailbox = invoice.username ++ "@" ++ domain ∧
    tx.recipientMailbox = invoice.recipientMailbox
  /-- The link. -/
  linked : tx.messageRowId = some (nextId MessageRow.id db.messages)

/-- A transition keeps all but the state. -/
theorem sends_transition {domain : String} {invoice : Invoice} {db : Db} {tx : Transaction}
    (sends : Sends domain invoice db tx) (state : TxState) (now : Int64) :
    Sends domain invoice db { tx with state := state, updatedAt := now } :=
  ⟨sends.id, sends.key, sends.contents, sends.linked⟩

/-- A sender with a Sent mailbox, and an invoice that neither the ledger nor the mailbox knows. -/
structure Ready (db : Db) (invoice : Invoice) (user : UserRow) (box : MailboxRow) : Prop where
  /-- The keys are unique. -/
  keyed : Keyed db
  /-- The sender exists. -/
  member : user ∈ db.users
  /-- Its name is the invoice's. -/
  name : user.username = invoice.username
  /-- The mailbox exists. -/
  found : box ∈ db.mailboxes
  /-- It is the sender's. -/
  owner : box.userId = user.id
  /-- It is the Sent mailbox. -/
  sentBox : box.name = sent
  /-- The message id has no outbound transaction. -/
  newTx : ∀ tx ∈ db.transactions, isOutbound invoice.messageId tx = false
  /-- The mailbox holds no copy. -/
  newCopy : ∀ row ∈ db.messages, isCopy box.id invoice.messageId row = false

/-- What `mailbox_named` reads of a mailbox. -/
def handleOf (box : MailboxRow) : Db.Handle := ⟨box.id, box.uidvalidity, box.uidnext⟩

variable {template : Template} {domain : String} {invoice : Invoice} {db : Db} {user : UserRow}
  {box : MailboxRow}

/-- The mailbox does not hold the message id. -/
theorem Ready.free (ready : Ready db invoice user box) :
    db.holds box.id invoice.messageId = false := by
  refine not_holds_iff.mpr fun row stored => ?_
  simpa [isCopy] using ready.newCopy row stored

/-- The sender's Sent mailbox is found by its name. -/
theorem Ready.lookup (ready : Ready db invoice user box) :
    ∃ found, db.getUser invoice.username = some found ∧
      db.mailboxNamed found.id sent = .ok (handleOf box) := by
  obtain ⟨found, lookup, id⟩ := getUser_of_mem ready.keyed ready.member
  rw [ready.name] at lookup
  refine ⟨found, lookup, ?_⟩
  rw [id, ← ready.owner, ← ready.sentBox]
  exact mailboxNamed_of_mem ready.keyed ready.found

/-- After an insert the sender's Sent mailbox is the same one. -/
theorem Ready.home (ready : Ready db invoice user box) {found : User}
    (named : db.mailboxNamed found.id sent = .ok (handleOf box)) (handle : Db.Handle)
    (msg : NewMessage) (stored : Int64) {again : Db.Handle}
    (later : (db.inserted handle msg stored).mailboxNamed found.id sent = .ok again) :
    again.id = box.id := by
  obtain ⟨first, firstInside, firstOwner, firstName, same⟩ := mailboxNamed_ok named
  obtain ⟨new, inside, owner, name, rfl⟩ := mailboxNamed_ok later
  obtain ⟨old, oldInside, rfl⟩ := mem_update.mp inside
  have kept : ∀ box : MailboxRow, ∀ select : Bool,
      (if select then { box with uidnext := box.uidnext + 1 } else box).id = box.id ∧
      (if select then { box with uidnext := box.uidnext + 1 } else box).userId = box.userId ∧
      (if select then { box with uidnext := box.uidnext + 1 } else box).name = box.name := by
    intro box select
    cases select with
    | false => exact ⟨rfl, rfl, rfl⟩
    | true => exact ⟨rfl, rfl, rfl⟩
  obtain ⟨oldId, oldOwner, oldName⟩ := kept old (decide (old.id = handle.id))
  rw [oldOwner] at owner
  rw [oldName] at name
  obtain rfl := eq_of_unique ready.keyed.mailboxNames oldInside firstInside
    (Prod.ext (owner.trans firstOwner.symm) (name.trans firstName.symm))
  have id : box.id = old.id := congrArg Db.Handle.id same
  rw [id]
  exact oldId

/-- The first attempt adds the record. -/
theorem record_first (template : Template) (domain : String) (ready : Ready db invoice user box)
    (attempt : TxState × Int64) :
    ∃ msg tx, msg.messageId = invoice.messageId ∧ Sends domain invoice db tx ∧
      tx.state = attempt.1 ∧
      record template domain invoice db attempt =
        withRecord db (handleOf box) msg attempt.2 tx := by
  obtain ⟨found, lookup, named⟩ := ready.lookup
  obtain ⟨txId, middle, done, ⟨tx, member, key, -, -⟩ | ⟨-, rfl, rfl⟩⟩ := recordOutboundTx_eq db
    template domain invoice.username invoice.recipientMailbox invoice.messageId invoice.payload
    invoice.body attempt.1 attempt.2
  · have known := ready.newTx tx member
    rw [isOutbound, decide_eq_true key] at known
    cases known
  · generalize created : db.newTx (outboundTx (invoice.username ++ "@" ++ domain)
      invoice.recipientMailbox invoice.messageId invoice.payload invoice.body attempt.1)
      attempt.2 = tx at done
    rcases sentCopy_cases { db with transactions := db.transactions ++ [tx] } template
      invoice.username (invoice.username ++ "@" ++ domain) invoice.recipientMailbox
      invoice.messageId invoice.body (nextId Transaction.id db.transactions) attempt.2 with
      ⟨held, -⟩ | ⟨other, handle, msg, otherLookup, otherNamed, messageId, -, -, stored⟩
    · have holds := held found (handleOf box) lookup named
      have free := ready.free
      rw [show db.holds box.id invoice.messageId = true from holds] at free
      cases free
    · obtain rfl : found = other := Option.some.inj (lookup.symm.trans otherLookup)
      obtain rfl : handleOf box = handle := Except.ok.inj (named.symm.trans otherNamed)
      have id : tx.id = nextId Transaction.id db.transactions := by rw [← created]; rfl
      refine ⟨msg, { tx with messageRowId := some (nextId MessageRow.id db.messages),
                             updatedAt := attempt.2 }, messageId, ⟨id, ?_, ?_, rfl⟩, ?_, ?_⟩
      · rw [← created]
        rfl
      · rw [← created]
        exact ⟨rfl, rfl, rfl, rfl⟩
      · rw [← created]
        rfl
      · rw [record, done, stored]
        exact @txLinkMessage_insert (db.inserted (handleOf box) msg attempt.2) tx id _ _

/-- A further attempt moves the transaction. -/
theorem record_again (ready : Ready db invoice user box) {msg : NewMessage}
    (messageId : msg.messageId = invoice.messageId) {tx : Transaction}
    (sends : Sends domain invoice db tx) (stored : Int64) (attempt : TxState × Int64) :
    record template domain invoice (withRecord db (handleOf box) msg stored tx) attempt =
      withRecord db (handleOf box) msg stored
        { tx with state := attempt.1, updatedAt := attempt.2 } := by
  obtain ⟨found, lookup, named⟩ := ready.lookup
  have fresh : ∀ other ∈ db.transactions, Db.txKey other ≠ Db.txKey tx := by
    intro other member same
    have known := ready.newTx other member
    rw [isOutbound, decide_eq_true (same.trans sends.key)] at known
    cases known
  obtain ⟨txId, middle, done, ⟨other, member, key, rfl, rfl⟩ | ⟨unknown, -, -⟩⟩ :=
    recordOutboundTx_eq (withRecord db (handleOf box) msg stored tx) template domain
      invoice.username invoice.recipientMailbox invoice.messageId invoice.payload invoice.body
      attempt.1 attempt.2
  · -- The transaction that is found is the one of the first attempt.
    obtain rfl : other = tx := by
      rcases List.mem_append.mp member with old | new
      · exact absurd (key.trans sends.key.symm) (fresh other old)
      · exact List.mem_singleton.mp new
    have moved : (withRecord db (handleOf box) msg stored other).txUpdate other.id
          (fun tx => { tx with state := attempt.1, updatedAt := attempt.2 }) =
        withRecord db (handleOf box) msg stored
          { other with state := attempt.1, updatedAt := attempt.2 } := by
      have selects : (fun tx : Transaction => decide (tx.id = other.id)) =
          fun tx => decide (tx.id = nextId Transaction.id db.transactions) := by
        rw [sends.id]
      rw [Db.txUpdate, withRecord, selects]
      dsimp only
      rw [update_insert sends.id]
      rfl
    rw [record, done, moved]
    rcases sentCopy_cases (withRecord db (handleOf box) msg stored
        { other with state := attempt.1, updatedAt := attempt.2 }) template invoice.username
        (invoice.username ++ "@" ++ domain) invoice.recipientMailbox invoice.messageId invoice.body
        other.id attempt.2 with
      ⟨-, kept⟩ | ⟨again, handle, copy, againLookup, againNamed, -, -, free, -⟩
    · exact kept
    · -- The mailbox is found again, and holds the copy of the first attempt.
      obtain rfl : found = again := Option.some.inj (lookup.symm.trans againLookup)
      have home : handle.id = box.id := ready.home named (handleOf box) msg stored againNamed
      rw [home] at free
      have held : (db.inserted (handleOf box) msg stored).holds box.id invoice.messageId = true :=
        holds_inserted.mpr (.inr ⟨rfl, messageId.symm⟩)
      exact absurd (free.symm.trans held) Bool.false_ne_true
  · exact absurd sends.key (unknown tx (List.mem_append_right _ (List.mem_singleton_self _)))

/-- Any number of further attempts moves the transaction to the outcome of the last one. -/
theorem record_more (ready : Ready db invoice user box) {msg : NewMessage}
    (messageId : msg.messageId = invoice.messageId) {tx : Transaction}
    (sends : Sends domain invoice db tx) (stored : Int64) (attempts : List (TxState × Int64)) :
    ∃ last, Sends domain invoice db last ∧
      last.state = (attempts.getLast?.map Prod.fst).getD tx.state ∧
      attempts.foldl (record template domain invoice)
          (withRecord db (handleOf box) msg stored tx) =
        withRecord db (handleOf box) msg stored last := by
  induction attempts generalizing tx with
  | nil => exact ⟨tx, sends, rfl, rfl⟩
  | cons attempt attempts ih =>
    rw [List.foldl_cons, record_again ready messageId sends]
    obtain ⟨last, lastSends, state, done⟩ := ih (sends_transition sends attempt.1 attempt.2)
    refine ⟨last, lastSends, ?_, done⟩
    rw [state, List.getLast?_cons]
    cases attempts.getLast? with
    | none => rfl
    | some final => rfl

/-- A store with a record has one record more. -/
theorem recordedOnce_withRecord (ready : Ready db invoice user box) {msg : NewMessage}
    (messageId : msg.messageId = invoice.messageId) {tx : Transaction}
    (sends : Sends domain invoice db tx) (stored : Int64) :
    RecordedOnce domain invoice box.id tx.state db (withRecord db (handleOf box) msg stored tx) tx
      (db.newRow (handleOf box) msg stored) := by
  have noTx : db.transactions.filter (isOutbound invoice.messageId) = [] :=
    List.filter_eq_nil_iff.mpr fun tx member => by simp [ready.newTx tx member]
  have noCopy : db.messages.filter (isCopy box.id invoice.messageId) = [] :=
    List.filter_eq_nil_iff.mpr fun row member => by simp [ready.newCopy row member]
  have allTxs : db.transactions.filter (fun tx => !isOutbound invoice.messageId tx) =
      db.transactions :=
    List.filter_eq_self.mpr fun tx member => by simp [ready.newTx tx member]
  have allRows : db.messages.filter (fun row => !isCopy box.id invoice.messageId row) =
      db.messages :=
    List.filter_eq_self.mpr fun row member => by simp [ready.newCopy row member]
  have outbound : isOutbound invoice.messageId tx = true := decide_eq_true sends.key
  have copied : isCopy box.id invoice.messageId (db.newRow (handleOf box) msg stored) = true :=
    decide_eq_true (Prod.ext rfl messageId)
  refine ⟨?_, rfl, sends.contents, ?_, sends.linked, ?_, ?_, rfl, rfl, rfl, rfl⟩
  · rw [withRecord, List.filter_append, noTx, List.filter_singleton, outbound]
    rfl
  · rw [withRecord, Db.inserted, List.filter_append, noCopy, List.filter_singleton, copied]
    rfl
  · rw [withRecord, List.filter_append, allTxs, List.filter_singleton, outbound]
    simp
  · rw [withRecord, Db.inserted, List.filter_append, allRows, List.filter_singleton, copied]
    simp

/-- Any number of attempts to send an invoice that neither the ledger nor the sender's Sent mailbox
knows leaves one outbound transaction of its message id, with the outcome of the last attempt and
the invoice of the first, linked to one copy, and everything else as it was but the UID counter of
the Sent mailbox, which is one higher. -/
theorem attempts_record_once (template : Template) (domain : String)
    (ready : Ready db invoice user box) (attempts : List (TxState × Int64))
    (last : TxState × Int64) :
    ∃ tx row, RecordedOnce domain invoice box.id last.1 db
      ((attempts ++ [last]).foldl (record template domain invoice) db) tx row := by
  have split : ∃ first more, attempts ++ [last] = first :: more ∧
      (more.getLast?.map Prod.fst).getD first.1 = last.1 := by
    cases attempts with
    | nil => exact ⟨last, [], rfl, rfl⟩
    | cons first more => exact ⟨first, more ++ [last], rfl, by simp⟩
  obtain ⟨first, more, same, final⟩ := split
  obtain ⟨msg, tx, messageId, sends, state, created⟩ :=
    record_first template domain ready first
  obtain ⟨moved, movedSends, movedState, done⟩ := record_more ready messageId sends first.2 more
  rw [same, List.foldl_cons, created, done, ← final, ← state, ← movedState]
  exact ⟨moved, _, recordedOnce_withRecord ready messageId movedSends first.2⟩

/-! ## Bob sends -/

/-- A store with bob alone. -/
def bobStore : Db := run (apply noTemplate "b.io") .empty [createBob]

/-- Bob's invoice. -/
def bobInvoice : Invoice := ⟨"bob", "dan@r.io", "m1", .sealed, [1]⟩

/-- Bob is ready to send. -/
theorem bob_ready :
    Ready bobStore bobInvoice ⟨1, "bob", "", [], 0, none, none⟩ ⟨2, 1, sent, 0, 1⟩ :=
  ⟨keyed_apply noTemplate "b.io" keyed_empty createBob, by decide +kernel, rfl, by decide +kernel,
    rfl, rfl, by decide +kernel, by decide +kernel⟩

/-- Two attempts, of which the second succeeds. -/
def retried : List (TxState × Int64) := [(.retrying, 0), (.sent, 1)]

/-- A retry of bob's that succeeds is recorded once. -/
theorem bob_recorded_once :
    ∃ tx row, RecordedOnce "b.io" bobInvoice 2 .sent bobStore
      (retried.foldl (record noTemplate "b.io" bobInvoice) bobStore) tx row :=
  attempts_record_once noTemplate "b.io" bob_ready [(.retrying, 0)] (.sent, 1)

/-- Carol's invoice, with the same message id. -/
def carolInvoice : Invoice := ⟨"carol", "dan@r.io", "m1", .sealed, [2]⟩

/-- A store where carol has sent hers. -/
def carolStore : Db :=
  record noTemplate "b.io" carolInvoice
    (run (apply noTemplate "b.io") .empty [createBob, .createUser "carol" "" [] none none 0])
    (.sent, 0)

/-- An attempt changes the row of the Sent mailbox too, and on a message id that the ledger knows
it leaves the invoice of another. -/
theorem attempt_counts_and_keeps_older_body :
    (record noTemplate "b.io" bobInvoice bobStore (.sent, 0)).mailboxes ≠ bobStore.mailboxes ∧
      ∀ tx ∈ (record noTemplate "b.io" bobInvoice carolStore (.sent, 0)).transactions,
        isOutbound bobInvoice.messageId tx = true → tx.outboundBody ≠ some bobInvoice.body := by
  decide +kernel

end Talk.Verif.OutboundRecords
