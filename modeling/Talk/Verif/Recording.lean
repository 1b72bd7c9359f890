import Talk.Verif.Inbox

/-!
# Accepted deliveries in the ledger

A delivery that is accepted is recorded under its message id, which is a key of the ledger for the
whole server, while the INBOX that accepts it only knows the message ids of one user. So an
accepted delivery is in the ledger exactly if its message id has no inbound transaction yet, or
has one that already says what this delivery's would.
-/

namespace Talk.Verif.Recording

open Mailstore Table Daemon Protocol Transition StoreSteps Inbox

/-! ## What the ledger has to say -/

/-- A transaction says that an invoice was received as a message row. -/
def Records (senderMailbox recipientMailbox messageId : String) (rowId : Nat)
    (tx : Transaction) : Prop :=
  tx.direction = .incoming ∧ tx.messageId = messageId ∧ tx.senderMailbox = senderMailbox ∧
    tx.recipientMailbox = recipientMailbox ∧ tx.messageRowId = some rowId

/-- A transaction records the new row in the INBOX of the recipient. -/
def InLedger (db after : Db) (senderMailbox recipientMailbox messageId : String) : Prop :=
  ∃ row ∈ after.messages, row ∉ db.messages ∧ row.messageId = messageId ∧
    InboxOf after (mailboxUser recipientMailbox) row.mailboxId ∧
    ∃ tx ∈ after.transactions, Records senderMailbox recipientMailbox messageId row.id tx

instance (senderMailbox recipientMailbox messageId : String) (rowId : Nat) (tx : Transaction) :
    Decidable (Records senderMailbox recipientMailbox messageId rowId tx) :=
  inferInstanceAs (Decidable (_ ∧ _))

instance (db : Db) (username : String) (mailboxId : Nat) :
    Decidable (InboxOf db username mailboxId) :=
  inferInstanceAs (Decidable (∃ _ ∈ _, _))

instance (db after : Db) (senderMailbox recipientMailbox messageId : String) :
    Decidable (InLedger db after senderMailbox recipientMailbox messageId) :=
  inferInstanceAs (Decidable (∃ _ ∈ _, _))

/-- An accepted delivery is in the ledger. -/
def Recorded (template : Template) (db : Db) : Operation → Prop
  | .deliver delivery now =>
    (deliver template now delivery db).1 = .accepted delivery.messageId →
      InLedger db (deliver template now delivery db).2 delivery.senderMailbox
        delivery.recipientMailbox delivery.messageId
  | .emulate recipient senderLabel amount messageId subject body now =>
    (deliverEmulated db recipient senderLabel amount messageId subject body now).1 =
        .accepted messageId →
      InLedger db (deliverEmulated db recipient senderLabel amount messageId subject body now).2
        senderLabel recipient messageId
  | _ => True

/-- Whether an operation is recorded can be decided. -/
instance Recorded.decidable (template : Template) (db : Db) :
    ∀ operation, Decidable (Recorded template db operation)
  | .deliver .. => inferInstanceAs (Decidable (_ → _))
  | .emulate .. => inferInstanceAs (Decidable (_ → _))
  | .createUser .. => isTrue trivial
  | .recordOutbound .. => isTrue trivial
  | .setFlags .. => isTrue trivial
  | .expunge .. => isTrue trivial
  | .transition .. => isTrue trivial

/-- An invoice that will be stored finds no inbound transaction of its message id, or one that
records it already. -/
def Unused (db : Db) (senderMailbox recipientMailbox messageId : String) : Prop :=
  Known db (mailboxUser recipientMailbox) → ¬Held db (mailboxUser recipientMailbox) messageId →
    ∀ tx ∈ db.transactions, tx.direction = .incoming → tx.messageId = messageId →
      Records senderMailbox recipientMailbox messageId (nextId MessageRow.id db.messages) tx

/-- Deliveries use message ids that the ledger does not know. -/
def UsesNewIds (db : Db) : Operation → Prop
  | .deliver delivery _ =>
    Unused db delivery.senderMailbox delivery.recipientMailbox delivery.messageId
  | .emulate recipient senderLabel _ messageId _ _ _ => Unused db senderLabel recipient messageId
  | _ => True

/-! ## One delivery -/

/-- A message is recorded exactly if no transaction of its message id says something else. -/
theorem recordInboundTx_iff {db : Db} (keyed : Keyed db) (senderMailbox recipientMailbox amount
    messageId : String) (rowId : Nat) (now : Int64) :
    (∃ tx ∈ (recordInboundTx db senderMailbox recipientMailbox amount messageId rowId
        now).transactions, Records senderMailbox recipientMailbox messageId rowId tx) ↔
      ∀ tx ∈ db.transactions, tx.direction = .incoming → tx.messageId = messageId →
        Records senderMailbox recipientMailbox messageId rowId tx := by
  rcases recordInboundTx_cases db senderMailbox recipientMailbox amount messageId rowId now with
    ⟨⟨old, member, key⟩, kept⟩ | ⟨fresh, recorded⟩
  · rw [kept]
    constructor
    · rintro ⟨tx, found, records⟩ other inside direction id
      have same : other = tx := eq_of_unique keyed.txKeys inside found
        (Prod.ext (direction.trans records.1.symm) (id.trans records.2.1.symm))
      rw [same]
      exact records
    · intro all
      exact ⟨old, member, all old member (congrArg Prod.fst key) (congrArg Prod.snd key)⟩
  · refine iff_of_true ?_ fun tx member direction id =>
      absurd (Prod.ext direction id) (fresh tx member)
    rw [recorded]
    refine ⟨_, mem_update.mpr ⟨_, List.mem_append_right _ (List.mem_singleton_self _),
      (if_pos (decide_eq_true rfl)).symm⟩, ?_⟩
    exact ⟨rfl, rfl, rfl, rfl, rfl⟩

/-- A stored message is in the ledger exactly if no transaction of its message id says something
else. -/
theorem store_inLedger_iff {db : Db} (keyed : Keyed db) (furnished : Furnished db) {user : UserRow}
    (member : user ∈ db.users) (msg : NewMessage) {recipientMailbox : String}
    (name : user.username = mailboxUser recipientMailbox) (amount : String) (now : Int64)
    (fresh : ¬Held db user.username msg.messageId) :
    InLedger db (store db user.id msg recipientMailbox amount now).2 msg.sender recipientMailbox
        msg.messageId ↔
      ∀ tx ∈ db.transactions, tx.direction = .incoming → tx.messageId = msg.messageId →
        Records msg.sender recipientMailbox msg.messageId (nextId MessageRow.id db.messages)
          tx := by
  obtain ⟨box, found, owner, boxName⟩ := furnished user member
  have inboxOf : InboxOf db user.username box.id :=
    ⟨user, member, rfl, box, found, owner, boxName, rfl⟩
  have lookup : db.mailboxNamed user.id inbox = .ok ⟨box.id, box.uidvalidity, box.uidnext⟩ := by
    rw [← owner, ← boxName]
    exact mailboxNamed_of_mem keyed found
  rcases store_cases db user.id msg recipientMailbox amount now with
    ⟨missing, -⟩ | ⟨handle, named, ⟨holds, -⟩ | ⟨free, stored⟩⟩
  · rw [lookup] at missing
    cases missing
  · obtain rfl := Except.ok.inj (lookup.symm.trans named)
    exact absurd ((held_iff keyed inboxOf _).mpr holds) fresh
  · obtain rfl := Except.ok.inj (lookup.symm.trans named)
    have inserted := keyed_change keyed (.message _ msg now free ⟨_, _, lookup⟩)
    have records := recordInboundTx_iff inserted msg.sender recipientMailbox amount msg.messageId
      (nextId MessageRow.id db.messages) now
    obtain ⟨ledger, tables⟩ := recordInboundTx_tables
      (db.inserted ⟨box.id, box.uidvalidity, box.uidnext⟩ msg now) msg.sender recipientMailbox
      amount msg.messageId (nextId MessageRow.id db.messages) now
    rw [stored]
    dsimp only
    refine Iff.trans ?_ records
    rw [tables]
    constructor
    · rintro ⟨row, inside, new, -, -, recorded⟩
      -- The only new row is the one that was inserted.
      rcases List.mem_append.mp inside with old | added
      · exact absurd old new
      · rw [List.mem_singleton.mp added] at recorded
        exact recorded
    · intro recorded
      refine ⟨_, List.mem_append_right _ (List.mem_singleton_self _), fun old => ?_, rfl, ?_,
        recorded⟩
      · exact nextId_fresh MessageRow.id db.messages _ old rfl
      · rw [← name]
        exact (@inboxOf_inserted db ⟨box.id, box.uidvalidity, box.uidnext⟩ msg now _ _).mpr inboxOf

/-- An accepted message is in the ledger exactly if its message id is new to it. -/
theorem store_recorded_iff {db : Db} (keyed : Keyed db) (furnished : Furnished db)
    {user : UserRow} (member : user ∈ db.users) (msg : NewMessage) {recipientMailbox : String}
    (known : Known db (mailboxUser recipientMailbox))
    (name : user.username = mailboxUser recipientMailbox) (amount : String) (now : Int64) :
    Unused db msg.sender recipientMailbox msg.messageId ↔
      ((store db user.id msg recipientMailbox amount now).1 = .accepted msg.messageId →
        InLedger db (store db user.id msg recipientMailbox amount now).2 msg.sender
          recipientMailbox msg.messageId) := by
  rcases store_spec keyed furnished member msg recipientMailbox amount now with
    ⟨held, refused⟩ | ⟨fresh, after, accepted, -⟩
  · refine iff_of_true (fun _ free => ?_) fun outcome => ?_
    · rw [← name] at free
      exact absurd held free
    · rw [refused] at outcome
      cases outcome
  · rw [store_inLedger_iff keyed furnished member msg name amount now fresh, accepted]
    rw [name] at fresh
    exact ⟨fun unused _ => unused known fresh, fun recorded _ _ => recorded rfl⟩

/-! ## Every history -/

/-- A refused delivery has nothing to record. -/
theorem unused_of_unknown {db : Db} {recipientMailbox : String}
    (unknown : ¬Known db (mailboxUser recipientMailbox)) (senderMailbox messageId : String) :
    Unused db senderMailbox recipientMailbox messageId :=
  fun known => absurd known unknown

/-- An operation records what it accepts exactly if its message id is new to the ledger. -/
theorem recorded_iff {db : Db} (keyed : Keyed db) (furnished : Furnished db) (template : Template)
    (operation : Operation) : UsesNewIds db operation ↔ Recorded template db operation := by
  cases operation with
  | deliver delivery now =>
    rcases recipientUser_cases keyed delivery.recipientMailbox with
      ⟨unknown, missing⟩ | ⟨user, known, found, row, member, name, id⟩
    · refine iff_of_true (unused_of_unknown unknown _ _) fun accepted => ?_
      rw [deliver, missing] at accepted
      cases accepted
    · rcases deliver_cases template now delivery db with
        ⟨reason, missing, -⟩ | ⟨other, msg, same, messageId, sender, done⟩
      · rw [found] at missing
        cases missing
      · obtain rfl := Except.ok.inj (found.symm.trans same)
        rw [UsesNewIds, Recorded, done, ← messageId, ← sender, ← id]
        exact store_recorded_iff keyed furnished member msg known name "" now
  | emulate recipient senderLabel amount messageId subject body now =>
    rcases recipientUser_cases keyed recipient with
      ⟨unknown, missing⟩ | ⟨user, known, found, row, member, name, id⟩
    · refine iff_of_true (unused_of_unknown unknown _ _) fun accepted => ?_
      rw [deliverEmulated, missing] at accepted
      cases accepted
    · rcases deliverEmulated_cases db recipient senderLabel amount messageId subject body now with
        ⟨outcome, missing, -⟩ | ⟨other, msg, same, rfl, rfl, done⟩
      · rw [found] at missing
        cases missing
      · obtain rfl := Except.ok.inj (found.symm.trans same)
        rw [UsesNewIds, Recorded, done, ← id]
        exact store_recorded_iff keyed furnished member msg known name amount now
  | createUser => exact Iff.rfl
  | recordOutbound => exact Iff.rfl
  | setFlags => exact Iff.rfl
  | expunge => exact Iff.rfl
  | transition => exact Iff.rfl

/-- Over every history, each accepted delivery has an inbound transaction with its mailboxes and its
message id that points at its new INBOX row, exactly if each finds no inbound transaction of its
message id, or one left behind that says just that. -/
theorem deliveries_recorded_iff_new_ids (template : Template) (domain : String)
    (operations : List Operation) :
    Guarded (apply template domain) UsesNewIds .empty operations ↔
      Guarded (apply template domain) (Recorded template) .empty operations := by
  have kept : ∀ db operation, Keyed db ∧ Furnished db → UsesNewIds db operation →
      Keyed (apply template domain db operation) ∧
        Furnished (apply template domain db operation) := by
    rintro db operation ⟨keyed, furnished⟩ -
    exact ⟨keyed_apply template domain keyed operation,
      furnished_apply template domain keyed furnished operation⟩
  refine guarded_iff kept ?_ ⟨keyed_empty, nofun⟩ operations
  rintro db operation ⟨keyed, furnished⟩
  exact recorded_iff keyed furnished template operation

/-! ## One message id for two users -/

/-- Another user is created, and both receive an invoice with one message id. -/
def sharedId : List Operation :=
  [createBob, .createUser "carol" "" [] none none 0, .deliver (invoice "m1") 0,
    .deliver ⟨"alice@a.io", "m1", "carol@b.io", .sealed, []⟩ 0]

/-- The second invoice is accepted, and the ledger does not know it. -/
theorem second_recipient_unrecorded :
    ¬Guarded (apply noTemplate "b.io") (Recorded noTemplate) .empty sharedId := by
  decide +kernel

end Talk.Verif.Recording
