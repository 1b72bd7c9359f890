import Talk.Verif.StoreSteps

/-!
# What the inboxes hold

The inboxes as pairs of a user name and a message id: what a delivery answers is decided by them,
and every operation is described by the pairs it adds and removes. Only deliveries add one, and
only expunges remove any.
-/

namespace Talk.Verif.Inbox

open Mailstore Table Daemon Protocol Transition StoreSteps

/-! ## Pairs -/

/-- A user has an INBOX. -/
def InboxOf (db : Db) (username : String) (mailboxId : Nat) : Prop :=
  ∃ user ∈ db.users, user.username = username ∧
    ∃ box ∈ db.mailboxes, box.userId = user.id ∧ box.name = inbox ∧ box.id = mailboxId

/-- The INBOX of a user holds a message id. -/
def Held (db : Db) (username messageId : String) : Prop :=
  ∃ mailboxId, InboxOf db username mailboxId ∧ db.holds mailboxId messageId = true

/-- Every user has an INBOX. -/
def Furnished (db : Db) : Prop :=
  ∀ user ∈ db.users, ∃ box ∈ db.mailboxes, box.userId = user.id ∧ box.name = inbox

/-- A name that a delivery finds. -/
def Known (db : Db) (username : String) : Prop :=
  username ≠ "" ∧ ∃ user ∈ db.users, user.username = username

/-- A user has one INBOX. -/
theorem inboxOf_unique {db : Db} (keyed : Keyed db) {username : String} {left right : Nat}
    (leftOf : InboxOf db username left) (rightOf : InboxOf db username right) : left = right := by
  obtain ⟨user, member, name, box, found, owner, boxName, rfl⟩ := leftOf
  obtain ⟨other, otherMember, same, box', found', owner', boxName', rfl⟩ := rightOf
  obtain rfl := eq_of_unique keyed.usernames member otherMember (name.trans same.symm)
  rw [eq_of_unique keyed.mailboxNames found found'
    (Prod.ext (owner.trans owner'.symm) (boxName.trans boxName'.symm))]

/-- An INBOX has one user. -/
theorem inboxOf_owner {db : Db} (keyed : Keyed db) {left right : String} {mailboxId : Nat}
    (leftOf : InboxOf db left mailboxId) (rightOf : InboxOf db right mailboxId) : left = right := by
  obtain ⟨user, member, name, box, found, owner, -, id⟩ := leftOf
  obtain ⟨other, otherMember, same, box', found', owner', -, id'⟩ := rightOf
  obtain rfl := eq_of_unique keyed.mailboxIds found found' (id.trans id'.symm)
  obtain rfl := eq_of_unique keyed.userIds member otherMember (owner.symm.trans owner')
  exact name.symm.trans same

/-- What an INBOX holds is what its user's holds. -/
theorem held_iff {db : Db} (keyed : Keyed db) {username : String} {mailboxId : Nat}
    (inboxOf : InboxOf db username mailboxId) (messageId : String) :
    Held db username messageId ↔ db.holds mailboxId messageId = true := by
  constructor
  · rintro ⟨other, otherOf, holds⟩
    rwa [inboxOf_unique keyed inboxOf otherOf]
  · intro holds
    exact ⟨mailboxId, inboxOf, holds⟩

/-- The pairs only depend on the users, the mailboxes and the messages. -/
theorem held_ledger (db : Db) (ledger : List Transaction) (username messageId : String) :
    Held { db with transactions := ledger } username messageId ↔ Held db username messageId :=
  Iff.rfl

/-- An insert keeps the inboxes. -/
theorem inboxOf_inserted {db : Db} {handle : Db.Handle} {msg : NewMessage} {now : Int64}
    {username : String} {mailboxId : Nat} :
    InboxOf (db.inserted handle msg now) username mailboxId ↔ InboxOf db username mailboxId := by
  constructor
  · rintro ⟨user, member, name, box, found, rest⟩
    obtain ⟨old, inside, rfl⟩ := mem_update.mp found
    refine ⟨user, member, name, old, inside, ?_⟩
    split at rest
    · exact rest
    · exact rest
  · rintro ⟨user, member, name, box, found, owner, boxName, id⟩
    refine ⟨user, member, name, _, mem_inserted found handle msg now, ?_⟩
    split
    · exact ⟨owner, boxName, id⟩
    · exact ⟨owner, boxName, id⟩

/-- What a mailbox holds after an insert. -/
theorem holds_inserted {db : Db} {handle : Db.Handle} {msg : NewMessage} {now : Int64}
    {mailboxId : Nat} {messageId : String} :
    (db.inserted handle msg now).holds mailboxId messageId = true ↔
      db.holds mailboxId messageId = true ∨
        (mailboxId = handle.id ∧ messageId = msg.messageId) := by
  simp only [holds_iff, Db.inserted, List.mem_append, List.mem_singleton]
  constructor
  · rintro ⟨row, old | rfl, home, id⟩
    · exact .inl ⟨row, old, home, id⟩
    · exact .inr ⟨home.symm, id.symm⟩
  · rintro (⟨row, old, home, id⟩ | ⟨rfl, rfl⟩)
    · exact ⟨row, .inl old, home, id⟩
    · exact ⟨_, .inr rfl, rfl, rfl⟩

/-- The pairs after an insert are those before it and the new one. -/
theorem held_inserted (db : Db) (handle : Db.Handle) (msg : NewMessage) (now : Int64)
    (username messageId : String) :
    Held (db.inserted handle msg now) username messageId ↔
      Held db username messageId ∨
        (InboxOf db username handle.id ∧ messageId = msg.messageId) := by
  simp only [Held, inboxOf_inserted, holds_inserted]
  constructor
  · rintro ⟨mailboxId, inboxOf, holds | ⟨rfl, id⟩⟩
    · exact .inl ⟨mailboxId, inboxOf, holds⟩
    · exact .inr ⟨inboxOf, id⟩
  · rintro (⟨mailboxId, inboxOf, holds⟩ | ⟨inboxOf, id⟩)
    · exact ⟨mailboxId, inboxOf, .inl holds⟩
    · exact ⟨handle.id, inboxOf, .inr ⟨rfl, id⟩⟩

/-! ## Deliveries -/

/-- One pair is added. -/
def Gains (db after : Db) (username messageId : String) : Prop :=
  ∀ other id, Held after other id ↔ Held db other id ∨ (other = username ∧ id = messageId)

/-- A user that is found is in the table. -/
theorem getUser_some {db : Db} {username : String} {user : User}
    (found : db.getUser username = some user) :
    ∃ row ∈ db.users, row.username = username ∧ row.id = user.id := by
  obtain ⟨row, lookup, rfl⟩ := Option.map_eq_some_iff.mp found
  exact ⟨row, List.mem_of_find?_eq_some lookup, by simpa using List.find?_some lookup, rfl⟩

/-- A user in the table is found. -/
theorem getUser_of_mem {db : Db} (keyed : Keyed db) {row : UserRow} (member : row ∈ db.users) :
    ∃ user, db.getUser row.username = some user ∧ user.id = row.id := by
  rw [Db.getUser, (find_eq_some_iff keyed.usernames).mpr ⟨member, rfl⟩]
  exact ⟨_, rfl, rfl⟩

/-- What a delivery says to an unknown recipient. -/
def unknownReason (username : String) : String :=
  if username = "" then "malformed recipient mailbox" else "no such recipient: " ++ username

/-- The recipient of a delivery is found exactly if its name is known. -/
theorem recipientUser_cases {db : Db} (keyed : Keyed db) (recipient : String) :
    (¬Known db (mailboxUser recipient) ∧
      recipientUser db recipient = .error (.rejected (unknownReason (mailboxUser recipient)))) ∨
    ∃ user, Known db (mailboxUser recipient) ∧ recipientUser db recipient = .ok user ∧
      ∃ row ∈ db.users, row.username = mailboxUser recipient ∧ row.id = user.id := by
  unfold recipientUser
  dsimp only
  generalize mailboxUser recipient = username
  by_cases empty : username = ""
  · exact .inl ⟨fun known => known.1 empty, by rw [unknownReason, if_pos empty, if_pos empty]⟩
  · rw [if_neg empty]
    cases found : db.getUser username with
    | none =>
      refine .inl ⟨?_, by rw [unknownReason, if_neg empty]⟩
      rintro ⟨-, row, member, rfl⟩
      obtain ⟨user, some, -⟩ := getUser_of_mem keyed member
      rw [found] at some
      cases some
    | some user =>
      obtain ⟨row, member, name, id⟩ := getUser_some found
      exact .inr ⟨user, ⟨empty, row, member, name⟩, rfl, row, member, name, id⟩

/-- Recording a delivery only touches the ledger. -/
theorem recordInboundTx_tables (db : Db) (senderMailbox recipientMailbox amount messageId : String)
    (messageRowId : Nat) (now : Int64) :
    ∃ ledger, recordInboundTx db senderMailbox recipientMailbox amount messageId messageRowId now =
      { db with transactions := ledger } := by
  rcases recordInboundTx_cases db senderMailbox recipientMailbox amount messageId messageRowId now
    with ⟨-, kept⟩ | ⟨-, recorded⟩
  · exact ⟨db.transactions, kept⟩
  · exact ⟨_, recorded⟩

/-- How a message is stored for a user with an INBOX. -/
theorem store_spec {db : Db} (keyed : Keyed db) (furnished : Furnished db) {row : UserRow}
    (member : row ∈ db.users) (msg : NewMessage) (recipientMailbox amount : String) (now : Int64) :
    (Held db row.username msg.messageId ∧
      store db row.id msg recipientMailbox amount now =
        (.rejected ("duplicate message id: " ++ msg.messageId), db)) ∨
    (¬Held db row.username msg.messageId ∧
      ∃ after, store db row.id msg recipientMailbox amount now = (.accepted msg.messageId, after) ∧
        Gains db after row.username msg.messageId) := by
  obtain ⟨box, found, owner, name⟩ := furnished row member
  have inboxOf : InboxOf db row.username box.id :=
    ⟨row, member, rfl, box, found, owner, name, rfl⟩
  have lookup : db.mailboxNamed row.id inbox = .ok ⟨box.id, box.uidvalidity, box.uidnext⟩ := by
    rw [← owner, ← name]
    exact mailboxNamed_of_mem keyed found
  rcases store_cases db row.id msg recipientMailbox amount now with
    ⟨missing, -⟩ | ⟨handle, named, rest⟩
  · rw [lookup] at missing
    cases missing
  · obtain rfl := Except.ok.inj (lookup.symm.trans named)
    rcases rest with ⟨holds, duplicate⟩ | ⟨fresh, stored⟩
    · exact .inl ⟨(held_iff keyed inboxOf _).mpr holds, duplicate⟩
    · refine .inr ⟨fun held => ?_, _, stored, fun other id => ?_⟩
      · rw [held_iff keyed inboxOf] at held
        rw [fresh] at held
        cases held
      · obtain ⟨ledger, recorded⟩ := recordInboundTx_tables
          (db.inserted ⟨box.id, box.uidvalidity, box.uidnext⟩ msg now) msg.sender recipientMailbox
          amount msg.messageId (nextId MessageRow.id db.messages) now
        rw [recorded, held_ledger, held_inserted]
        refine or_congr_right (and_congr_left fun _ => ⟨fun otherOf => ?_, fun same => ?_⟩)
        · exact inboxOf_owner keyed otherOf inboxOf
        · rw [same]
          exact inboxOf

/-- What a wire delivery answers: an unknown recipient, a duplicate, or an acceptance that adds its
pair. -/
theorem deliver_spec {db : Db} (keyed : Keyed db) (furnished : Furnished db) (template : Template)
    (now : Int64) (delivery : Delivery) :
    (¬Known db (mailboxUser delivery.recipientMailbox) ∧
      deliver template now delivery db =
        (.rejected (unknownReason (mailboxUser delivery.recipientMailbox)), db)) ∨
    (Known db (mailboxUser delivery.recipientMailbox) ∧
      Held db (mailboxUser delivery.recipientMailbox) delivery.messageId ∧
      deliver template now delivery db =
        (.rejected ("duplicate message id: " ++ delivery.messageId), db)) ∨
    (Known db (mailboxUser delivery.recipientMailbox) ∧
      ¬Held db (mailboxUser delivery.recipientMailbox) delivery.messageId ∧
      ∃ after, deliver template now delivery db = (.accepted delivery.messageId, after) ∧
        Gains db after (mailboxUser delivery.recipientMailbox) delivery.messageId) := by
  rcases recipientUser_cases keyed delivery.recipientMailbox with
    ⟨unknown, missing⟩ | ⟨user, known, found, row, member, name, id⟩
  · refine .inl ⟨unknown, ?_⟩
    rw [deliver, missing]
  · rcases deliver_cases template now delivery db with
      ⟨reason, missing, -⟩ | ⟨other, msg, same, messageId, -, done⟩
    · rw [found] at missing
      cases missing
    · obtain rfl := Except.ok.inj (found.symm.trans same)
      rw [done, ← id, ← name, ← messageId]
      rw [← name] at known
      rcases store_spec keyed furnished member msg delivery.recipientMailbox "" now with
        duplicate | ⟨fresh, stored⟩
      · exact .inr (.inl ⟨known, duplicate⟩)
      · exact .inr (.inr ⟨known, fresh, stored⟩)

/-- What an emulated delivery does: nothing to the store, or it adds its pair. -/
theorem deliverEmulated_spec {db : Db} (keyed : Keyed db) (furnished : Furnished db)
    (recipient senderLabel amount messageId subject : String) (body : List UInt8) (now : Int64) :
    ((deliverEmulated db recipient senderLabel amount messageId subject body now).2 = db ∧
      (deliverEmulated db recipient senderLabel amount messageId subject body now).1 ≠
        .accepted messageId) ∨
    ((deliverEmulated db recipient senderLabel amount messageId subject body now).1 =
        .accepted messageId ∧
      Gains db (deliverEmulated db recipient senderLabel amount messageId subject body now).2
        (mailboxUser recipient) messageId) := by
  rcases recipientUser_cases keyed recipient with
    ⟨-, missing⟩ | ⟨user, -, found, row, member, name, id⟩
  · refine .inl ?_
    rw [deliverEmulated, missing]
    exact ⟨rfl, nofun⟩
  · rcases deliverEmulated_cases db recipient senderLabel amount messageId subject body now with
      ⟨outcome, missing, -⟩ | ⟨other, msg, same, rfl, -, done⟩
    · rw [found] at missing
      cases missing
    · obtain rfl := Except.ok.inj (found.symm.trans same)
      rw [done, ← id, ← name]
      rcases store_spec keyed furnished member msg recipient amount now with
        ⟨-, duplicate⟩ | ⟨-, after, stored, gains⟩
      · rw [duplicate]
        exact .inl ⟨rfl, nofun⟩
      · rw [stored]
        exact .inr ⟨rfl, gains⟩

/-! ## Other operations -/

/-- The pairs stay as they are. -/
def SameHeld (db after : Db) : Prop := ∀ username messageId,
  Held after username messageId ↔ Held db username messageId

/-- A new user holds nothing. -/
theorem sameHeld_createUserFull {db : Db} (keyed : Keyed db) (username passwordHash : String)
    (masterPubkey : List UInt8) (ivkCommitment registrationAttestation : Option String)
    (now : Int64) :
    SameHeld db (db.createUserFull username passwordHash masterPubkey ivkCommitment
      registrationAttestation now).2 := by
  have after := keyed_changes keyed (createUserFull_changes keyed username passwordHash
    masterPubkey ivkCommitment registrationAttestation now)
  rcases createUserFull_cases db username passwordHash masterPubkey ivkCommitment
    registrationAttestation now with kept | ⟨new, inboxRow, sentRow, -, -, -, created⟩
  · rw [kept]
    exact fun _ _ => Iff.rfl
  · rw [created] at after ⊢
    intro name messageId
    constructor
    · rintro ⟨mailboxId, ⟨user, member, same, box, found, owner, boxName, rfl⟩, holds⟩
      -- The row is in a mailbox that was there, and so was the owner of that mailbox.
      obtain ⟨row, stored, home, id⟩ := holds_iff.mp holds
      obtain ⟨old, oldFound, oldId⟩ := keyed.homes row stored
      obtain ⟨oldUser, oldMember, oldOwner⟩ := keyed.owners old oldFound
      obtain rfl := eq_of_unique after.mailboxIds (List.mem_append_left _ oldFound) found
        (oldId.trans home)
      obtain rfl := eq_of_unique after.userIds (List.mem_append_left _ oldMember) member
        (oldOwner.trans owner)
      exact ⟨old.id, ⟨oldUser, oldMember, same, old, oldFound, owner, boxName, rfl⟩,
        holds_iff.mpr ⟨row, stored, home, id⟩⟩
    · rintro ⟨mailboxId, ⟨user, member, same, box, found, rest⟩, holds⟩
      exact ⟨mailboxId, ⟨user, List.mem_append_left _ member, same, box,
        List.mem_append_left _ found, rest⟩, holds⟩

/-- Recording an attempt stores at most a copy in a Sent mailbox. -/
theorem sameHeld_recordOutboundTx {db : Db} (keyed : Keyed db) (template : Template)
    (senderDomain senderUsername recipientMailbox messageId : String) (payload : Payload)
    (body : List UInt8) (state : TxState) (now : Int64) :
    SameHeld db (recordOutboundTx db template senderDomain senderUsername recipientMailbox
      messageId payload body state now) := by
  obtain ⟨txId, middle, done, same⟩ := recordOutboundTx_eq db template senderDomain senderUsername
    recipientMailbox messageId payload body state now
  obtain ⟨ledger, rfl⟩ : ∃ ledger, middle = { db with transactions := ledger } := by
    rcases same with ⟨tx, -, -, -, updated⟩ | ⟨-, -, created⟩
    · exact ⟨_, updated⟩
    · exact ⟨_, created⟩
  rw [done]
  rcases sentCopy_cases { db with transactions := ledger } template senderUsername
    (senderUsername ++ "@" ++ senderDomain) recipientMailbox messageId body txId now with
    ⟨-, kept⟩ | ⟨user, handle, msg, -, named, -, -, -, stored⟩
  · rw [kept]
    exact fun _ _ => Iff.rfl
  · rw [stored]
    intro username id
    refine Iff.trans (held_inserted db handle msg now username id) (or_iff_left ?_)
    rintro ⟨⟨owner, -, -, box, found, -, boxName, boxId⟩, -⟩
    obtain ⟨copyBox, copyFound, -, copyName, rfl⟩ := mailboxNamed_ok named
    obtain rfl := eq_of_unique keyed.mailboxIds found copyFound boxId
    exact absurd (boxName.symm.trans copyName) (by decide)

/-- Changing flags leaves the pairs. -/
theorem sameHeld_setFlagsIn (db : Db) (userId : Nat) (mailbox : String) (messageId : Nat)
    (mask : UInt32) (value : Bool) :
    SameHeld db (db.setFlagsIn userId mailbox messageId mask value).2 := by
  unfold Db.setFlagsIn
  split
  · exact fun _ _ => Iff.rfl
  · intro username id
    refine exists_congr fun mailboxId => and_congr Iff.rfl ?_
    simp only [holds_iff, mem_update]
    constructor
    · rintro ⟨row, ⟨old, stored, rfl⟩, rest⟩
      refine ⟨old, stored, ?_⟩
      split at rest
      · exact rest
      · exact rest
    · rintro ⟨row, stored, rest⟩
      refine ⟨_, ⟨row, stored, rfl⟩, ?_⟩
      split
      · exact rest
      · exact rest

/-- A transition only touches the ledger. -/
theorem sameHeld_txTransition (db : Db) (id : Nat) (state : TxState) (now : Int64) :
    SameHeld db (db.txTransition id state now).2 := by
  rw [Db.txTransition, txUpdateFound_snd]
  exact fun _ _ => Iff.rfl

/-! ## Expunges -/

/-- The pairs an expunge removes. -/
def expungedPairs (db : Db) (userId : Nat) (mailbox : String) : List (String × String) :=
  match db.mailboxNamed userId mailbox with
  | .error _ => []
  | .ok handle => (db.users.filter fun user => decide (user.id = userId ∧ mailbox = inbox)).flatMap
      fun user => (db.messages.filter (Db.expunges handle.id)).map fun row =>
        (user.username, row.messageId)

/-- An expunge removes its pairs. -/
theorem held_expungeIn {db : Db} (keyed : Keyed db) (userId : Nat) (mailbox username
    messageId : String) :
    Held (db.expungeIn userId mailbox).2 username messageId ↔
      Held db username messageId ∧ (username, messageId) ∉ expungedPairs db userId mailbox := by
  unfold Db.expungeIn expungedPairs
  cases named : db.mailboxNamed userId mailbox with
  | error error => simp
  | ok handle =>
    obtain ⟨box, found, owner, name, rfl⟩ := mailboxNamed_ok named
    dsimp only
    simp only [List.mem_flatMap, List.mem_filter, List.mem_map, Prod.mk.injEq, decide_eq_true_eq]
    constructor
    · rintro ⟨mailboxId, inboxOf, holds⟩
      obtain ⟨row, stored, home, id⟩ := holds_iff.mp holds
      obtain ⟨inside, kept⟩ := List.mem_filter.mp stored
      refine ⟨⟨mailboxId, inboxOf, holds_iff.mpr ⟨row, inside, home, id⟩⟩, ?_⟩
      rintro ⟨user, ⟨member, rfl, rfl⟩, other, ⟨otherInside, expunged⟩, rfl, otherId⟩
      have boxOf : InboxOf db user.username box.id :=
        ⟨user, member, rfl, box, found, owner, name, rfl⟩
      have boxId : box.id = mailboxId := inboxOf_unique keyed boxOf inboxOf
      have otherHome : other.mailboxId = box.id := by
        simp only [Db.expunges, Bool.and_eq_true, decide_eq_true_eq] at expunged
        exact expunged.1
      obtain rfl := eq_of_unique keyed.messageIds inside otherInside
        (Prod.ext (home.trans (boxId.symm.trans otherHome.symm)) (id.trans otherId.symm))
      rw [expunged] at kept
      cases kept
    · rintro ⟨⟨mailboxId, inboxOf, holds⟩, kept⟩
      obtain ⟨row, stored, home, id⟩ := holds_iff.mp holds
      refine ⟨mailboxId, inboxOf, holds_iff.mpr ⟨row, List.mem_filter.mpr ⟨stored, ?_⟩, home, id⟩⟩
      cases expunged : Db.expunges box.id row with
      | false => rfl
      | true =>
        refine absurd ?_ kept
        obtain ⟨user, member, same, other, otherFound, otherOwner, otherName, otherId⟩ := inboxOf
        have rowHome : row.mailboxId = box.id := by
          simp only [Db.expunges, Bool.and_eq_true, decide_eq_true_eq] at expunged
          exact expunged.1
        obtain rfl := eq_of_unique keyed.mailboxIds otherFound found
          (otherId.trans (home.symm.trans rowHome))
        exact ⟨user, ⟨member, otherOwner.symm.trans owner, name.symm.trans otherName⟩, row,
          ⟨stored, expunged⟩, same, id⟩

/-! ## Users and their inboxes stay -/

/-- A change keeps every user, and every mailbox with the validity of its UIDs. -/
theorem kept_change {db after : Db} (change : Change db after) :
    (∀ user ∈ db.users, user ∈ after.users) ∧
      ∀ box ∈ db.mailboxes, ∃ new ∈ after.mailboxes, new.id = box.id ∧
        new.userId = box.userId ∧ new.name = box.name ∧ new.uidvalidity = box.uidvalidity := by
  have same : ∀ box ∈ db.mailboxes, ∃ new ∈ db.mailboxes, new.id = box.id ∧
      new.userId = box.userId ∧ new.name = box.name ∧ new.uidvalidity = box.uidvalidity :=
    fun box member => ⟨box, member, rfl, rfl, rfl, rfl⟩
  cases change with
  | user => exact ⟨fun user member => List.mem_append_left _ member, same⟩
  | mailbox =>
    exact ⟨fun user member => member,
      fun box member => ⟨box, List.mem_append_left _ member, rfl, rfl, rfl, rfl⟩⟩
  | message handle msg now fresh read =>
    refine ⟨fun user member => member, fun box member => ?_⟩
    refine ⟨_, mem_inserted member handle msg now, ?_⟩
    split
    · exact ⟨rfl, rfl, rfl, rfl⟩
    · exact ⟨rfl, rfl, rfl, rfl⟩
  | tx => exact ⟨fun user member => member, same⟩
  | txUpdate => exact ⟨fun user member => member, same⟩
  | flags => exact ⟨fun user member => member, same⟩
  | delete => exact ⟨fun user member => member, same⟩

/-- A known name stays known in a change. -/
theorem known_changes {db after : Db} (changes : Changes db after) {username : String}
    (known : Known db username) : Known after username := by
  induction changes with
  | refl => exact known
  | tail _ change ih =>
    obtain ⟨named, user, member, same⟩ := ih
    exact ⟨named, user, (kept_change change).1 user member, same⟩

/-- A user keeps the INBOX in a change. -/
theorem inbox_changes {db after : Db} (changes : Changes db after) {userId : Nat}
    (furnished : ∃ box ∈ db.mailboxes, box.userId = userId ∧ box.name = inbox) :
    ∃ box ∈ after.mailboxes, box.userId = userId ∧ box.name = inbox := by
  induction changes with
  | refl => exact furnished
  | tail _ change ih =>
    obtain ⟨box, found, owner, name⟩ := ih
    obtain ⟨new, inside, -, newOwner, newName, -⟩ := (kept_change change).2 box found
    exact ⟨new, inside, newOwner.trans owner, newName.trans name⟩

/-- Storing a message adds no user. -/
theorem store_users (db : Db) (userId : Nat) (msg : NewMessage) (recipientMailbox amount : String)
    (now : Int64) : (store db userId msg recipientMailbox amount now).2.users = db.users := by
  rcases store_cases db userId msg recipientMailbox amount now with
    ⟨-, kept⟩ | ⟨handle, -, ⟨-, kept⟩ | ⟨-, stored⟩⟩
  · rw [kept]
  · rw [kept]
  · rw [stored]
    obtain ⟨ledger, recorded⟩ := recordInboundTx_tables (db.inserted handle msg now) msg.sender
      recipientMailbox amount msg.messageId (nextId MessageRow.id db.messages) now
    rw [recorded]
    rfl

/-- Recording an attempt adds no user. -/
theorem recordOutboundTx_users (db : Db) (template : Template) (senderDomain senderUsername
    recipientMailbox messageId : String) (payload : Payload) (body : List UInt8) (state : TxState)
    (now : Int64) :
    (recordOutboundTx db template senderDomain senderUsername recipientMailbox messageId payload
      body state now).users = db.users := by
  obtain ⟨txId, middle, done, same⟩ := recordOutboundTx_eq db template senderDomain senderUsername
    recipientMailbox messageId payload body state now
  have users : middle.users = db.users := by
    rcases same with ⟨tx, -, -, -, rfl⟩ | ⟨-, -, rfl⟩
    · rfl
    · rfl
  rw [done, ← users]
  rcases sentCopy_cases middle template senderUsername (senderUsername ++ "@" ++ senderDomain)
    recipientMailbox messageId body txId now with
    ⟨-, kept⟩ | ⟨user, handle, msg, -, -, -, -, -, stored⟩
  · rw [kept]
  · rw [stored]
    rfl

/-- An operation that creates no user leaves the users. -/
theorem apply_users (template : Template) (domain : String) (db : Db) (operation : Operation) :
    (apply template domain db operation).users = db.users ∨
    ∃ username passwordHash masterPubkey ivkCommitment registrationAttestation now,
      operation = .createUser username passwordHash masterPubkey ivkCommitment
        registrationAttestation now := by
  cases operation with
  | createUser => exact .inr ⟨_, _, _, _, _, _, rfl⟩
  | deliver delivery now =>
    left
    rcases deliver_cases template now delivery db with
      ⟨reason, -, refused⟩ | ⟨user, msg, -, -, -, done⟩
    · rw [apply, refused]
    · rw [apply, done, store_users]
  | emulate recipient senderLabel amount messageId subject body now =>
    left
    rcases deliverEmulated_cases db recipient senderLabel amount messageId subject body now with
      ⟨outcome, -, refused⟩ | ⟨user, msg, -, -, -, done⟩
    · rw [apply, refused]
    · rw [apply, done, store_users]
  | recordOutbound => exact .inl (recordOutboundTx_users ..)
  | setFlags userId mailbox messageId mask value =>
    left
    rw [apply, Db.setFlagsIn]
    split
    · rfl
    · rfl
  | expunge userId mailbox =>
    left
    rw [apply, Db.expungeIn]
    split
    · rfl
    · rfl
  | transition id state now =>
    left
    rw [apply, Db.txTransition, txUpdateFound_snd]
    rfl

/-- Only a new user is added, and with an INBOX. -/
theorem furnished_apply (template : Template) (domain : String) {db : Db} (keyed : Keyed db)
    (furnished : Furnished db) (operation : Operation) :
    Furnished (apply template domain db operation) := by
  rcases apply_users template domain db operation with
    users | ⟨username, passwordHash, masterPubkey, ivkCommitment, attestation, now, rfl⟩
  · intro user member
    rw [users] at member
    exact inbox_changes (apply_changes template domain keyed operation) (furnished user member)
  · rcases createUserFull_cases db username passwordHash masterPubkey ivkCommitment attestation
      now with same | ⟨row, inboxRow, sentRow, -, owner, name, created⟩
    · rw [apply, same]
      exact furnished
    · rw [apply, created]
      intro user member
      rcases List.mem_append.mp member with old | new
      · obtain ⟨box, found, rest⟩ := furnished user old
        exact ⟨box, List.mem_append_left _ found, rest⟩
      · obtain rfl := List.mem_singleton.mp new
        exact ⟨inboxRow, List.mem_append_right _ List.mem_cons_self, owner, name⟩

end Talk.Verif.Inbox
