import Talk.Verif.Inbox

/-!
# Trust labels

A keyring is a set of pins, each of a user for a sender. The table of pins holds just these in
every reachable state, and a delivered message is labelled by whether its recipient's pin for its
sender is among them when it is stored. No operation changes the label of a message that stays.
-/

namespace Talk.Verif.TrustLabels

open Mailstore Table Daemon Protocol StoreSteps Transition

/-! ## Pins -/

/-- What happens to a store. -/
inductive Event where
  /-- `keyring_set_trusted`. -/
  | pin (userId : Nat) (senderMailbox senderPubkey : String) (attestation : List UInt8)
    (now : Int64)
  /-- `unpin_keyring`. -/
  | unpin (userId : Nat) (senderMailbox : String)
  /-- An operation on the other tables. -/
  | store (operation : Operation)

/-- The store, and the pins that are set: each of a user for a sender. -/
structure World where
  /-- The store. -/
  db : Db
  /-- The pins. -/
  pins : List (Nat × String)

/-- The store after an event. -/
def storeAfter (template : Template) (domain : String) (db : Db) : Event → Db
  | .pin userId senderMailbox senderPubkey attestation now =>
    (db.keyringSetTrusted userId senderMailbox senderPubkey attestation now).2
  | .unpin userId senderMailbox => (db.unpinKeyring userId senderMailbox).2
  | .store operation => apply template domain db operation

/-- The pins after an event: a user of the store pins a sender, or takes a pin away. -/
def pinsAfter (db : Db) (pins : List (Nat × String)) : Event → List (Nat × String)
  | .pin userId senderMailbox _ _ _ =>
    if db.users.any fun user => decide (user.id = userId) then (userId, senderMailbox) :: pins
    else pins
  | .unpin userId senderMailbox => pins.filter fun pin => decide (pin ≠ (userId, senderMailbox))
  | .store _ => pins

/-- The store and the pins after an event. -/
def step (template : Template) (domain : String) (world : World) (event : Event) : World :=
  ⟨storeAfter template domain world.db event, pinsAfter world.db world.pins event⟩

/-- Nothing is stored and nothing is pinned. -/
def World.empty : World := ⟨.empty, []⟩

/-- The table of pins holds the pins that are set. -/
structure Mirrors (world : World) : Prop where
  /-- The keys of the other tables are unique. -/
  keyed : Keyed world.db
  /-- Every row is a trusted pin. -/
  trusted : ∀ row ∈ world.db.keyring, row.state = "trusted"
  /-- Every row is of a user. -/
  owned : ∀ row ∈ world.db.keyring, ∃ user ∈ world.db.users, user.id = row.userId
  /-- The rows are the pins. -/
  pins : ∀ pin, pin ∈ world.pins ↔ ∃ row ∈ world.db.keyring, Db.pinKey row = pin

/-- A change of the other tables leaves the keyrings, and every user. -/
theorem keyring_change {db after : Db} (change : Change db after) :
    after.keyring = db.keyring ∧ ∀ user ∈ db.users, user ∈ after.users := by
  cases change with
  | user row => exact ⟨rfl, fun user member => List.mem_append_left _ member⟩
  | mailbox => exact ⟨rfl, fun user member => member⟩
  | message => exact ⟨rfl, fun user member => member⟩
  | tx => exact ⟨rfl, fun user member => member⟩
  | txUpdate => exact ⟨rfl, fun user member => member⟩
  | flags => exact ⟨rfl, fun user member => member⟩
  | delete => exact ⟨rfl, fun user member => member⟩

/-- Changes of the other tables leave the keyrings, and every user. -/
theorem keyring_changes {db after : Db} (changes : Changes db after) :
    after.keyring = db.keyring ∧ ∀ user ∈ db.users, user ∈ after.users := by
  induction changes with
  | refl => exact ⟨rfl, fun user member => member⟩
  | tail _ change ih =>
    have last := keyring_change change
    exact ⟨last.1.trans ih.1, fun user member => last.2 user (ih.2 user member)⟩

/-- The keys of the other tables do not depend on the keyrings. -/
theorem keyed_keyring {db : Db} (keyed : Keyed db) (keyring : List KeyringRow) :
    Keyed { db with keyring := keyring } :=
  ⟨keyed.userIds, keyed.usernames, keyed.mailboxIds, keyed.mailboxNames, keyed.owners, keyed.homes,
    keyed.rowIds, keyed.messageIds, keyed.txIds, keyed.txKeys⟩

/-- A pin is refused without its user, or the table has it and the pins it had before, all of them
trusted. -/
theorem keyringSetTrusted_cases (db : Db) (userId : Nat) (senderMailbox senderPubkey : String)
    (attestation : List UInt8) (now : Int64) :
    ((∀ row ∈ db.keyring, Db.pinKey row ≠ (userId, senderMailbox)) ∧
      (∀ user ∈ db.users, user.id ≠ userId) ∧
      db.keyringSetTrusted userId senderMailbox senderPubkey attestation now =
        (.error .storage, db)) ∨
    ∃ keyring, db.keyringSetTrusted userId senderMailbox senderPubkey attestation now =
        (.ok (), { db with keyring := keyring }) ∧
      ((∃ row ∈ db.keyring, row.userId = userId) ∨ ∃ user ∈ db.users, user.id = userId) ∧
      (∀ pin, (∃ row ∈ keyring, Db.pinKey row = pin) ↔
        pin = (userId, senderMailbox) ∨ ∃ row ∈ db.keyring, Db.pinKey row = pin) ∧
      ∀ row ∈ keyring, row.state = "trusted" ∨ row ∈ db.keyring := by
  unfold Db.keyringSetTrusted
  dsimp only
  by_cases found : ∃ row ∈ db.keyring, Db.pinKey row = (userId, senderMailbox)
  · have held : (db.keyring.any fun row => decide (Db.pinKey row = (userId, senderMailbox))) =
        true := by simpa using found
    rw [if_pos held]
    obtain ⟨row, member, same⟩ := found
    refine .inr ⟨_, rfl, .inl ⟨row, member, congrArg Prod.fst same⟩, fun pin => ?_, ?_⟩
    · constructor
      · rintro ⟨after, changed, rfl⟩
        obtain ⟨before, old, rfl⟩ := mem_update.mp changed
        refine .inr ⟨before, old, ?_⟩
        split <;> rfl
      · intro either
        have kept : ∃ row ∈ db.keyring, Db.pinKey row = pin := by
          rcases either with rfl | kept
          · exact ⟨row, member, same⟩
          · exact kept
        obtain ⟨before, old, rfl⟩ := kept
        refine ⟨_, mem_update.mpr ⟨before, old, rfl⟩, ?_⟩
        split <;> rfl
    · intro after changed
      obtain ⟨before, old, rfl⟩ := mem_update.mp changed
      by_cases chosen : Db.pinKey before = (userId, senderMailbox)
      · rw [if_pos (decide_eq_true chosen)]
        exact .inl rfl
      · rw [if_neg (by simpa using chosen)]
        exact .inr old
  · have missing : ¬(db.keyring.any fun row =>
        decide (Db.pinKey row = (userId, senderMailbox))) = true := by simpa using found
    rw [if_neg missing]
    by_cases known : ∃ user ∈ db.users, user.id = userId
    · have user : (db.users.any fun user => decide (user.id = userId)) = true := by
        simpa using known
      rw [if_pos user]
      refine .inr ⟨_, rfl, .inr known, fun pin => ?_, ?_⟩
      · simp only [List.mem_append, List.mem_singleton, or_and_right, exists_or,
          exists_eq_left, Db.pinKey]
        rw [or_comm]
        exact or_congr_left eq_comm
      · intro row member
        rcases List.mem_append.mp member with old | new
        · exact .inr old
        · rw [List.mem_singleton.mp new]
          exact .inl rfl
    · have none : ¬(db.users.any fun user => decide (user.id = userId)) = true := by
        simpa using known
      rw [if_neg none]
      exact .inl ⟨fun row member same => found ⟨row, member, same⟩,
        fun user member same => known ⟨user, member, same⟩, rfl⟩

/-- An unpin removes the pin, if there is one. -/
theorem unpinKeyring_snd (db : Db) (userId : Nat) (senderMailbox : String) :
    (db.unpinKeyring userId senderMailbox).2 = { db with
      keyring := db.keyring.filter fun row =>
        !decide (Db.pinKey row = (userId, senderMailbox)) } := by
  unfold Db.unpinKeyring
  dsimp only
  by_cases found : (db.keyring.any fun row => decide (Db.pinKey row = (userId, senderMailbox))) =
      true
  · rw [if_pos found]
  · rw [if_neg found]
    have all : (db.keyring.filter fun row => !decide (Db.pinKey row = (userId, senderMailbox))) =
        db.keyring := by
      refine List.filter_eq_self.mpr fun row member => ?_
      have other := List.any_eq_false.mp (Bool.eq_false_iff.mpr found) row member
      simpa using other
    rw [all]

/-- The table mirrors the pins after every event. -/
theorem mirrors_step (template : Template) (domain : String) (world : World) (event : Event)
    (mirrors : Mirrors world) : Mirrors (step template domain world event) := by
  obtain ⟨db, pins⟩ := world
  cases event with
  | store operation =>
    have changes := apply_changes template domain mirrors.keyed operation
    obtain ⟨keyring, users⟩ := keyring_changes changes
    refine ⟨keyed_changes mirrors.keyed changes, ?_, ?_, ?_⟩
    · change ∀ row ∈ (apply template domain db operation).keyring, _
      rw [keyring]
      exact mirrors.trusted
    · change ∀ row ∈ (apply template domain db operation).keyring, _
      rw [keyring]
      intro row member
      obtain ⟨user, known, id⟩ := mirrors.owned row member
      exact ⟨user, users user known, id⟩
    · change ∀ pin, pin ∈ pins ↔ ∃ row ∈ (apply template domain db operation).keyring, _
      rw [keyring]
      exact mirrors.pins
  | pin userId senderMailbox senderPubkey attestation now =>
    unfold step storeAfter pinsAfter
    dsimp only
    rcases keyringSetTrusted_cases db userId senderMailbox senderPubkey attestation now with
      ⟨_, noUser, refused⟩ | ⟨keyring, done, allowed, keys, trusted⟩
    · have none : ¬(db.users.any fun user => decide (user.id = userId)) = true := by
        simpa using noUser
      rw [refused, if_neg none]
      exact mirrors
    · have known : ∃ user ∈ db.users, user.id = userId := by
        rcases allowed with ⟨row, member, rfl⟩ | known
        · exact mirrors.owned row member
        · exact known
      have user : (db.users.any fun user => decide (user.id = userId)) = true := by
        simpa using known
      rw [done, if_pos user]
      refine ⟨keyed_keyring mirrors.keyed _, ?_, ?_, ?_⟩
      · intro row member
        rcases trusted row member with trusted | old
        · exact trusted
        · exact mirrors.trusted row old
      · intro row member
        rcases (keys (Db.pinKey row)).mp ⟨row, member, rfl⟩ with new | ⟨old, found, same⟩
        · have owner : row.userId = userId := congrArg Prod.fst new
          rw [owner]
          exact known
        · have owner : old.userId = row.userId := congrArg Prod.fst same
          rw [← owner]
          exact mirrors.owned old found
      · intro pin
        rw [keys, List.mem_cons, mirrors.pins]
  | unpin userId senderMailbox =>
    unfold step storeAfter pinsAfter
    dsimp only
    rw [unpinKeyring_snd]
    refine ⟨keyed_keyring mirrors.keyed _, fun row member =>
      mirrors.trusted row (List.mem_of_mem_filter member), fun row member =>
      mirrors.owned row (List.mem_of_mem_filter member), fun pin => ?_⟩
    rw [List.mem_filter, mirrors.pins]
    constructor
    · rintro ⟨⟨row, member, rfl⟩, other⟩
      exact ⟨row, List.mem_filter.mpr ⟨member, by simpa using other⟩, rfl⟩
    · rintro ⟨row, member, rfl⟩
      obtain ⟨old, other⟩ := List.mem_filter.mp member
      exact ⟨⟨row, old, rfl⟩, by simpa using other⟩

/-- The table mirrors the pins in every reachable world. -/
theorem mirrors_run (template : Template) (domain : String) (events : List Event) :
    Mirrors (run (step template domain) .empty events) :=
  run_invariant (mirrors_step template domain)
    ⟨keyed_empty, fun _ member => absurd member List.not_mem_nil,
      fun _ member => absurd member List.not_mem_nil, by simp [World.empty, Db.empty]⟩ events

/-! ## Labels -/

/-- The store finds a sender trusted when the user's keyring has a pin for it, if it is one. -/
theorem keyringState_trusted_iff {world : World} (mirrors : Mirrors world) (userId : Nat)
    (senderMailbox : String) :
    (keyringState world.db userId senderMailbox).word = "trusted" ↔
      senderMailbox ≠ "" ∧ (userId, senderMailbox) ∈ world.pins := by
  unfold keyringState
  by_cases empty : senderMailbox = ""
  · rw [if_pos empty]
    exact iff_of_false (by decide) fun both => both.1 empty
  · rw [if_neg empty, mirrors.pins]
    have found : (world.db.keyringSenderKey userId senderMailbox).isSome = true ↔
        ∃ row ∈ world.db.keyring, Db.pinKey row = (userId, senderMailbox) := by
      rw [Db.keyringSenderKey, Option.isSome_map, List.find?_isSome]
      refine exists_congr fun row => and_congr_right fun member => ?_
      have trusted : row.state = "trusted" := mirrors.trusted row member
      simp [trusted, Db.pinKey]
    rw [← found]
    cases world.db.keyringSenderKey userId senderMailbox with
    | none => exact iff_of_false (by decide) fun both => absurd both.2 (by simp)
    | some key => exact iff_of_true rfl ⟨empty, rfl⟩

/-- A delivery that is accepted adds one message, from its sender and labelled with what the
keyring says of it, to the INBOX of its recipient. -/
theorem deliver_accepted {template : Template} {now : Int64} {delivery : Delivery} {db : Db}
    {messageId : String} (accepted : (deliver template now delivery db).1 = .accepted messageId) :
    ∃ user handle msg, recipientUser db delivery.recipientMailbox = .ok user ∧
      db.mailboxNamed user.id inbox = .ok handle ∧ msg.messageId = delivery.messageId ∧
      msg.sender = delivery.senderMailbox ∧
      msg.trustState = (keyringState db user.id delivery.senderMailbox).word ∧
      (deliver template now delivery db).2.messages =
        db.messages ++ [db.newRow handle msg now] := by
  unfold deliver at accepted ⊢
  cases found : recipientUser db delivery.recipientMailbox with
  | error outcome =>
    rw [found] at accepted
    dsimp only at accepted
    unfold recipientUser at found
    dsimp only at found
    split at found
    · cases found
      cases accepted
    · split at found
      · cases found
      · cases found
        cases accepted
  | ok user =>
    rw [found] at accepted
    dsimp only at accepted ⊢
    generalize stored : NewMessage.mk delivery.messageId _ _ _ _ _ = msg at accepted ⊢
    rcases store_cases db user.id msg delivery.recipientMailbox "" now with
      ⟨_, missing⟩ | ⟨handle, named, ⟨_, duplicate⟩ | ⟨_, done⟩⟩
    · rw [missing] at accepted
      cases accepted
    · rw [duplicate] at accepted
      cases accepted
    · refine ⟨user, handle, msg, rfl, named, ?_, ?_, ?_, ?_⟩
      · rw [← stored]
      · rw [← stored]
      · rw [← stored]
      · rw [done, messages_recordInboundTx]
        rfl

/-- The messages after an operation: those before, one more, with other flags, or fewer. -/
theorem messages_apply (template : Template) (domain : String) (db : Db) (operation : Operation) :
    (apply template domain db operation).messages = db.messages ∨
    (∃ handle msg now, (apply template domain db operation).messages =
      db.messages ++ [db.newRow handle msg now]) ∨
    (∃ selects mask value, (apply template domain db operation).messages =
      update selects (Db.changeFlags mask value) db.messages) ∨
    ∃ keeps, (apply template domain db operation).messages = db.messages.filter keeps := by
  have stored (userId : Nat) (msg : NewMessage) (recipientMailbox amount : String) (now : Int64) :
      (store db userId msg recipientMailbox amount now).2.messages = db.messages ∨
      ∃ handle, (store db userId msg recipientMailbox amount now).2.messages =
        db.messages ++ [db.newRow handle msg now] := by
    rcases store_cases db userId msg recipientMailbox amount now with
      ⟨_, missing⟩ | ⟨handle, _, ⟨_, duplicate⟩ | ⟨_, done⟩⟩
    · rw [missing]
      exact .inl rfl
    · rw [duplicate]
      exact .inl rfl
    · rw [done, messages_recordInboundTx]
      exact .inr ⟨handle, rfl⟩
  cases operation with
  | createUser username passwordHash masterPubkey ivkCommitment registrationAttestation now =>
    left
    rcases createUserFull_cases db username passwordHash masterPubkey ivkCommitment
      registrationAttestation now with kept | ⟨_, _, _, _, _, _, added⟩
    · rw [apply, kept]
    · rw [apply, added]
  | deliver delivery now =>
    rcases deliver_cases template now delivery db with
      ⟨reason, _, refused⟩ | ⟨user, msg, _, _, _, done⟩
    · rw [apply, refused]
      exact .inl rfl
    · rw [apply, done]
      rcases stored user.id msg delivery.recipientMailbox "" now with kept | ⟨handle, added⟩
      · exact .inl kept
      · exact .inr (.inl ⟨handle, msg, now, added⟩)
  | emulate recipient senderLabel amount messageId subject body now =>
    rcases deliverEmulated_cases db recipient senderLabel amount messageId subject body now with
      ⟨outcome, _, refused⟩ | ⟨user, msg, _, _, _, done⟩
    · rw [apply, refused]
      exact .inl rfl
    · rw [apply, done]
      rcases stored user.id msg recipient amount now with kept | ⟨handle, added⟩
      · exact .inl kept
      · exact .inr (.inl ⟨handle, msg, now, added⟩)
  | recordOutbound senderUsername recipientMailbox messageId payload body state now =>
    obtain ⟨txId, middle, done, middles⟩ := recordOutboundTx_eq db template domain senderUsername
      recipientMailbox messageId payload body state now
    have same : middle.messages = db.messages := by
      rcases middles with ⟨_, _, _, _, rfl⟩ | ⟨_, _, rfl⟩
      · rfl
      · rfl
    rw [apply, done]
    rcases sentCopy_cases middle template senderUsername (senderUsername ++ "@" ++ domain)
      recipientMailbox messageId body txId now with
      ⟨_, kept⟩ | ⟨user, handle, msg, _, _, _, _, _, added⟩
    · rw [kept]
      exact .inl same
    · rw [added]
      refine .inr (.inl ⟨handle, msg, now, ?_⟩)
      change middle.messages ++ [middle.newRow handle msg now] = _
      rw [Db.newRow, same]
      rfl
  | setFlags userId mailbox messageId mask value =>
    rw [apply, Db.setFlagsIn]
    cases db.mailboxNamed userId mailbox with
    | error error => exact .inl rfl
    | ok handle => exact .inr (.inr (.inl ⟨_, mask, value, rfl⟩))
  | expunge userId mailbox =>
    rcases expungeIn_cases db userId mailbox with kept | ⟨handle, _, deleted⟩
    · rw [apply, kept]
      exact .inl rfl
    · rw [apply, deleted]
      exact .inr (.inr (.inr ⟨_, rfl⟩))
  | transition id state now =>
    rw [apply, Db.txTransition, txUpdateFound_snd]
    exact .inl rfl

/-- Messages with the same id have the same sender and label. -/
def LabelsKept (before after : Db) : Prop :=
  ∀ row ∈ before.messages, ∀ last ∈ after.messages, last.id = row.id →
    last.sender = row.sender ∧ last.trustState = row.trustState

/-- An event leaves the sender and the label of every message that stays. -/
theorem labelsKept_step (template : Template) (domain : String) {world : World}
    (mirrors : Mirrors world) (event : Event) :
    LabelsKept world.db (step template domain world event).db := by
  have keyed := mirrors.keyed
  have same {after : Db} (messages : after.messages = world.db.messages) :
      LabelsKept world.db after := by
    intro row member last found id
    rw [messages] at found
    obtain rfl := eq_of_unique keyed.rowIds found member id
    exact ⟨rfl, rfl⟩
  cases event with
  | pin userId senderMailbox senderPubkey attestation now =>
    refine same ?_
    rcases keyringSetTrusted_cases world.db userId senderMailbox senderPubkey attestation now with
      ⟨_, _, refused⟩ | ⟨keyring, done, _⟩
    · exact congrArg (fun outcome => outcome.2.messages) refused
    · exact congrArg (fun outcome => outcome.2.messages) done
  | unpin userId senderMailbox =>
    have messages : (world.db.unpinKeyring userId senderMailbox).2.messages =
        world.db.messages := by
      rw [unpinKeyring_snd]
    exact same messages
  | store operation =>
    rcases messages_apply template domain world.db operation with
      kept | ⟨handle, msg, now, added⟩ | ⟨selects, mask, value, changed⟩ | ⟨keeps, deleted⟩
    · exact same kept
    · intro row member last found id
      have found : last ∈ world.db.messages ++ [world.db.newRow handle msg now] := added ▸ found
      rcases List.mem_append.mp found with old | new
      · obtain rfl := eq_of_unique keyed.rowIds old member id
        exact ⟨rfl, rfl⟩
      · rw [List.mem_singleton.mp new] at id
        exact absurd id.symm (nextId_fresh MessageRow.id world.db.messages row member)
    · intro row member last found id
      have found : last ∈ update selects (Db.changeFlags mask value) world.db.messages :=
        changed ▸ found
      obtain ⟨old, before, rfl⟩ := mem_update.mp found
      have unchanged : old.id = row.id := by
        rw [← id]
        split <;> rfl
      obtain rfl := eq_of_unique keyed.rowIds before member unchanged
      constructor
      · split <;> rfl
      · split <;> rfl
    · intro row member last found id
      have found : last ∈ world.db.messages.filter keeps := deleted ▸ found
      obtain rfl := eq_of_unique keyed.rowIds (List.mem_of_mem_filter found) member id
      exact ⟨rfl, rfl⟩

/-- A message stays in the store through a run. -/
def Stays (template : Template) (domain : String) (id : Nat) : World → List Event → Prop
  | world, [] => ∃ row ∈ world.db.messages, row.id = id
  | world, event :: events => (∃ row ∈ world.db.messages, row.id = id) ∧
    Stays template domain id (step template domain world event) events

/-- A message that stays is still there at the end, from the same sender and with the same label. -/
theorem label_of_stays (template : Template) (domain : String) {world : World}
    (mirrors : Mirrors world) (events : List Event) {row : MessageRow}
    (member : row ∈ world.db.messages) (stays : Stays template domain row.id world events) :
    ∃ last ∈ (run (step template domain) world events).db.messages, last.id = row.id ∧
      last.sender = row.sender ∧ last.trustState = row.trustState := by
  induction events generalizing world row with
  | nil => exact ⟨row, member, rfl, rfl, rfl⟩
  | cons event events ih =>
    have here : ∃ next ∈ (step template domain world event).db.messages, next.id = row.id := by
      cases events with
      | nil => exact stays.2
      | cons _ _ => exact stays.2.1
    obtain ⟨next, found, id⟩ := here
    have kept := labelsKept_step template domain mirrors event row member next found id
    obtain ⟨last, final, same, sender, label⟩ :=
      ih (mirrors_step template domain world event mirrors) found (id ▸ stays.2)
    exact ⟨last, final, same.trans id, sender.trans kept.1, label.trans kept.2⟩

/-! ## Other users -/

/-- An event pins or unpins a sender for another user. -/
def pinsOther (userId : Nat) : Event → Bool
  | .pin other _ _ _ _ => decide (other ≠ userId)
  | .unpin other _ => decide (other ≠ userId)
  | .store _ => false

/-- Pins and unpins leave the users. -/
theorem users_of_pins (template : Template) (domain : String) (db : Db) {userId : Nat}
    {event : Event} (pins : pinsOther userId event = true) :
    (storeAfter template domain db event).users = db.users := by
  cases event with
  | pin other senderMailbox senderPubkey attestation now =>
    unfold storeAfter
    dsimp only
    rcases keyringSetTrusted_cases db other senderMailbox senderPubkey attestation now with
      ⟨_, _, refused⟩ | ⟨keyring, done, _⟩
    · rw [refused]
    · rw [done]
  | unpin other senderMailbox =>
    unfold storeAfter
    dsimp only
    rw [unpinKeyring_snd]
  | store operation => exact absurd pins Bool.false_ne_true

/-- The users after an event depend on the users before it. -/
theorem users_congr (template : Template) (domain : String) {left right : Db}
    (users : left.users = right.users) (event : Event) :
    (storeAfter template domain left event).users =
      (storeAfter template domain right event).users := by
  cases event with
  | pin other senderMailbox senderPubkey attestation now =>
    have kept (db : Db) := @users_of_pins template domain db (other + 1)
      (.pin other senderMailbox senderPubkey attestation now) (by simp [pinsOther])
    rw [kept, kept, users]
  | unpin other senderMailbox =>
    have kept (db : Db) := @users_of_pins template domain db (other + 1)
      (.unpin other senderMailbox) (by simp [pinsOther])
    rw [kept, kept, users]
  | store operation =>
    have created (username passwordHash : String) (masterPubkey : List UInt8)
        (ivkCommitment attestation : Option String) (now : Int64) :
        (left.createUserFull username passwordHash masterPubkey ivkCommitment attestation
          now).2.users =
        (right.createUserFull username passwordHash masterPubkey ivkCommitment attestation
          now).2.users := by
      unfold Db.createUserFull
      rw [users]
      by_cases taken : right.users.any (·.username == username) = true
      · rw [if_pos taken, if_pos taken]
        exact users
      · rw [if_neg taken, if_neg taken]
        rfl
    change (apply template domain left operation).users =
      (apply template domain right operation).users
    rcases Inbox.apply_users template domain left operation with keptLeft | ⟨_, _, _, _, _, _, rfl⟩
    · rcases Inbox.apply_users template domain right operation with
        keptRight | ⟨_, _, _, _, _, _, rfl⟩
      · rw [keptLeft, keptRight, users]
      · exact created ..
    · exact created ..

/-- Two worlds have the same users and the same pins of one of them. -/
structure Alike (userId : Nat) (left right : World) : Prop where
  /-- The users. -/
  users : left.db.users = right.db.users
  /-- The pins of the one. -/
  pins : ∀ senderMailbox, (userId, senderMailbox) ∈ left.pins ↔ (userId, senderMailbox) ∈ right.pins

/-- A user's pins are those of the run without the pins and unpins of other users. -/
theorem pins_of_own (template : Template) (domain : String) (userId : Nat) (events : List Event)
    {left right : World} (alike : Alike userId left right) :
    Alike userId (run (step template domain) left events)
      (run (step template domain) right (events.filter fun event => !pinsOther userId event)) := by
  induction events generalizing left right with
  | nil => exact alike
  | cons event events ih =>
    rw [run_cons]
    cases other : pinsOther userId event with
    | true =>
      rw [List.filter_cons_of_neg (by simp [other])]
      refine ih ⟨(users_of_pins template domain left.db other).trans alike.users, ?_⟩
      intro senderMailbox
      rw [← alike.pins]
      cases event with
      | pin owner sender _ _ _ =>
        have differs : userId ≠ owner := (of_decide_eq_true other).symm
        unfold step pinsAfter
        dsimp only
        split
        · simp [differs]
        · rfl
      | unpin owner sender =>
        have differs : userId ≠ owner := (of_decide_eq_true other).symm
        simp [step, pinsAfter, differs]
      | store operation => rfl
    | false =>
      rw [List.filter_cons_of_pos (by simp [other]), run_cons]
      refine ih ⟨users_congr template domain alike.users event, ?_⟩
      intro senderMailbox
      cases event with
      | pin owner sender _ _ _ =>
        unfold step pinsAfter
        dsimp only
        rw [alike.users]
        split
        · rw [List.mem_cons, List.mem_cons, alike.pins]
        · exact alike.pins senderMailbox
      | unpin owner sender => simp only [step, pinsAfter, List.mem_filter, alike.pins]
      | store operation => exact alike.pins senderMailbox

/-- A delivered message is labelled trusted just when it has a sender and the recipient's own
keyring holds a pin for it at that moment. The pins of a user are those of the run without the
other users' pins, and the message keeps its label for as long as it stays. -/
theorem trust_labels_earned (template : Template) (domain : String) (before after : List Event)
    {delivery : Delivery} {now : Int64} {messageId : String}
    (accepted : (deliver template now delivery
      (run (step template domain) .empty before).db).1 = .accepted messageId) :
    let reached := run (step template domain) .empty before
    let delivered := step template domain reached (.store (.deliver delivery now))
    ∃ user row, recipientUser reached.db delivery.recipientMailbox = .ok user ∧
      delivered.db.messages = reached.db.messages ++ [row] ∧
      row.sender = delivery.senderMailbox ∧
      (row.trustState = "trusted" ↔ delivery.senderMailbox ≠ "" ∧
        ∃ pin ∈ reached.db.keyring, Db.pinKey pin = (user.id, delivery.senderMailbox)) ∧
      (∀ senderMailbox, (∃ pin ∈ reached.db.keyring, Db.pinKey pin = (user.id, senderMailbox)) ↔
        (user.id, senderMailbox) ∈ (run (step template domain) .empty
          (before.filter fun event => !pinsOther user.id event)).pins) ∧
      (Stays template domain row.id delivered after →
        ∃ last ∈ (run (step template domain) delivered after).db.messages, last.id = row.id ∧
          last.sender = row.sender ∧ last.trustState = row.trustState) := by
  dsimp only
  have mirrors := mirrors_run template domain before
  obtain ⟨user, handle, msg, recipient, _, _, sender, label, messages⟩ := deliver_accepted accepted
  refine ⟨user, _, recipient, messages, sender, ?_, fun senderMailbox => ?_, fun stays => ?_⟩
  · rw [← mirrors.pins, ← keyringState_trusted_iff mirrors user.id delivery.senderMailbox, ← label]
    rfl
  · rw [← mirrors.pins]
    exact (pins_of_own template domain user.id before ⟨rfl, fun _ => Iff.rfl⟩).pins senderMailbox
  · have delivered := mirrors_step template domain _ (.store (.deliver delivery now)) mirrors
    have member := List.mem_append_right
      (run (step template domain) .empty before).db.messages (List.mem_singleton_self
        (Db.newRow (run (step template domain) .empty before).db handle msg now))
    rw [← messages] at member
    exact label_of_stays template domain delivered after member stays

/-- Bob pins alice, and carol pins mallory. -/
def twoPins : List Event :=
  [.store createBob, .store (.createUser "carol" "" [] none none 0),
    .pin 1 "alice@a.io" "" [] 0, .pin 2 "mallory@m.io" "" [] 0]

/-- What alice writes to bob after that is trusted. -/
theorem alice_trusted :
    ∃ row, (step noTemplate "b.io" (run (step noTemplate "b.io") .empty twoPins)
        (.store (.deliver (invoice "m1") 0))).db.messages =
        (run (step noTemplate "b.io") .empty twoPins).db.messages ++ [row] ∧
      row.sender = "alice@a.io" ∧ row.trustState = "trusted" := by
  have accepted : (deliver noTemplate 0 (invoice "m1")
      (run (step noTemplate "b.io") .empty twoPins).db).1 = .accepted "m1" := by decide +kernel
  obtain ⟨user, row, recipient, messages, sender, label, _, _⟩ :=
    trust_labels_earned noTemplate "b.io" twoPins [] accepted
  have bob : user.id = 1 := by
    have found : (recipientUser (run (step noTemplate "b.io") .empty twoPins).db
        (invoice "m1").recipientMailbox).toOption.map User.id = some 1 := by decide +kernel
    rw [recipient] at found
    exact Option.some.inj found
  have pinned : ∃ pin ∈ (run (step noTemplate "b.io") .empty twoPins).db.keyring,
      Db.pinKey pin = (1, (invoice "m1").senderMailbox) := by decide +kernel
  have named : (invoice "m1").senderMailbox ≠ "" := by decide
  rw [← bob] at pinned
  exact ⟨row, messages, sender, label.mpr ⟨named, pinned⟩⟩

end Talk.Verif.TrustLabels
