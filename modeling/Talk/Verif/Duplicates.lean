import Talk.Verif.Inbox

/-!
# False duplicates

The envelope calls two deliveries duplicates when the same server sent them under the same message
id. The sink refuses a delivery as a duplicate when the INBOX of its recipient holds its message
id, whoever sent it. Over every run of deliveries the two agree exactly if no delivery uses a
message id under which the same recipient has accepted an invoice of another server.
-/

namespace Talk.Verif.Duplicates

open Mailstore Table Daemon Protocol Transition StoreSteps Inbox

/-- What happens at a server. -/
inductive Arrival where
  /-- A user is created. -/
  | createUser (username passwordHash : String) (masterPubkey : List UInt8)
    (ivkCommitment registrationAttestation : Option String) (now : Int64)
  /-- A user of a sending server delivers an invoice. -/
  | deliver (senderUser senderServer messageId recipientMailbox : String) (payload : Payload)
    (body : List UInt8) (now : Int64)

/-- The store, with the envelopes it has accepted. -/
structure History where
  /-- The store. -/
  db : Db
  /-- Accepted envelopes. -/
  accepted : List Envelope

/-- No history. -/
def start : History := ⟨.empty, []⟩

/-- The delivery of a sending user, as the session hands it to the sink. -/
def deliveryOf (senderUser senderServer messageId recipientMailbox : String) (payload : Payload)
    (body : List UInt8) : Delivery :=
  ⟨senderUser ++ "@" ++ senderServer, messageId, recipientMailbox, payload, body⟩

/-- What an arrival leaves. -/
def step (template : Template) (history : History) : Arrival → History
  | .createUser username passwordHash masterPubkey ivkCommitment registrationAttestation now =>
    { history with db := (history.db.createUserFull username passwordHash masterPubkey ivkCommitment
        registrationAttestation now).2 }
  | .deliver senderUser senderServer messageId recipientMailbox payload body now =>
    let (outcome, db) := deliver template now
      (deliveryOf senderUser senderServer messageId recipientMailbox payload body) history.db
    ⟨db, if outcome = .accepted messageId then
        history.accepted ++ [.new senderServer messageId ⟨recipientMailbox⟩ payload now]
      else history.accepted⟩

/-- The user an envelope was accepted for. -/
def userOf (envelope : Envelope) : String := mailboxUser envelope.recipient.mailbox

/-- An accepted envelope for the same user is a duplicate. -/
def Repeats (history : History) (envelope : Envelope) : Prop :=
  ∃ earlier ∈ history.accepted, userOf earlier = userOf envelope ∧
    envelope.isDuplicateOf earlier = true

/-- A delivery is refused as a duplicate only if it is one, and is else not refused to a known
recipient. -/
def NoFalseDuplicate (template : Template) (history : History) : Arrival → Prop
  | .createUser .. => True
  | .deliver senderUser senderServer messageId recipientMailbox payload body now =>
    let outcome := (deliver template now
      (deliveryOf senderUser senderServer messageId recipientMailbox payload body) history.db).1
    let envelope := Envelope.new senderServer messageId ⟨recipientMailbox⟩ payload now
    (outcome = .rejected ("duplicate message id: " ++ messageId) → Repeats history envelope) ∧
      (Known history.db (mailboxUser recipientMailbox) → ¬Repeats history envelope →
        outcome = .accepted messageId)

/-- The recipient has accepted the message id from no other server. -/
def OwnId (history : History) : Arrival → Prop
  | .createUser .. => True
  | .deliver _ senderServer messageId recipientMailbox _ _ _ => ∀ earlier ∈ history.accepted,
      userOf earlier = mailboxUser recipientMailbox → earlier.messageId = messageId →
      earlier.senderServer = senderServer

/-- What the accepted envelopes say about the store. -/
structure Tracked (history : History) : Prop where
  /-- The keys are unique. -/
  keyed : Keyed history.db
  /-- Every user has an INBOX. -/
  furnished : Furnished history.db
  /-- Recipients of accepted envelopes are known. -/
  known : ∀ envelope ∈ history.accepted, Known history.db (userOf envelope)
  /-- The inboxes hold what was accepted. -/
  held : ∀ username messageId, Held history.db username messageId ↔
    ∃ envelope ∈ history.accepted, userOf envelope = username ∧ envelope.messageId = messageId
  /-- A recipient has accepted a message id from one server. -/
  single : ∀ left ∈ history.accepted, ∀ right ∈ history.accepted, userOf left = userOf right →
    left.messageId = right.messageId → left.senderServer = right.senderServer

/-- The empty history is tracked. -/
theorem tracked_start : Tracked start := by
  refine ⟨keyed_empty, nofun, nofun, fun username messageId => ⟨?_, ?_⟩, nofun⟩
  · rintro ⟨mailboxId, ⟨user, member, -⟩, -⟩
    cases member
  · rintro ⟨envelope, member, -⟩
    cases member

/-- A new user keeps the records right. -/
theorem tracked_createUser {history : History} (tracked : Tracked history) (username
    passwordHash : String) (masterPubkey : List UInt8)
    (ivkCommitment registrationAttestation : Option String) (now : Int64) :
    Tracked { history with db := (history.db.createUserFull username passwordHash masterPubkey
      ivkCommitment registrationAttestation now).2 } := by
  have changes := createUserFull_changes tracked.keyed username passwordHash masterPubkey
    ivkCommitment registrationAttestation now
  have same := sameHeld_createUserFull tracked.keyed username passwordHash masterPubkey
    ivkCommitment registrationAttestation now
  refine ⟨keyed_changes tracked.keyed changes, ?_, ?_, ?_, tracked.single⟩
  · exact furnished_apply noTemplate "" tracked.keyed tracked.furnished (.createUser username
      passwordHash masterPubkey ivkCommitment registrationAttestation now)
  · intro envelope member
    exact known_changes changes (tracked.known envelope member)
  · intro name messageId
    exact (same name messageId).trans (tracked.held name messageId)

/-- Whoever sent it, a delivery keeps the records right. -/
theorem tracked_deliver {template : Template} {history : History} (tracked : Tracked history)
    (senderUser senderServer messageId recipientMailbox : String) (payload : Payload)
    (body : List UInt8) (now : Int64) :
    Tracked (step template history
      (.deliver senderUser senderServer messageId recipientMailbox payload body now)) := by
  have changes := apply_changes template "" tracked.keyed
    (.deliver (deliveryOf senderUser senderServer messageId recipientMailbox payload body) now)
  have furnished := furnished_apply template "" tracked.keyed tracked.furnished
    (.deliver (deliveryOf senderUser senderServer messageId recipientMailbox payload body) now)
  rw [apply] at changes furnished
  rw [step]
  rcases deliver_spec tracked.keyed tracked.furnished template now
    (deliveryOf senderUser senderServer messageId recipientMailbox payload body) with
    ⟨-, refused⟩ | ⟨-, -, refused⟩ | ⟨known, fresh, after, accepted, gains⟩
  · rw [refused]
    exact tracked
  · rw [refused]
    exact tracked
  · rw [accepted] at changes furnished ⊢
    dsimp only [deliveryOf] at known fresh gains ⊢
    rw [if_pos rfl]
    -- No accepted envelope has the pair, so the new one is alone with it.
    have alone : ∀ envelope ∈ history.accepted, userOf envelope = mailboxUser recipientMailbox →
        envelope.messageId ≠ messageId :=
      fun envelope member user id => fresh ((tracked.held _ _).mpr ⟨envelope, member, user, id⟩)
    refine ⟨keyed_changes tracked.keyed changes, furnished, fun envelope member => ?_,
      fun name id => ?_, fun left leftMember right rightMember user id => ?_⟩
    · refine known_changes changes ?_
      rcases List.mem_append.mp member with old | new
      · exact tracked.known envelope old
      · rw [List.mem_singleton.mp new]
        exact known
    · rw [gains, tracked.held]
      simp only [List.mem_append, List.mem_singleton]
      constructor
      · rintro (⟨envelope, member, rest⟩ | ⟨rfl, rfl⟩)
        · exact ⟨envelope, .inl member, rest⟩
        · exact ⟨_, .inr rfl, rfl, rfl⟩
      · rintro ⟨envelope, member | rfl, user, id⟩
        · exact .inl ⟨envelope, member, user, id⟩
        · exact .inr ⟨user.symm, id.symm⟩
    · rcases List.mem_append.mp leftMember with leftOld | leftNew
      · rcases List.mem_append.mp rightMember with rightOld | rightNew
        · exact tracked.single left leftOld right rightOld user id
        · obtain rfl := List.mem_singleton.mp rightNew
          exact absurd id (alone left leftOld user)
      · rcases List.mem_append.mp rightMember with rightOld | rightNew
        · obtain rfl := List.mem_singleton.mp leftNew
          exact absurd id.symm (alone right rightOld user.symm)
        · rw [List.mem_singleton.mp leftNew, List.mem_singleton.mp rightNew]

/-- Arrivals keep the records right. -/
theorem tracked_step (template : Template) (history : History) (arrival : Arrival)
    (tracked : Tracked history) : Tracked (step template history arrival) := by
  cases arrival with
  | createUser => exact tracked_createUser tracked ..
  | deliver => exact tracked_deliver tracked ..

/-- An unknown recipient is not refused as a duplicate. -/
theorem unknownReason_ne (username messageId : String) :
    unknownReason username ≠ "duplicate message id: " ++ messageId := by
  intro same
  have first := congrArg (fun text => text.toList.head?) same
  unfold unknownReason at first
  split at first
  · rw [String.toList_append] at first
    exact absurd first (by simp)
  · rw [String.toList_append, String.toList_append] at first
    exact absurd first (by simp)

/-- A delivery is no false duplicate exactly if its recipient has its message id from no other
server. -/
theorem no_false_duplicate_iff {template : Template} {history : History}
    (tracked : Tracked history) (senderUser senderServer messageId recipientMailbox : String)
    (payload : Payload) (body : List UInt8) (now : Int64) :
    OwnId history (.deliver senderUser senderServer messageId recipientMailbox payload body now) ↔
      NoFalseDuplicate template history
        (.deliver senderUser senderServer messageId recipientMailbox payload body now) := by
  rw [OwnId, NoFalseDuplicate]
  have earlier := tracked.held (mailboxUser recipientMailbox) messageId
  rcases deliver_spec tracked.keyed tracked.furnished template now
    (deliveryOf senderUser senderServer messageId recipientMailbox payload body) with
    ⟨unknown, refused⟩ | ⟨-, held, refused⟩ | ⟨-, fresh, after, accepted, -⟩
  · rw [refused]
    refine iff_of_true (fun envelope member user => ?_) ⟨fun same => ?_, fun known => ?_⟩
    · exact absurd (user ▸ tracked.known envelope member) unknown
    · exact absurd (DeliveryOutcome.rejected.inj same) (unknownReason_ne _ _)
    · exact absurd known unknown
  · rw [refused]
    obtain ⟨envelope, member, user, id⟩ := earlier.mp held
    have repeats : (∀ other ∈ history.accepted, userOf other = mailboxUser recipientMailbox →
        other.messageId = messageId → other.senderServer = senderServer) ↔
        Repeats history (.new senderServer messageId ⟨recipientMailbox⟩ payload now) := by
      constructor
      · intro own
        refine ⟨envelope, member, user, Envelope.isDuplicateOf_iff.mpr ⟨?_, id.symm⟩⟩
        exact (own envelope member user id).symm
      · rintro ⟨other, found, otherUser, duplicate⟩ third inside thirdUser thirdId
        obtain ⟨server, otherId⟩ := Envelope.isDuplicateOf_iff.mp duplicate
        rw [tracked.single third inside other found (thirdUser.trans otherUser.symm)
          (thirdId.trans otherId)]
        exact server.symm
    rw [repeats]
    constructor
    · intro repeated
      exact ⟨fun _ => repeated, fun _ fresh => absurd repeated fresh⟩
    · rintro ⟨only, -⟩
      exact only rfl
  · rw [accepted]
    refine iff_of_true (fun envelope member user id => ?_) ⟨nofun, fun _ _ => rfl⟩
    exact absurd (earlier.mpr ⟨envelope, member, user, id⟩) fresh

/-- Over every run, a delivery is refused as a duplicate only if an accepted envelope for the same
recipient is one, exactly if no delivery uses a message id under which its recipient has accepted
an invoice of another server. -/
theorem no_false_duplicates_iff_own_ids (template : Template) (arrivals : List Arrival) :
    Guarded (step template) OwnId start arrivals ↔
      Guarded (step template) (NoFalseDuplicate template) start arrivals := by
  have kept : ∀ history arrival, Tracked history → OwnId history arrival →
      Tracked (step template history arrival) :=
    fun history arrival tracked _ => tracked_step template history arrival tracked
  refine guarded_iff kept ?_ tracked_start arrivals
  intro history arrival tracked
  cases arrival with
  | createUser => exact Iff.rfl
  | deliver => exact no_false_duplicate_iff tracked ..

/-! ## Two servers, one message id -/

/-- Two servers deliver to bob under one message id. -/
def sharedId : List Arrival :=
  [.createUser "bob" "" [] none none 0, .deliver "alice" "a.io" "m1" "bob@b.io" .sealed [] 0,
    .deliver "carol" "c.io" "m1" "bob@b.io" .sealed [] 0]

/-- The second one is refused as a duplicate of the first. -/
theorem other_server_refused :
    ¬Guarded (step noTemplate) (NoFalseDuplicate noTemplate) start sharedId := by
  rintro ⟨-, -, ⟨only, -⟩, -⟩
  obtain ⟨envelope, member, -, duplicate⟩ := only (by decide +kernel)
  revert envelope
  decide +kernel

end Talk.Verif.Duplicates
