import Talk.Verif.StoreSteps

/-!
# The mailbox listing

A listing joins the messages of a mailbox with the transactions that point at their rows. It shows
every row once, with the status of its own message, when no row is pointed at by two transactions
or by one of another message. Transactions keep pointing at a row that was expunged, and a new
message can get its row id; so the listing stays faithful exactly as long as no stored message
gets a row id that another message's transaction still points at.
-/

namespace Talk.Verif.FaithfulView

open Mailstore Table Daemon Protocol Transition StoreSteps

/-! ## Listings -/

/-- An entry without its status. -/
def withoutTx (entry : MessageMeta) : MessageMeta := { entry with txState := none, txId := none }

/-- An entry has no status, or that of a transaction with its message id. -/
def Belongs (db : Db) (entry : MessageMeta) : Prop :=
  (entry.txState = none ∧ entry.txId = none) ∨
    ∃ tx ∈ db.transactions, tx.messageId = entry.messageId ∧
      entry.txState = some tx.state.word ∧ entry.txId = some tx.id

/-- Every listing shows each row of its mailbox once, with the status of its own message. -/
def Faithful (db : Db) : Prop :=
  ∀ userId mailbox handle entries, db.mailboxNamed userId mailbox = .ok handle →
    db.listMessagesIn userId mailbox = .ok entries →
    (entries.map withoutTx).Perm
      ((db.rowsIn handle.id).map fun row => Db.rowToMeta handle.uidvalidity (row, none)) ∧
    ∀ entry ∈ entries, Belongs db entry

/-- Stored rows are pointed at by at most one transaction, of their own message. -/
structure Joined (db : Db) : Prop where
  /-- At most one transaction. -/
  single : ∀ row ∈ db.messages, ∀ left ∈ db.transactions, ∀ right ∈ db.transactions,
    left.messageRowId = some row.id → right.messageRowId = some row.id → left = right
  /-- Of the same message. -/
  named : ∀ row ∈ db.messages, ∀ tx ∈ db.transactions,
    tx.messageRowId = some row.id → tx.messageId = row.messageId

/-- A transaction that points at a row. -/
theorem linked_iff {row : MessageRow} {tx : Transaction} :
    Db.linked row tx = true ↔ tx.messageRowId = some row.id := beq_iff_eq

/-- Listings are faithful where rows are joined with their own transactions. -/
theorem faithful_of_joined {db : Db} (keyed : Keyed db) (joined : Joined db) : Faithful db := by
  intro userId mailbox handle entries named listed
  rw [Db.listMessagesIn, named] at listed
  obtain rfl := Except.ok.inj listed
  have single : ∀ row ∈ db.rowsIn handle.id,
      (db.transactions.filter (Db.linked row)).length ≤ 1 := by
    intro row member
    refine length_le_one (keyed.txIds.of_map.filter _) fun left leftMember right rightMember => ?_
    rw [List.mem_filter, linked_iff] at leftMember rightMember
    exact joined.single row (List.mem_of_mem_filter member) left leftMember.1 right rightMember.1
      leftMember.2 rightMember.2
  constructor
  · have rows := congrArg (List.map fun row => Db.rowToMeta handle.uidvalidity (row, none))
      (map_fst_leftJoin single)
    rw [List.map_map] at rows
    rw [List.map_map, ← rows]
    exact (List.perm_insertionSort _ _).map _
  · intro entry member
    obtain ⟨⟨row, tx?⟩, sorted, rfl⟩ := List.mem_map.mp member
    have pair := (List.mem_insertionSort _).mp sorted
    cases tx? with
    | none => exact .inl ⟨rfl, rfl⟩
    | some tx =>
      obtain ⟨inside, recorded, points⟩ := mem_leftJoin.mp pair
      refine .inr ⟨tx, recorded, ?_, rfl, rfl⟩
      exact joined.named row (List.mem_of_mem_filter inside) tx recorded (linked_iff.mp points)

/-- Where listings are faithful, rows are joined with their own transactions. -/
theorem joined_of_faithful {db : Db} (keyed : Keyed db) (faithful : Faithful db) : Joined db := by
  have seen : ∀ row ∈ db.messages, (db.transactions.filter (Db.linked row)).length ≤ 1 ∧
      ∀ tx ∈ db.transactions, tx.messageRowId = some row.id → tx.messageId = row.messageId := by
    intro row stored
    obtain ⟨box, member, home⟩ := keyed.homes row stored
    have inside : row ∈ db.rowsIn box.id := List.mem_filter.mpr ⟨stored, by simp [home]⟩
    have named := mailboxNamed_of_mem keyed member
    obtain ⟨rows, statuses⟩ := faithful box.userId box.name _ _ named (by
      rw [Db.listMessagesIn, named])
    constructor
    · have count := rows.length_eq
      rw [List.length_map, List.length_map, List.length_map, List.length_insertionSort] at count
      exact single_of_length_leftJoin (Nat.le_of_eq count) row inside
    · intro tx recorded points
      have pair : (row, some tx) ∈ leftJoin Db.linked (db.rowsIn box.id) db.transactions :=
        mem_leftJoin.mpr ⟨inside, recorded, linked_iff.mpr points⟩
      have entry := List.mem_map_of_mem (f := Db.rowToMeta box.uidvalidity)
        ((List.mem_insertionSort Db.newer).mpr pair)
      rcases statuses _ entry with ⟨none, -⟩ | ⟨other, found, own, -, shown⟩
      · cases none
      · obtain rfl := eq_of_unique keyed.txIds found recorded (Option.some.inj shown).symm
        exact own
  constructor
  · intro row stored left leftMember right rightMember leftPoints rightPoints
    exact eq_of_length_le_one (seen row stored).1
      (List.mem_filter.mpr ⟨leftMember, linked_iff.mpr leftPoints⟩)
      (List.mem_filter.mpr ⟨rightMember, linked_iff.mpr rightPoints⟩)
  · intro row stored
    exact (seen row stored).2

/-! ## Links -/

/-- No row id is pointed at by two transactions, and stored rows only by their own. -/
structure Links (db : Db) : Prop where
  /-- At most one transaction. -/
  single : ∀ left ∈ db.transactions, ∀ right ∈ db.transactions, ∀ rowId,
    left.messageRowId = some rowId → right.messageRowId = some rowId → left = right
  /-- Of the same message, where the row is stored. -/
  named : ∀ row ∈ db.messages, ∀ tx ∈ db.transactions,
    tx.messageRowId = some row.id → tx.messageId = row.messageId

/-- The empty store has no links. -/
theorem links_empty : Links .empty :=
  ⟨fun _ member => absurd member List.not_mem_nil, fun _ member => absurd member List.not_mem_nil⟩

/-- Links join stored rows with their own transactions. -/
theorem joined_of_links {db : Db} (links : Links db) : Joined db :=
  ⟨fun row _ left leftMember right rightMember => links.single left leftMember right rightMember
    row.id, links.named⟩

/-- Links only depend on the rows and the transactions. -/
theorem links_congr {db after : Db} (links : Links db) (rows : after.messages = db.messages)
    (ledger : after.transactions = db.transactions) : Links after := by
  constructor
  · rw [ledger]
    exact links.single
  · rw [rows, ledger]
    exact links.named

/-- A new row that only its own transactions point at. -/
theorem links_inserted {db : Db} (links : Links db) (handle : Db.Handle) (msg : NewMessage)
    (now : Int64)
    (own : ∀ tx ∈ db.transactions, tx.messageRowId = some (nextId MessageRow.id db.messages) →
      tx.messageId = msg.messageId) : Links (db.inserted handle msg now) := by
  refine ⟨links.single, fun row stored => ?_⟩
  rcases List.mem_append.mp stored with old | new
  · exact links.named row old
  · obtain rfl := List.mem_singleton.mp new
    exact own

/-- A new transaction that points at nothing. -/
theorem links_tx {db : Db} (links : Links db) {tx : Transaction}
    (unlinked : tx.messageRowId = none) :
    Links { db with transactions := db.transactions ++ [tx] } := by
  have old : ∀ other ∈ db.transactions ++ [tx], ∀ rowId, other.messageRowId = some rowId →
      other ∈ db.transactions := by
    intro other member rowId points
    rcases List.mem_append.mp member with old | new
    · exact old
    · obtain rfl := List.mem_singleton.mp new
      rw [unlinked] at points
      cases points
  constructor
  · intro left leftMember right rightMember rowId leftPoints rightPoints
    exact links.single left (old left leftMember rowId leftPoints) right
      (old right rightMember rowId rightPoints) rowId leftPoints rightPoints
  · intro row stored other member points
    exact links.named row stored other (old other member row.id points) points

/-- A transition of a transaction keeps where it points. -/
theorem links_transition {db : Db} (links : Links db) (id : Nat) (state : TxState) (now : Int64) :
    Links (db.txUpdate id fun tx => { tx with state := state, updatedAt := now }) := by
  have same : ∀ tx ∈ db.transactions, ∀ after : Transaction,
      (after = if decide (tx.id = id) then { tx with state := state, updatedAt := now } else tx) →
      after.messageRowId = tx.messageRowId ∧ after.messageId = tx.messageId := by
    rintro tx - after rfl
    split
    · exact ⟨rfl, rfl⟩
    · exact ⟨rfl, rfl⟩
  constructor
  · intro left leftMember right rightMember rowId leftPoints rightPoints
    obtain ⟨oldLeft, leftFound, leftSame⟩ := mem_update.mp leftMember
    obtain ⟨oldRight, rightFound, rightSame⟩ := mem_update.mp rightMember
    rw [(same oldLeft leftFound left leftSame).1] at leftPoints
    rw [(same oldRight rightFound right rightSame).1] at rightPoints
    obtain rfl := links.single oldLeft leftFound oldRight rightFound rowId leftPoints rightPoints
    exact leftSame.trans rightSame.symm
  · intro row stored tx member points
    obtain ⟨old, found, image⟩ := mem_update.mp member
    rw [(same old found tx image).1] at points
    rw [(same old found tx image).2]
    exact links.named row stored old found points

/-- What a transaction is after one was linked. -/
theorem mem_txLinkMessage {db : Db} (keyed : Keyed db) {tx : Transaction}
    (member : tx ∈ db.transactions) (rowId : Nat) (now : Int64) {after : Transaction} :
    after ∈ (db.txLinkMessage tx.id rowId now).transactions ↔
      after = { tx with messageRowId := some rowId, updatedAt := now } ∨
        after ∈ db.transactions ∧ after.id ≠ tx.id :=
  mem_txUpdate keyed member _

/-- A transaction is linked to the row of its message, which no other points at. -/
theorem links_link {db : Db} (keyed : Keyed db) (links : Links db) {tx : Transaction}
    (member : tx ∈ db.transactions) {row : MessageRow} (stored : row ∈ db.messages)
    (same : tx.messageId = row.messageId)
    (only : ∀ other ∈ db.transactions, other.messageRowId = some row.id → other.id = tx.id)
    (now : Int64) : Links (db.txLinkMessage tx.id row.id now) := by
  constructor
  · intro left leftMember right rightMember rowId leftPoints rightPoints
    rcases (mem_txLinkMessage keyed member row.id now).mp leftMember with
      rfl | ⟨leftFound, leftOther⟩
    · rcases (mem_txLinkMessage keyed member row.id now).mp rightMember with
        rfl | ⟨rightFound, rightOther⟩
      · rfl
      · obtain rfl := Option.some.inj leftPoints
        exact absurd (only right rightFound rightPoints) rightOther
    · rcases (mem_txLinkMessage keyed member row.id now).mp rightMember with
        rfl | ⟨rightFound, rightOther⟩
      · obtain rfl := Option.some.inj rightPoints
        exact absurd (only left leftFound leftPoints) leftOther
      · exact links.single left leftFound right rightFound rowId leftPoints rightPoints
  · intro other inside after found points
    rcases (mem_txLinkMessage keyed member row.id now).mp found with rfl | ⟨old, -⟩
    · obtain rfl := eq_of_unique keyed.rowIds stored inside (Option.some.inj points)
      exact same
    · exact links.named other inside after old points

/-- When a linked row is joined with one transaction, no other has pointed at it. -/
theorem only_of_joined {db : Db} (keyed : Keyed db) {tx : Transaction}
    (member : tx ∈ db.transactions) {row : MessageRow} (stored : row ∈ db.messages) {now : Int64}
    (joined : Joined (db.txLinkMessage tx.id row.id now)) :
    ∀ other ∈ db.transactions, other.messageRowId = some row.id → other.id = tx.id := by
  intro other found points
  by_contra differs
  have left := (mem_txLinkMessage keyed member row.id now).mpr (.inr ⟨found, differs⟩)
  have right := (mem_txLinkMessage keyed member row.id now).mpr (.inl rfl)
  have same := joined.single row stored other left _ right points rfl
  exact differs (by rw [same])

/-! ## Operations -/

/-- Where a received message is stored, the transactions that point at its row are of the same
message, which has an inbound one. -/
def ClearInbound (db : Db) (recipient messageId : String) : Prop :=
  ∀ user handle, recipientUser db recipient = .ok user →
    db.mailboxNamed user.id inbox = .ok handle → db.holds handle.id messageId = false →
    ∀ tx ∈ db.transactions, tx.messageRowId = some (nextId MessageRow.id db.messages) →
      tx.messageId = messageId ∧ ∃ other ∈ db.transactions, Db.txKey other = (.incoming, messageId)

/-- Where a sent copy is stored, the transaction that points at its row is its own. -/
def ClearOutbound (db : Db) (senderUsername messageId : String) : Prop :=
  ∀ user handle, db.getUser senderUsername = some user →
    db.mailboxNamed user.id sent = .ok handle → db.holds handle.id messageId = false →
    ∀ tx ∈ db.transactions, tx.messageRowId = some (nextId MessageRow.id db.messages) →
      Db.txKey tx = (.outgoing, messageId)

/-- A message that an operation stores does not get a row id that another message's transaction
points at. -/
def Clear (db : Db) : Operation → Prop
  | .deliver delivery _ => ClearInbound db delivery.recipientMailbox delivery.messageId
  | .emulate recipient _ _ messageId _ _ _ => ClearInbound db recipient messageId
  | .recordOutbound senderUsername _ messageId _ _ _ _ => ClearOutbound db senderUsername messageId
  | _ => True

/-- A condition decides whether the links are right after a step. -/
structure Decides (clear : Prop) (after : Db) : Prop where
  /-- It is enough. -/
  enough : clear → Links after
  /-- It is needed. -/
  needed : Joined after → clear

/-- A condition that holds decides for right links. -/
theorem decides_of_links {clear : Prop} {after : Db} (holds : clear) (links : Links after) :
    Decides clear after :=
  ⟨fun _ => links, fun _ => holds⟩

/-- The row of a message that is inserted is among the messages. -/
theorem newRow_mem (db : Db) (handle : Db.Handle) (msg : NewMessage) (now : Int64) :
    db.newRow handle msg now ∈ (db.inserted handle msg now).messages :=
  List.mem_append_right _ (List.mem_singleton_self _)

/-- Recording a received message: its transaction is linked to its row, or there was one. -/
theorem recordInboundTx_decides {db : Db} (keyed : Keyed db) (links : Links db)
    {handle : Db.Handle} {msg : NewMessage}
    (fresh : db.holds handle.id msg.messageId = false)
    (read : ∃ userId name, db.mailboxNamed userId name = .ok handle)
    (recipientMailbox amount : String) (now : Int64) :
    Decides (∀ tx ∈ db.transactions, tx.messageRowId = some (nextId MessageRow.id db.messages) →
        tx.messageId = msg.messageId ∧
          ∃ other ∈ db.transactions, Db.txKey other = (.incoming, msg.messageId))
      (recordInboundTx (db.inserted handle msg now) msg.sender recipientMailbox amount
        msg.messageId (nextId MessageRow.id db.messages) now) := by
  have keyedRow := keyed_change keyed (.message handle msg now fresh read)
  rcases recordInboundTx_cases (db.inserted handle msg now) msg.sender recipientMailbox amount
    msg.messageId (nextId MessageRow.id db.messages) now with ⟨taken, kept⟩ | ⟨newKey, recorded⟩
  · rw [kept]
    constructor
    · intro own
      exact links_inserted links handle msg now fun tx member points => (own tx member points).1
    · intro joined tx member points
      exact ⟨joined.named _ (newRow_mem db handle msg now) tx member points, taken⟩
  · have keyedTx := keyed_change keyedRow (.tx (Db.newTx (db.inserted handle msg now)
      (inboundTx msg.sender recipientMailbox amount msg.messageId) now) rfl newKey rfl)
    have member := List.mem_append_right (db.inserted handle msg now).transactions
      (List.mem_singleton_self (Db.newTx (db.inserted handle msg now)
        (inboundTx msg.sender recipientMailbox amount msg.messageId) now))
    rw [recorded]
    constructor
    · intro own
      have free : ∀ tx ∈ db.transactions,
          tx.messageRowId ≠ some (nextId MessageRow.id db.messages) := by
        intro tx inside points
        obtain ⟨other, found, key⟩ := (own tx inside points).2
        exact newKey other found key
      refine links_link keyedTx (links_tx (links_inserted links handle msg now
        fun tx inside points => absurd points (free tx inside)) rfl) member
        (newRow_mem db handle msg now) rfl ?_ now
      intro other found points
      rcases List.mem_append.mp found with old | new
      · exact absurd points (free other old)
      · obtain rfl := List.mem_singleton.mp new
        cases points
    · intro joined tx inside points
      have only := only_of_joined keyedTx member (newRow_mem db handle msg now) joined tx
        (List.mem_append_left _ inside) points
      exact absurd only (nextId_fresh Transaction.id db.transactions tx inside)

/-- A clear inbound message id decides whether storing a received message keeps the links right. -/
theorem store_decides {db : Db} (keyed : Keyed db) (links : Links db) {recipient : String}
    {user : User} (found : recipientUser db recipient = .ok user) (msg : NewMessage)
    (amount : String) (now : Int64) :
    Decides (ClearInbound db recipient msg.messageId)
      (store db user.id msg recipient amount now).2 := by
  rcases store_cases db user.id msg recipient amount now with
    ⟨missing, kept⟩ | ⟨handle, named, ⟨held, kept⟩ | ⟨fresh, stored⟩⟩
  · rw [kept]
    refine decides_of_links (fun other handle same named => ?_) links
    obtain rfl := Except.ok.inj (found.symm.trans same)
    rw [missing] at named
    cases named
  · rw [kept]
    refine decides_of_links (fun other box same again fresh => ?_) links
    obtain rfl := Except.ok.inj (found.symm.trans same)
    obtain rfl := Except.ok.inj (named.symm.trans again)
    rw [held] at fresh
    cases fresh
  · rw [stored]
    have decided := recordInboundTx_decides keyed links fresh ⟨_, _, named⟩ recipient amount now
    constructor
    · intro clear
      exact decided.enough (clear user handle found named fresh)
    · intro joined other box same again _
      exact decided.needed joined

/-- Storing the copy of a sent invoice, and linking its transaction to it. -/
theorem sentCopy_decides {db : Db} (keyed : Keyed db) (links : Links db) (template : Template)
    (senderUsername senderMailbox recipientMailbox : String) (body : List UInt8)
    {tx : Transaction} (member : tx ∈ db.transactions) (outgoing : tx.direction = .outgoing)
    (now : Int64) :
    Decides (ClearOutbound db senderUsername tx.messageId)
      (sentCopy db template senderUsername senderMailbox recipientMailbox tx.messageId body tx.id
        now) := by
  rcases sentCopy_cases db template senderUsername senderMailbox recipientMailbox tx.messageId body
    tx.id now with ⟨held, kept⟩ | ⟨user, handle, msg, found, named, same, -, fresh, stored⟩
  · rw [kept]
    refine decides_of_links (fun user handle found named fresh => ?_) links
    rw [held user handle found named] at fresh
    cases fresh
  · rw [stored]
    rw [← same] at fresh
    have keyedRow := keyed_change keyed (.message handle msg now fresh ⟨_, _, named⟩)
    have row := newRow_mem db handle msg now
    have own : ∀ other ∈ db.transactions, Db.txKey other = (.outgoing, tx.messageId) ↔
        other.id = tx.id := by
      intro other found
      constructor
      · intro key
        rw [eq_of_unique keyed.txKeys found member (key.trans (by rw [Db.txKey, outgoing]))]
      · intro id
        rw [eq_of_unique keyed.txIds found member id, Db.txKey, outgoing]
    constructor
    · intro clear
      have only : ∀ other ∈ db.transactions,
          other.messageRowId = some (nextId MessageRow.id db.messages) → other.id = tx.id := by
        intro other inside points
        exact (own other inside).mp
          (clear user handle found named (same ▸ fresh) other inside points)
      refine links_link keyedRow (links_inserted links handle msg now ?_) member row same.symm only
        now
      intro other inside points
      rw [eq_of_unique keyed.txIds inside member (only other inside points), same]
    · intro joined _ _ _ _ _ other inside points
      exact (own other inside).mpr (only_of_joined keyedRow member row joined other inside points)

/-- The condition on a sent copy does not depend on what a transition changes. -/
theorem clearOutbound_transition (db : Db) (senderUsername messageId : String) (id : Nat)
    (state : TxState) (now : Int64) :
    ClearOutbound (db.txUpdate id fun tx => { tx with state := state, updatedAt := now })
      senderUsername messageId ↔ ClearOutbound db senderUsername messageId := by
  refine forall₅_congr fun user handle found named fresh => ?_
  rw [Db.txUpdate]
  constructor
  · intro clear tx member points
    have image := clear _ (mem_update.mpr ⟨tx, member, rfl⟩)
    split at image
    · exact image points
    · exact image points
  · intro clear tx member points
    obtain ⟨old, inside, rfl⟩ := mem_update.mp member
    have own := clear old inside
    by_cases same : old.id = id
    · simp only [same, decide_true, if_true] at points ⊢
      exact own points
    · simp only [same, decide_false, Bool.false_eq_true, if_false] at points ⊢
      exact own points

/-- The condition on a sent copy does not depend on a transaction that points at nothing. -/
theorem clearOutbound_tx (db : Db) (senderUsername messageId : String) {tx : Transaction}
    (unlinked : tx.messageRowId = none) :
    ClearOutbound { db with transactions := db.transactions ++ [tx] } senderUsername messageId ↔
      ClearOutbound db senderUsername messageId := by
  refine forall₅_congr fun user handle found named fresh => ?_
  constructor
  · intro clear other member
    exact clear other (List.mem_append_left _ member)
  · intro clear other member points
    rcases List.mem_append.mp member with old | new
    · exact clear other old points
    · obtain rfl := List.mem_singleton.mp new
      rw [unlinked] at points
      cases points

/-- A clear outbound message id decides whether recording an attempt keeps the links right. -/
theorem recordOutboundTx_decides {db : Db} (keyed : Keyed db) (links : Links db)
    (template : Template) (senderDomain senderUsername recipientMailbox messageId : String)
    (payload : Payload) (body : List UInt8) (state : TxState) (now : Int64) :
    Decides (ClearOutbound db senderUsername messageId)
      (recordOutboundTx db template senderDomain senderUsername recipientMailbox messageId payload
        body state now) := by
  obtain ⟨txId, middle, done, ⟨tx, member, key, rfl, same⟩ | ⟨fresh, rfl, same⟩⟩ :=
    recordOutboundTx_eq db template senderDomain senderUsername recipientMailbox messageId payload
      body state now
  · obtain ⟨direction, rfl⟩ := Prod.mk.inj key
    rw [done, same, ← clearOutbound_transition db senderUsername tx.messageId tx.id state now]
    have updated : { tx with state := state, updatedAt := now } ∈
        (db.txUpdate tx.id fun tx => { tx with state := state, updatedAt := now }).transactions :=
      mem_update.mpr ⟨tx, member, by simp⟩
    exact sentCopy_decides (keyed_change keyed (.txUpdate _ _ (keeps_transition state now)))
      (links_transition links tx.id state now) template senderUsername _ recipientMailbox body
      updated direction now
  · generalize new : db.newTx (outboundTx (senderUsername ++ "@" ++ senderDomain) recipientMailbox
      messageId payload body state) now = tx at same
    have unlinked : tx.messageRowId = none := new ▸ rfl
    rw [done, same, ← clearOutbound_tx db senderUsername messageId unlinked]
    have keyedTx := keyed_change keyed (.tx tx (new ▸ rfl) (new ▸ fresh) unlinked)
    subst new
    exact sentCopy_decides keyedTx (links_tx links unlinked) template senderUsername _
      recipientMailbox body (List.mem_append_right _ (List.mem_singleton_self _)) rfl now

/-- Creating a user touches neither messages nor transactions. -/
theorem links_createUserFull {db : Db} (links : Links db) (username passwordHash : String)
    (masterPubkey : List UInt8) (ivkCommitment registrationAttestation : Option String)
    (now : Int64) :
    Links (db.createUserFull username passwordHash masterPubkey ivkCommitment
      registrationAttestation now).2 := by
  unfold Db.createUserFull
  split
  · exact links
  · exact links_congr links rfl rfl

/-- Changing flags keeps the rows. -/
theorem links_setFlagsIn {db : Db} (links : Links db) (userId : Nat) (mailbox : String)
    (messageId : Nat) (mask : UInt32) (value : Bool) :
    Links (db.setFlagsIn userId mailbox messageId mask value).2 := by
  unfold Db.setFlagsIn
  split
  · exact links
  · refine ⟨links.single, fun row stored tx member => ?_⟩
    obtain ⟨old, inside, rfl⟩ := mem_update.mp stored
    have named := links.named old inside tx member
    split
    · exact named
    · exact named

/-- Expunging only removes rows. -/
theorem links_expungeIn {db : Db} (links : Links db) (userId : Nat) (mailbox : String) :
    Links (db.expungeIn userId mailbox).2 := by
  rcases expungeIn_cases db userId mailbox with kept | ⟨handle, -, deleted⟩
  · rw [kept]
    exact links
  · rw [deleted]
    exact ⟨links.single, fun row stored => links.named row (List.mem_of_mem_filter stored)⟩

/-- That an operation is clear decides whether it keeps the links right. -/
theorem apply_decides (template : Template) (domain : String) {db : Db} (keyed : Keyed db)
    (links : Links db) (operation : Operation) :
    Decides (Clear db operation) (apply template domain db operation) := by
  cases operation with
  | createUser => exact decides_of_links trivial (links_createUserFull links ..)
  | deliver delivery now =>
    rcases deliver_cases template now delivery db with
      ⟨reason, missing, refused⟩ | ⟨user, msg, found, id, -, done⟩
    · rw [apply, refused]
      refine decides_of_links (fun user handle found => ?_) links
      rw [missing] at found
      cases found
    · rw [apply, done, Clear, ← id]
      exact store_decides keyed links found msg "" now
  | emulate recipient senderLabel amount messageId subject body now =>
    rcases deliverEmulated_cases db recipient senderLabel amount messageId subject body now with
      ⟨outcome, missing, refused⟩ | ⟨user, msg, found, rfl, -, done⟩
    · rw [apply, refused]
      refine decides_of_links (fun user handle found => ?_) links
      rw [missing] at found
      cases found
    · rw [apply, done]
      exact store_decides keyed links found msg amount now
  | recordOutbound => exact recordOutboundTx_decides keyed links ..
  | setFlags => exact decides_of_links trivial (links_setFlagsIn links ..)
  | expunge => exact decides_of_links trivial (links_expungeIn links ..)
  | transition id state now =>
    refine decides_of_links trivial ?_
    rw [apply, Db.txTransition, txUpdateFound_snd]
    exact links_transition links id state now

/-- Over every run of completed operations, the listings of every state reached are faithful
exactly if no stored message gets a row id that another message's transaction points at. -/
theorem listings_faithful_iff_clear (template : Template) (domain : String)
    (operations : List Operation) :
    Guarded (apply template domain) Clear .empty operations ↔
      Guarded (apply template domain)
        (fun db operation => Faithful (apply template domain db operation)) .empty operations := by
  have kept : ∀ db operation, Keyed db ∧ Links db → Clear db operation →
      Keyed (apply template domain db operation) ∧ Links (apply template domain db operation) := by
    rintro db operation ⟨keyed, links⟩ clear
    exact ⟨keyed_apply template domain keyed operation,
      (apply_decides template domain keyed links operation).enough clear⟩
  refine guarded_iff kept ?_ ⟨keyed_empty, links_empty⟩ operations
  rintro db operation ⟨keyed, links⟩
  have after := keyed_apply template domain keyed operation
  have decided := apply_decides template domain keyed links operation
  constructor
  · intro clear
    exact faithful_of_joined after (joined_of_links (decided.enough clear))
  · intro faithful
    exact decided.needed (joined_of_faithful after faithful)

/-! ## A row id that comes back -/

/-- Bob receives an invoice, expunges it, and receives another one. -/
def expungedBetween : List Operation :=
  [createBob, .deliver (invoice "m1") 0, .setFlags 1 inbox 1 MessageFlags.deleted true,
    .expunge 1 inbox, .deliver (invoice "m2") 0]

/-- The second invoice is listed twice, once with the status of the first. -/
theorem expunged_row_listed_twice :
    ¬Faithful (run (apply noTemplate "b.io") .empty expungedBetween) := by
  intro faithful
  have count := (faithful 1 inbox ⟨1, 0, 3⟩ _ (by decide +kernel) rfl).1.length_eq
  revert count
  decide +kernel

end Talk.Verif.FaithfulView
