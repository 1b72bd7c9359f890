import Talk.Mailstore.Calls
import Talk.Verif.Deletion
import Talk.Verif.UidAllocation

/-!
# What holds of the tables after any calls

The constraints that `init_schema` declares, and those that only the code keeps: every user has an
INBOX and a Sent mailbox and there is no other one, the messages of a mailbox are stored in the
order of their UIDs, the counter is above them. A call makes one edit to the tables, and each kind
of edit keeps all of it.
-/

namespace Talk.Verif.StoreCalls

open Deletion Mailstore StoreSteps Table Transition UidAllocation

/-! ## The invariant -/

/-- The tables are in order. -/
structure Intact (db : Db) : Prop where
  /-- The keys are unique, and mailboxes and messages reference their rows. -/
  keyed : Keyed db
  /-- The UIDs of a mailbox are distinct and below its counter. -/
  sound : Sound db
  /-- Messages are stored in the order of their UIDs. -/
  ascending : db.messages.Pairwise fun older newer =>
    older.mailboxId = newer.mailboxId → older.uid < newer.uid
  /-- Counters start at one. -/
  counters : ∀ box ∈ db.mailboxes, 1 ≤ box.uidnext
  /-- UIDs start at one. -/
  uids : ∀ row ∈ db.messages, 1 ≤ row.uid
  /-- Sizes are those of the bodies. -/
  sizes : ∀ row ∈ db.messages, row.size = row.body.length
  /-- Every user has both mailboxes. -/
  furnished : ∀ user ∈ db.users, ∀ name ∈ [inbox, sent],
    ∃ box ∈ db.mailboxes, box.userId = user.id ∧ box.name = name
  /-- There are no other ones. -/
  named : ∀ box ∈ db.mailboxes, box.name ∈ [inbox, sent]
  /-- Shares are unique. -/
  shareKeys : Unique Db.shareKey db.shares
  /-- Shares reference their users. -/
  shareOwners : ∀ share ∈ db.shares, ∃ user ∈ db.users, user.id = share.userId
  /-- Pins are unique. -/
  pinKeys : Unique Db.pinKey db.keyring
  /-- Pins reference their users. -/
  pinOwners : ∀ pin ∈ db.keyring, ∃ user ∈ db.users, user.id = pin.userId
  /-- Pins are trusted ones. -/
  pinStates : ∀ pin ∈ db.keyring, pin.state = "trusted"

/-- The empty tables are in order. -/
theorem intact_empty : Intact .empty :=
  ⟨keyed_empty, sound_empty, List.Pairwise.nil, nofun, nofun, nofun, nofun, nofun, unique_nil _,
    nofun, unique_nil _, nofun, nofun⟩

/-! ## Edits -/

/-- What a call can do to the tables. -/
inductive Edit (db : Db) : Db → Prop
  /-- Nothing. -/
  | none : Edit db db
  /-- A new user, with its mailboxes. -/
  | createUser (row : UserRow) (uidvalidity : UInt32) (id : row.id = nextId UserRow.id db.users)
    (fresh : ∀ other ∈ db.users, other.username ≠ row.username) :
    Edit db ((({ db with users := db.users ++ [row] } : Db).insertMailbox row.id inbox
      uidvalidity).insertMailbox row.id sent uidvalidity)
  /-- Users change, but not their ids and names. -/
  | updateUsers (selects : UserRow → Bool) (change : UserRow → UserRow)
    (id : ∀ row, (change row).id = row.id)
    (username : ∀ row, (change row).username = row.username) :
    Edit db { db with users := update selects change db.users }
  /-- A user goes, with everything it has. -/
  | deleteUser (username : String) : Edit db (db.deleteUser username).2
  /-- The ledger changes. -/
  | ledger (rows : List Transaction) (ids : Unique Transaction.id rows)
    (keys : Unique Db.txKey rows) : Edit db { db with transactions := rows }
  /-- The keyring changes. -/
  | keyring (rows : List KeyringRow) (keys : Unique Db.pinKey rows)
    (owners : ∀ pin ∈ rows, ∃ user ∈ db.users, user.id = pin.userId)
    (states : ∀ pin ∈ rows, pin.state = "trusted") : Edit db { db with keyring := rows }
  /-- The shares change. -/
  | shares (rows : List ShareRow) (keys : Unique Db.shareKey rows)
    (owners : ∀ share ∈ rows, ∃ user ∈ db.users, user.id = share.userId) :
    Edit db { db with shares := rows }
  /-- A new message. -/
  | message (userId : Nat) (mailbox : String) (handle : Db.Handle) (msg : NewMessage) (now : Int64)
    (read : db.mailboxNamed userId mailbox = .ok handle)
    (fresh : db.holds handle.id msg.messageId = false) : Edit db (db.inserted handle msg now)
  /-- Flags of messages in a mailbox change. -/
  | flags (userId : Nat) (mailbox : String) (handle : Db.Handle) (messageId : Nat) (mask : UInt32)
    (value : Bool) (read : db.mailboxNamed userId mailbox = .ok handle) :
    Edit db { db with
      messages := update (fun row => decide ((row.mailboxId, row.id) = (handle.id, messageId)))
        (Db.changeFlags mask value) db.messages }
  /-- Messages of a mailbox are expunged. -/
  | expunge (userId : Nat) (mailbox : String) (handle : Db.Handle)
    (read : db.mailboxNamed userId mailbox = .ok handle) :
    Edit db { db with messages := db.messages.filter fun row => !Db.expunges handle.id row }

variable {db : Db}

/-- A change to a row of a user that is there. -/
theorem edit_updateUser (username : String) (change : UserRow → UserRow)
    (id : ∀ row, (change row).id = row.id)
    (name : ∀ row, (change row).username = row.username) :
    Edit db (db.updateUser username change).2 := by
  unfold Db.updateUser
  dsimp only
  split
  · exact .updateUsers _ change id name
  · exact .none

/-- A change to a transaction that leaves its key. -/
theorem edit_txUpdate (intact : Intact db) (id : Nat) {change : Transaction → Transaction}
    (keeps : KeepsTxKey change) : Edit db (db.txUpdate id change) :=
  .ledger _ (unique_update intact.keyed.txIds _ keeps.id)
    (unique_update intact.keyed.txKeys _ keeps.key)

/-- A pin is set, on a row that is there or a new one. -/
theorem edit_keyringSetTrusted (intact : Intact db) (userId : Nat)
    (senderMailbox senderPubkey : String) (attestation : List UInt8) (now : Int64) :
    Edit db (db.keyringSetTrusted userId senderMailbox senderPubkey attestation now).2 := by
  unfold Db.keyringSetTrusted
  dsimp only
  split
  · refine .keyring _ (unique_update intact.pinKeys _ fun _ => rfl) (fun pin member => ?_)
      fun pin member => ?_
    · obtain ⟨old, found, rfl⟩ := mem_update.mp member
      obtain ⟨user, owner, same⟩ := intact.pinOwners old found
      refine ⟨user, owner, ?_⟩
      rw [same]
      split <;> rfl
    · obtain ⟨old, found, rfl⟩ := mem_update.mp member
      split
      · rfl
      · exact intact.pinStates old found
  · rename_i unpinned
    split
    · rename_i known
      have fresh : ∀ pin ∈ db.keyring, Db.pinKey pin ≠ (userId, senderMailbox) :=
        fun pin member same => unpinned (List.any_eq_true.mpr ⟨pin, member, decide_eq_true same⟩)
      obtain ⟨user, member, same⟩ := List.any_eq_true.mp known
      refine .keyring _ (unique_insert intact.pinKeys fresh) (fun pin inside => ?_)
        fun pin inside => ?_
      · rcases List.mem_append.mp inside with old | new
        · exact intact.pinOwners pin old
        · obtain rfl := List.mem_singleton.mp new
          exact ⟨user, member, of_decide_eq_true same⟩
      · rcases List.mem_append.mp inside with old | new
        · exact intact.pinStates pin old
        · obtain rfl := List.mem_singleton.mp new
          rfl
    · exact .none

/-- Taking a pin away is one edit. -/
theorem edit_unpinKeyring (intact : Intact db) (userId : Nat) (senderMailbox : String) :
    Edit db (db.unpinKeyring userId senderMailbox).2 := by
  unfold Db.unpinKeyring
  dsimp only
  split
  · exact .keyring _ (unique_filter intact.pinKeys _)
      (fun pin member => intact.pinOwners pin (List.mem_of_mem_filter member))
      fun pin member => intact.pinStates pin (List.mem_of_mem_filter member)
  · exact .none

/-- A share is added for a user that is there. -/
theorem edit_addShare (intact : Intact db) (userId : Nat) (shareId : String)
    (wrappedDk : List UInt8) : Edit db (db.addShare userId shareId wrappedDk).2 := by
  unfold Db.addShare
  split
  · exact .none
  · rename_i unused
    split
    · rename_i known
      have fresh : ∀ share ∈ db.shares, Db.shareKey share ≠ (userId, shareId) :=
        fun share member same => unused (List.any_eq_true.mpr ⟨share, member, decide_eq_true same⟩)
      obtain ⟨user, member, same⟩ := List.any_eq_true.mp known
      refine .shares _ (unique_insert intact.shareKeys fresh) fun share inside => ?_
      rcases List.mem_append.mp inside with old | new
      · exact intact.shareOwners share old
      · obtain rfl := List.mem_singleton.mp new
        exact ⟨user, member, of_decide_eq_true same⟩
    · exact .none

/-- Revoking a share is one edit. -/
theorem edit_revokeShare (intact : Intact db) (userId : Nat) (shareId : String) :
    Edit db (db.revokeShare userId shareId).2 := by
  unfold Db.revokeShare
  dsimp only
  split
  · refine .shares _ (unique_update intact.shareKeys _ fun _ => rfl) fun share member => ?_
    obtain ⟨old, found, rfl⟩ := mem_update.mp member
    obtain ⟨user, owner, same⟩ := intact.shareOwners old found
    refine ⟨user, owner, ?_⟩
    rw [same]
    split <;> rfl
  · exact .none

/-- A user is created under a new name. -/
theorem edit_createUserFull (username passwordHash : String) (masterPubkey : List UInt8)
    (ivkCommitment registrationAttestation : Option String) (now : Int64) :
    Edit db (db.createUserFull username passwordHash masterPubkey ivkCommitment
      registrationAttestation now).2 := by
  unfold Db.createUserFull
  split
  · exact .none
  · rename_i unused
    refine .createUser ⟨nextId UserRow.id db.users, username, passwordHash, masterPubkey, now,
      ivkCommitment, registrationAttestation⟩ _ rfl fun other member same => unused ?_
    exact List.any_eq_true.mpr ⟨other, member, by simpa using same⟩

/-- Every call makes one edit. -/
theorem edit_perform (intact : Intact db) (call : StoreCall) : Edit db (db.perform call) := by
  cases call with
  | createUserFull => exact edit_createUserFull ..
  | setPassword username => exact edit_updateUser username _ (fun _ => rfl) fun _ => rfl
  | setIvk username => exact edit_updateUser username _ (fun _ => rfl) fun _ => rfl
  | deleteUser username => exact .deleteUser username
  | txCreate new now =>
    rw [Db.perform]
    rcases txCreate_cases db new now with ⟨-, refused⟩ | ⟨fresh, created⟩
    · rw [refused]
      exact .none
    · rw [created]
      exact .ledger _
        (unique_insert intact.keyed.txIds (nextId_fresh Transaction.id db.transactions))
        (unique_insert intact.keyed.txKeys fresh)
  | txLinkMessage txId messageRowId now => exact edit_txUpdate intact txId (keeps_link _ now)
  | txTransition id state now =>
    rw [Db.perform, Db.txTransition, txUpdateFound_snd]
    exact edit_txUpdate intact id (keeps_transition state now)
  | txSetBinding id binding now =>
    rw [Db.perform, Db.txSetBinding, txUpdateFound_snd]
    exact edit_txUpdate intact id ⟨fun _ => rfl, fun _ => rfl⟩
  | keyringSetTrusted => exact edit_keyringSetTrusted intact ..
  | unpinKeyring => exact edit_unpinKeyring intact ..
  | appendMessageTo userId mailbox msg now =>
    rw [Db.perform]
    rcases appendMessageTo_cases db userId mailbox msg now with
      ⟨-, missing⟩ | ⟨handle, named, ⟨-, duplicate⟩ | ⟨fresh, stored⟩⟩
    · rw [missing]
      exact .none
    · rw [duplicate]
      exact .none
    · rw [stored]
      exact .message userId mailbox handle msg now named fresh
  | addShare => exact edit_addShare intact ..
  | revokeShare => exact edit_revokeShare intact ..
  | setFlagsIn userId mailbox messageId mask value =>
    rw [Db.perform, Db.setFlagsIn]
    split
    · exact .none
    · rename_i handle named
      exact .flags userId mailbox handle messageId mask value named
  | expungeIn userId mailbox =>
    rw [Db.perform]
    rcases expungeIn_cases db userId mailbox with kept | ⟨handle, named, deleted⟩
    · rw [kept]
      exact .none
    · rw [deleted]
      exact .expunge userId mailbox handle named

/-! ## Edits keep the tables in order -/

/-- What depends on the users only is kept when their ids are. -/
theorem known_update {userId : Nat} (selects : UserRow → Bool) {change : UserRow → UserRow}
    (id : ∀ row, (change row).id = row.id) (found : ∃ user ∈ db.users, user.id = userId) :
    ∃ user ∈ update selects change db.users, user.id = userId := by
  obtain ⟨user, member, same⟩ := found
  refine ⟨_, mem_update.mpr ⟨user, member, rfl⟩, ?_⟩
  split
  · exact (id user).trans same
  · exact same

/-- Users that keep their ids and names. -/
theorem intact_updateUsers (intact : Intact db) (selects : UserRow → Bool)
    {change : UserRow → UserRow} (id : ∀ row, (change row).id = row.id)
    (username : ∀ row, (change row).username = row.username) :
    Intact { db with users := update selects change db.users } := by
  have known {userId : Nat} (found : ∃ user ∈ db.users, user.id = userId) :
      ∃ user ∈ update selects change db.users, user.id = userId := known_update selects id found
  refine { intact with
    keyed := { intact.keyed with
      userIds := unique_update intact.keyed.userIds selects id
      usernames := unique_update intact.keyed.usernames selects username
      owners := fun box member => known (intact.keyed.owners box member) }
    sound := ⟨intact.sound.distinct, intact.sound.below⟩
    furnished := fun user member => ?_
    shareOwners := fun share member => known (intact.shareOwners share member)
    pinOwners := fun pin member => known (intact.pinOwners pin member) }
  obtain ⟨old, found, rfl⟩ := mem_update.mp member
  have same : (if selects old then change old else old).id = old.id := by
    split
    · exact id old
    · rfl
  rw [same]
  exact intact.furnished old found

/-- A store stays intact when a user goes. -/
theorem intact_deleteUser (intact : Intact db) (username : String) :
    Intact (db.deleteUser username).2 := by
  have keyed := keyed_deleteUser intact.keyed username
  cases found : db.getUser username with
  | none =>
    rw [Db.deleteUser, found]
    exact intact
  | some user =>
    rw [deleteUser_tables found] at keyed ⊢
    have kept {userId : Nat} (owner : ∃ row ∈ db.users, row.id = userId)
        (other : userId ≠ user.id) :
        ∃ row ∈ db.users.filter fun row => decide (row.id ≠ user.id), row.id = userId := by
      obtain ⟨row, member, rfl⟩ := owner
      exact ⟨row, List.mem_filter.mpr ⟨member, decide_eq_true other⟩, rfl⟩
    refine ⟨keyed, ⟨unique_filter intact.sound.distinct _, fun row stored => ?_⟩,
      intact.ascending.filter _,
      fun box member => intact.counters box (List.mem_of_mem_filter member),
      fun row member => intact.uids row (List.mem_of_mem_filter member),
      fun row member => intact.sizes row (List.mem_of_mem_filter member),
      fun row member name listed => ?_,
      fun box member => intact.named box (List.mem_of_mem_filter member),
      unique_filter intact.shareKeys _, fun share member => ?_,
      unique_filter intact.pinKeys _, fun pin member => ?_,
      fun pin member => intact.pinStates pin (List.mem_of_mem_filter member)⟩
    · obtain ⟨home, inside, same⟩ := keyed.homes row stored
      refine ⟨home, inside, same, ?_⟩
      exact uid_lt intact.keyed intact.sound (List.mem_of_mem_filter stored)
        (List.mem_of_mem_filter inside) same.symm
    · obtain ⟨inside, other⟩ := List.mem_filter.mp member
      obtain ⟨box, present, owner, same⟩ := intact.furnished row inside name listed
      refine ⟨box, List.mem_filter.mpr ⟨present, ?_⟩, owner, same⟩
      rw [owner]
      exact other
    · obtain ⟨inside, other⟩ := List.mem_filter.mp member
      exact kept (intact.shareOwners share inside) (of_decide_eq_true other)
    · obtain ⟨inside, other⟩ := List.mem_filter.mp member
      exact kept (intact.pinOwners pin inside) (of_decide_eq_true other)

/-- A new message under the counter of its mailbox. -/
theorem intact_message (intact : Intact db) {userId : Nat} {mailbox : String} {handle : Db.Handle}
    (read : db.mailboxNamed userId mailbox = .ok handle) (msg : NewMessage) (now : Int64)
    (fresh : db.holds handle.id msg.messageId = false) : Intact (db.inserted handle msg now) := by
  have change : Change db (db.inserted handle msg now) :=
    .message handle msg now fresh ⟨userId, mailbox, read⟩
  have keyed := keyed_change intact.keyed change
  have sound := sound_change intact.keyed intact.sound change
  obtain ⟨box, member, -, -, rfl⟩ := mailboxNamed_ok read
  refine { intact with
    keyed := keyed
    sound := sound
    ascending := List.pairwise_append.mpr
      ⟨intact.ascending, List.pairwise_singleton _ _, fun old stored new added home => ?_⟩
    counters := fun other inside => ?_
    uids := fun row stored => ?_
    sizes := fun row stored => ?_
    furnished := fun user owner name listed => ?_
    named := fun other inside => ?_ }
  · obtain rfl := List.mem_singleton.mp added
    exact uid_lt intact.keyed intact.sound stored member home
  · obtain ⟨old, found, rfl⟩ := mem_update.mp inside
    have low := intact.counters old found
    split
    · exact Nat.le_succ_of_le low
    · exact low
  · rcases List.mem_append.mp stored with old | new
    · exact intact.uids row old
    · obtain rfl := List.mem_singleton.mp new
      exact intact.counters box member
  · rcases List.mem_append.mp stored with old | new
    · exact intact.sizes row old
    · obtain rfl := List.mem_singleton.mp new
      rfl
  · obtain ⟨old, found, own, same⟩ := intact.furnished user owner name listed
    refine ⟨_, mem_inserted found _ msg now, ?_⟩
    split
    · exact ⟨own, same⟩
    · exact ⟨own, same⟩
  · obtain ⟨old, found, rfl⟩ := mem_update.mp inside
    have name := intact.named old found
    split
    · exact name
    · exact name

/-- Rows that change what the tables' order does not depend on. -/
theorem intact_flags (intact : Intact db) (selects : MessageRow → Bool) (mask : UInt32)
    (value : Bool) :
    Intact { db with messages := update selects (Db.changeFlags mask value) db.messages } := by
  have change : Change db { db with
      messages := update selects (Db.changeFlags mask value) db.messages } :=
    .flags selects mask value
  have same : ∀ row : MessageRow, (if selects row then Db.changeFlags mask value row else
      row).mailboxId = row.mailboxId ∧ (if selects row then Db.changeFlags mask value row else
      row).uid = row.uid := by
    intro row
    split
    · exact ⟨rfl, rfl⟩
    · exact ⟨rfl, rfl⟩
  refine { intact with
    keyed := keyed_change intact.keyed change
    sound := sound_change intact.keyed intact.sound change
    ascending := List.pairwise_map.mpr (intact.ascending.imp fun {older newer} order home => ?_)
    uids := fun row stored => ?_
    sizes := fun row stored => ?_ }
  · rw [(same older).1, (same newer).1] at home
    rw [(same older).2, (same newer).2]
    exact order home
  · obtain ⟨old, found, rfl⟩ := mem_update.mp stored
    rw [(same old).2]
    exact intact.uids old found
  · obtain ⟨old, found, rfl⟩ := mem_update.mp stored
    have size := intact.sizes old found
    split
    · exact size
    · exact size

/-- A store stays intact when messages go. -/
theorem intact_filter (intact : Intact db) (keeps : MessageRow → Bool) :
    Intact { db with messages := db.messages.filter keeps } := by
  have change : Change db { db with messages := db.messages.filter keeps } := .delete keeps
  exact { intact with
    keyed := keyed_change intact.keyed change
    sound := sound_change intact.keyed intact.sound change
    ascending := intact.ascending.filter keeps
    uids := fun row stored => intact.uids row (List.mem_of_mem_filter stored)
    sizes := fun row stored => intact.sizes row (List.mem_of_mem_filter stored) }

/-- A new user and its mailboxes. -/
theorem intact_createUser (intact : Intact db) (row : UserRow) (uidvalidity : UInt32)
    (id : row.id = nextId UserRow.id db.users)
    (fresh : ∀ other ∈ db.users, other.username ≠ row.username) :
    Intact ((({ db with users := db.users ++ [row] } : Db).insertMailbox row.id inbox
      uidvalidity).insertMailbox row.id sent uidvalidity) := by
  have others : ∀ box ∈ db.mailboxes, box.userId ≠ row.id := by
    intro box member same
    obtain ⟨user, found, owner⟩ := intact.keyed.owners box member
    exact nextId_fresh UserRow.id db.users user found (owner.trans (same.trans id))
  have changes : Changes db ((({ db with users := db.users ++ [row] } : Db).insertMailbox row.id
      inbox uidvalidity).insertMailbox row.id sent uidvalidity) := by
    have owner : ∃ user ∈ db.users ++ [row], user.id = row.id :=
      ⟨row, List.mem_append_right _ (List.mem_singleton_self _), rfl⟩
    refine .head (.user row id fresh) (.head (.mailbox row.id inbox uidvalidity owner ?_)
      (.single (.mailbox row.id sent uidvalidity owner ?_)))
    · exact fun box member same => others box member (congrArg Prod.fst same)
    · intro box member same
      rcases List.mem_append.mp member with old | new
      · exact others box old (congrArg Prod.fst same)
      · obtain rfl := List.mem_singleton.mp new
        have names : inbox = sent := congrArg Prod.snd same
        exact absurd names (by decide)
  have boxes : ∀ box ∈ ((({ db with users := db.users ++ [row] } : Db).insertMailbox row.id inbox
      uidvalidity).insertMailbox row.id sent uidvalidity).mailboxes, box ∈ db.mailboxes ∨
        (box.userId = row.id ∧ box.name ∈ [inbox, sent] ∧ box.uidnext = 1) := by
    intro box member
    rcases List.mem_append.mp member with first | second
    · rcases List.mem_append.mp first with old | new
      · exact .inl old
      · obtain rfl := List.mem_singleton.mp new
        exact .inr ⟨rfl, List.mem_cons_self, rfl⟩
    · obtain rfl := List.mem_singleton.mp second
      exact .inr ⟨rfl, List.mem_cons_of_mem _ List.mem_cons_self, rfl⟩
  have known {userId : Nat} (found : ∃ user ∈ db.users, user.id = userId) :
      ∃ user ∈ db.users ++ [row], user.id = userId := by
    obtain ⟨user, member, same⟩ := found
    exact ⟨user, List.mem_append_left _ member, same⟩
  refine ⟨keyed_changes intact.keyed changes, sound_changes intact.keyed intact.sound changes,
    intact.ascending, fun box member => ?_, intact.uids, intact.sizes,
    fun user member name listed => ?_, fun box member => ?_,
    intact.shareKeys, fun share member => known (intact.shareOwners share member),
    intact.pinKeys, fun pin member => known (intact.pinOwners pin member), intact.pinStates⟩
  · rcases boxes box member with old | ⟨-, -, one⟩
    · exact intact.counters box old
    · exact Nat.le_of_eq one.symm
  · rcases List.mem_append.mp member with old | new
    · obtain ⟨box, found, rest⟩ := intact.furnished user old name listed
      exact ⟨box, List.mem_append_left _ (List.mem_append_left _ found), rest⟩
    · obtain rfl := List.mem_singleton.mp new
      rcases List.mem_cons.mp listed with rfl | last
      · exact ⟨_, List.mem_append_left _ (List.mem_append_right _ (List.mem_singleton_self _)), rfl,
          rfl⟩
      · obtain rfl := List.mem_singleton.mp last
        exact ⟨_, List.mem_append_right _ (List.mem_singleton_self _), rfl, rfl⟩
  · rcases boxes box member with old | ⟨-, name, -⟩
    · exact intact.named box old
    · exact name

/-- Every edit keeps the tables in order. -/
theorem intact_edit {after : Db} (intact : Intact db) (edit : Edit db after) : Intact after := by
  cases edit with
  | none => exact intact
  | createUser row uidvalidity id fresh => exact intact_createUser intact row uidvalidity id fresh
  | updateUsers selects change id username =>
    exact intact_updateUsers intact selects id username
  | deleteUser username => exact intact_deleteUser intact username
  | ledger rows ids keys =>
    exact { intact with
      keyed := { intact.keyed with txIds := ids, txKeys := keys }
      sound := ⟨intact.sound.distinct, intact.sound.below⟩ }
  | keyring rows keys owners states =>
    exact { intact with
      keyed := { intact.keyed with }
      sound := ⟨intact.sound.distinct, intact.sound.below⟩
      pinKeys := keys
      pinOwners := owners
      pinStates := states }
  | shares rows keys owners =>
    exact { intact with
      keyed := { intact.keyed with }
      sound := ⟨intact.sound.distinct, intact.sound.below⟩
      shareKeys := keys
      shareOwners := owners }
  | message userId mailbox handle msg now read fresh =>
    exact intact_message intact read msg now fresh
  | flags userId mailbox handle messageId mask value read => exact intact_flags intact _ mask value
  | expunge userId mailbox handle read => exact intact_filter intact _

/-- Every call keeps the tables in order. -/
theorem intact_perform (intact : Intact db) (call : StoreCall) : Intact (db.perform call) :=
  intact_edit intact (edit_perform intact call)

/-- Calls keep the tables in order. -/
theorem intact_run (intact : Intact db) (calls : List StoreCall) :
    Intact (run Db.perform db calls) := by
  have kept : ∀ db call, Intact db → Intact (Db.perform db call) :=
    fun _ call intact => intact_perform intact call
  exact run_invariant kept intact calls

end Talk.Verif.StoreCalls
