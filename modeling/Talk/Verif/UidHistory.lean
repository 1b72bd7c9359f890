import Talk.Verif.UidAllocation

/-!
# UIDs over serial histories

When every call of the store runs alone, a mailbox gives each UID once: stored UIDs are distinct,
positive and below the counter, which never goes back. What the functions return are the stored
UIDs as 32-bit numbers, so they are in order as long as the counter has not passed 2^32.
-/

namespace Talk.Verif.UidHistory

open Mailstore StoreSteps Table Transition UidAllocation

/-- A completed call. -/
inductive Call where
  /-- `create_user_full`. -/
  | createUser (username passwordHash : String) (masterPubkey : List UInt8)
    (ivkCommitment registrationAttestation : Option String) (now : Int64)
  /-- `append_message_to`. -/
  | append (userId : Nat) (mailbox : String) (msg : NewMessage) (now : Int64)
  /-- `set_flags_in`. -/
  | setFlags (userId : Nat) (mailbox : String) (messageId : Nat) (mask : UInt32) (value : Bool)
  /-- `expunge_in`. -/
  | expunge (userId : Nat) (mailbox : String)

/-- The tables after a call. -/
def perform (db : Db) : Call → Db
  | .createUser username passwordHash masterPubkey ivkCommitment registrationAttestation now =>
    (db.createUserFull username passwordHash masterPubkey ivkCommitment registrationAttestation
      now).2
  | .append userId mailbox msg now => (db.appendMessageTo userId mailbox msg now).2
  | .setFlags userId mailbox messageId mask value =>
    (db.setFlagsIn userId mailbox messageId mask value).2
  | .expunge userId mailbox => (db.expungeIn userId mailbox).2

/-- The mailboxes and UIDs of the rows that were not there before. -/
def assigned (before after : Db) : List (Nat × Nat) :=
  (after.messages.filter fun row => before.messages.all fun old => decide (old.id ≠ row.id)).map
    fun row => (row.mailboxId, row.uid)

/-- The mailboxes and UIDs that calls assign, one after the other. -/
def assignments : Db → List Call → List (Nat × Nat)
  | _, [] => []
  | db, call :: calls => assigned db (perform db call) ++ assignments (perform db call) calls

/-- What holds in every state of a serial history. -/
structure Serial (db : Db) : Prop where
  /-- The keys are unique. -/
  keyed : Keyed db
  /-- The UIDs are distinct and below the counters. -/
  sound : Sound db
  /-- Counters start at one. -/
  counters : ∀ box ∈ db.mailboxes, 1 ≤ box.uidnext
  /-- UIDs start at one. -/
  uids : ∀ row ∈ db.messages, 1 ≤ row.uid
  /-- Nothing is in the ledger. -/
  ledger : db.transactions = []

/-- A mailbox is still there, with a counter that has not gone back. -/
def Continues (before after : Db) : Prop :=
  ∀ box ∈ before.mailboxes, ∃ later ∈ after.mailboxes, later.id = box.id ∧
    box.uidnext ≤ later.uidnext

/-- A store continues itself. -/
theorem continues_refl (db : Db) : Continues db db := fun box member =>
  ⟨box, member, rfl, Nat.le_refl _⟩

/-- Stores continue one another. -/
theorem Continues.trans {before middle after : Db} (first : Continues before middle)
    (second : Continues middle after) : Continues before after := by
  intro box member
  obtain ⟨later, found, id, low⟩ := first box member
  obtain ⟨last, inside, same, high⟩ := second later found
  exact ⟨last, inside, same.trans id, Nat.le_trans low high⟩

/-- Rows that were all there before are no new ones. -/
theorem assigned_eq_nil {before after : Db}
    (old : ∀ row ∈ after.messages, ∃ other ∈ before.messages, other.id = row.id) :
    assigned before after = [] := by
  refine List.map_eq_nil_iff.mpr (List.filter_eq_nil_iff.mpr fun row member new => ?_)
  obtain ⟨other, found, same⟩ := old row member
  exact of_decide_eq_true (List.all_eq_true.mp new other found) same

/-- An inserted row is the one that is new. -/
theorem assigned_inserted (db : Db) (handle : Db.Handle) (msg : NewMessage) (now : Int64) :
    assigned db (db.inserted handle msg now) = [(handle.id, handle.uidnext)] := by
  have none : (db.messages.filter fun row =>
      db.messages.all fun old => decide (old.id ≠ row.id)) = [] := by
    refine List.filter_eq_nil_iff.mpr fun row member new => ?_
    exact of_decide_eq_true (List.all_eq_true.mp new row member) rfl
  have new : (db.messages.all fun old => decide (old.id ≠ (db.newRow handle msg now).id)) = true :=
    List.all_eq_true.mpr fun old member =>
      decide_eq_true (nextId_fresh MessageRow.id db.messages old member)
  rw [assigned, Db.inserted, List.filter_append, none, List.filter_singleton, new]
  rfl

/-- What a call can do: it assigns no UID, or the one at a mailbox's counter, which it counts up. -/
structure Progress (before after : Db) : Prop where
  /-- The invariant is kept. -/
  serial : Serial after
  /-- The mailboxes go on. -/
  continues : Continues before after
  /-- The UID that is assigned, if any. -/
  assigns : assigned before after = [] ∨
    ∃ box ∈ before.mailboxes, assigned before after = [(box.id, box.uidnext)] ∧
      ∃ later ∈ after.mailboxes, later.id = box.id ∧ box.uidnext < later.uidnext

/-- A call that does nothing makes progress. -/
theorem progress_refl {db : Db} (serial : Serial db) : Progress db db :=
  ⟨serial, continues_refl db, .inl (assigned_eq_nil fun row member => ⟨row, member, rfl⟩)⟩

/-- A new user has new mailboxes. -/
theorem progress_createUser {db : Db} (serial : Serial db) (username passwordHash : String)
    (masterPubkey : List UInt8) (ivkCommitment registrationAttestation : Option String)
    (now : Int64) :
    Progress db (db.createUserFull username passwordHash masterPubkey ivkCommitment
      registrationAttestation now).2 := by
  have changes := createUserFull_changes serial.keyed username passwordHash masterPubkey
    ivkCommitment registrationAttestation now
  have keyed := keyed_changes serial.keyed changes
  have sound := sound_changes serial.keyed serial.sound changes
  unfold Db.createUserFull at keyed sound ⊢
  split at keyed
  · rename_i taken
    rw [if_pos taken]
    exact progress_refl serial
  · rename_i free
    rw [if_neg free] at sound ⊢
    refine ⟨⟨keyed, sound, fun box member => ?_, serial.uids, serial.ledger⟩,
      fun box member => ⟨box, ?_, rfl, Nat.le_refl _⟩,
      .inl (assigned_eq_nil fun row member => ⟨row, member, rfl⟩)⟩
    · rcases List.mem_append.mp member with earlier | new
      · rcases List.mem_append.mp earlier with old | first
        · exact serial.counters box old
        · rw [List.mem_singleton.mp first]
      · rw [List.mem_singleton.mp new]
    · exact List.mem_append_left _ (List.mem_append_left _ member)

/-- An append assigns the UID at the counter. -/
theorem progress_append {db : Db} (serial : Serial db) (userId : Nat) (mailbox : String)
    (msg : NewMessage) (now : Int64) :
    Progress db (db.appendMessageTo userId mailbox msg now).2 := by
  rcases appendMessageTo_cases db userId mailbox msg now with
    ⟨-, done⟩ | ⟨handle, named, ⟨-, done⟩ | ⟨new, done⟩⟩
  · rw [done]
    exact progress_refl serial
  · rw [done]
    exact progress_refl serial
  · rw [done]
    have change : Change db (db.inserted handle msg now) :=
      .message handle msg now new ⟨userId, mailbox, named⟩
    obtain ⟨box, member, -, -, rfl⟩ := mailboxNamed_ok named
    have counted := mem_inserted member ⟨box.id, box.uidvalidity, box.uidnext⟩ msg now
    rw [if_pos rfl] at counted
    refine ⟨⟨keyed_change serial.keyed change, sound_change serial.keyed serial.sound change,
      fun other found => ?_, fun row stored => ?_, serial.ledger⟩, fun other found => ?_,
      .inr ⟨box, member, assigned_inserted .., _, counted, rfl, Nat.lt_succ_self _⟩⟩
    · obtain ⟨old, inside, rfl⟩ := mem_update.mp found
      have low := serial.counters old inside
      split
      · exact Nat.le_succ_of_le low
      · exact low
    · rcases List.mem_append.mp stored with old | last
      · exact serial.uids row old
      · rw [List.mem_singleton.mp last]
        exact serial.counters box member
    · refine ⟨_, mem_inserted found _ msg now, ?_⟩
      split
      · exact ⟨rfl, Nat.le_succ _⟩
      · exact ⟨rfl, Nat.le_refl _⟩

/-- Changing flags assigns nothing. -/
theorem progress_setFlags {db : Db} (serial : Serial db) (userId : Nat) (mailbox : String)
    (messageId : Nat) (mask : UInt32) (value : Bool) :
    Progress db (db.setFlagsIn userId mailbox messageId mask value).2 := by
  have changes := setFlagsIn_changes db userId mailbox messageId mask value
  have keyed := keyed_changes serial.keyed changes
  have sound := sound_changes serial.keyed serial.sound changes
  unfold Db.setFlagsIn at keyed sound ⊢
  cases named : db.mailboxNamed userId mailbox with
  | error => exact progress_refl serial
  | ok handle =>
    rw [named] at keyed sound
    have same : ∀ row ∈ update (fun row : MessageRow =>
        decide ((row.mailboxId, row.id) = (handle.id, messageId))) (Db.changeFlags mask value)
          db.messages, ∃ old ∈ db.messages, old.id = row.id ∧ old.uid = row.uid := by
      intro row stored
      obtain ⟨old, member, rfl⟩ := mem_update.mp stored
      refine ⟨old, member, ?_⟩
      split <;> exact ⟨rfl, rfl⟩
    refine ⟨⟨keyed, sound, serial.counters, fun row stored => ?_, serial.ledger⟩,
      continues_refl db, .inl (assigned_eq_nil fun row stored => ?_)⟩
    · obtain ⟨old, member, -, uid⟩ := same row stored
      exact uid ▸ serial.uids old member
    · obtain ⟨old, member, id, -⟩ := same row stored
      exact ⟨old, member, id⟩

/-- Expunging assigns nothing. -/
theorem progress_expunge {db : Db} (serial : Serial db) (userId : Nat) (mailbox : String) :
    Progress db (db.expungeIn userId mailbox).2 := by
  rcases expungeIn_cases db userId mailbox with kept | ⟨handle, -, deleted⟩
  · rw [kept]
    exact progress_refl serial
  · rw [deleted]
    have change : Change db { db with
        messages := db.messages.filter fun row => !Db.expunges handle.id row } := .delete _
    refine ⟨⟨keyed_change serial.keyed change, sound_change serial.keyed serial.sound change,
      serial.counters, fun row stored => serial.uids row (List.mem_of_mem_filter stored),
      serial.ledger⟩, continues_refl db, .inl (assigned_eq_nil fun row stored => ?_)⟩
    exact ⟨row, List.mem_of_mem_filter stored, rfl⟩

/-- Every call makes progress. -/
theorem progress_perform {db : Db} (serial : Serial db) (call : Call) :
    Progress db (perform db call) := by
  cases call with
  | createUser => exact progress_createUser serial ..
  | append => exact progress_append serial ..
  | setFlags => exact progress_setFlags serial ..
  | expunge => exact progress_expunge serial ..

/-! ## Histories -/

/-- The store is serial before the first call. -/
theorem serial_empty : Serial .empty := ⟨keyed_empty, sound_empty, nofun, nofun, rfl⟩

/-- The store is serial after every history. -/
theorem serial_run {db : Db} (serial : Serial db) (calls : List Call) :
    Serial (run perform db calls) := by
  have kept : ∀ db call, Serial db → Serial (perform db call) :=
    fun _ call serial => (progress_perform serial call).serial
  exact run_invariant kept serial calls

/-- Mailboxes go on over every history. -/
theorem continues_run {db : Db} (serial : Serial db) (calls : List Call) :
    Continues db (run perform db calls) := by
  induction calls generalizing db with
  | nil => exact continues_refl db
  | cons call calls ih =>
    have progress := progress_perform serial call
    exact progress.continues.trans (ih progress.serial)

/-- A UID that is assigned later is not below the counter. -/
theorem assignments_from_counter {db : Db} (serial : Serial db) (calls : List Call) :
    ∀ pair ∈ assignments db calls, ∀ box ∈ db.mailboxes,
      box.id = pair.1 → box.uidnext ≤ pair.2 := by
  induction calls generalizing db with
  | nil => nofun
  | cons call calls ih =>
    intro pair member box found same
    have progress := progress_perform serial call
    rcases List.mem_append.mp member with now | later
    · rcases progress.assigns with none | ⟨owner, inside, one, -⟩
      · rw [none] at now
        cases now
      · rw [one] at now
        obtain rfl := List.mem_singleton.mp now
        rw [eq_of_unique serial.keyed.mailboxIds found inside same]
    · obtain ⟨next, inside, id, low⟩ := progress.continues box found
      exact Nat.le_trans low (ih progress.serial pair later next inside (id.trans same))

/-- No UID of a mailbox is assigned twice. -/
theorem assignments_nodup {db : Db} (serial : Serial db) (calls : List Call) :
    (assignments db calls).Nodup := by
  induction calls generalizing db with
  | nil => exact List.nodup_nil
  | cons call calls ih =>
    have progress := progress_perform serial call
    rw [assignments]
    rcases progress.assigns with none | ⟨box, -, one, later, found, id, counted⟩
    · rw [none]
      exact ih progress.serial
    · rw [one]
      refine List.nodup_cons.mpr ⟨fun again => ?_, ih progress.serial⟩
      have high := assignments_from_counter progress.serial calls _ again later found id
      exact absurd counted (Nat.not_lt.mpr high)

/-! ## What the calls return -/

/-- The UIDs of a mailbox are distinct. -/
theorem uids_nodup {db : Db} (sound : Sound db) (mailboxId : Nat) (keeps : MessageRow → Bool) :
    (((db.rowsIn mailboxId).filter keeps).map MessageRow.uid).Nodup := by
  have rows : ((db.rowsIn mailboxId).filter keeps).Nodup :=
    ((List.Nodup.of_map _ sound.distinct).filter _).filter _
  refine rows.map_on fun left leftMember right rightMember same => ?_
  obtain ⟨leftStored, leftHome⟩ := List.mem_filter.mp (List.mem_of_mem_filter leftMember)
  obtain ⟨rightStored, rightHome⟩ := List.mem_filter.mp (List.mem_of_mem_filter rightMember)
  refine eq_of_unique sound.distinct leftStored rightStored (Prod.ext ?_ same)
  exact (of_decide_eq_true leftHome).trans (of_decide_eq_true rightHome).symm

/-- A sorted list without repetitions is strictly sorted. -/
theorem pairwise_strict {uids : List Nat} (sorted : uids.Pairwise (· ≤ ·)) (nodup : uids.Nodup) :
    uids.Pairwise (· < ·) :=
  (sorted.and nodup).imp fun pair => Nat.lt_of_le_of_ne pair.1 pair.2

/-- Expunging removes the deleted messages and returns their UIDs in order. -/
theorem expungeIn_uids {db : Db} (sound : Sound db) {userId : Nat} {mailbox : String}
    {handle : Db.Handle} (named : db.mailboxNamed userId mailbox = .ok handle) :
    ∃ uids : List Nat, uids.Pairwise (· < ·) ∧
      uids.Perm (((db.rowsIn handle.id).filter fun row =>
        row.flags.contains MessageFlags.deleted).map MessageRow.uid) ∧
      db.expungeIn userId mailbox = (.ok (uids.map UInt32.ofNat), { db with
        messages := db.messages.filter fun row =>
          !(decide (row.mailboxId = handle.id) && row.flags.contains MessageFlags.deleted) }) := by
  have rows : db.messages.filter (Db.expunges handle.id) =
      (db.rowsIn handle.id).filter fun row => row.flags.contains MessageFlags.deleted := by
    rw [Db.rowsIn, List.filter_filter]
    refine List.filter_congr fun row _ => ?_
    rw [Db.expunges, Bool.and_comm]
  have perm := List.perm_insertionSort (· ≤ ·)
    ((db.messages.filter (Db.expunges handle.id)).map MessageRow.uid)
  rw [rows] at perm
  refine ⟨_, pairwise_strict (List.pairwise_insertionSort _ _) ?_, perm, ?_⟩
  · exact perm.nodup_iff.mpr (uids_nodup sound handle.id _)
  · rw [Db.expungeIn, named]
    dsimp only
    rw [rows]
    rfl

/-- A listing has the messages of the mailbox in descending order. -/
theorem listMessagesIn_uids {db : Db} (serial : Serial db) {userId : Nat} {mailbox : String}
    {handle : Db.Handle} (named : db.mailboxNamed userId mailbox = .ok handle) :
    ∃ rows : List MessageRow, rows.Pairwise (fun newer older => older.uid < newer.uid) ∧
      rows.Perm (db.rowsIn handle.id) ∧
      db.listMessagesIn userId mailbox =
        .ok (rows.map fun row => Db.rowToMeta handle.uidvalidity (row, none)) := by
  let before := fun newer older : MessageRow => older.uid ≤ newer.uid
  have joined : leftJoin Db.linked (db.rowsIn handle.id) db.transactions =
      (db.rowsIn handle.id).map fun row => (row, none) := by
    rw [serial.ledger, leftJoin, List.map_eq_flatMap]
    rfl
  have perm := List.perm_insertionSort before (db.rowsIn handle.id)
  have sorted : ((db.rowsIn handle.id).insertionSort before).Pairwise before :=
    List.pairwise_insertionSort _ _
  have distinct : (((db.rowsIn handle.id).insertionSort before).map MessageRow.uid).Nodup := by
    have all := uids_nodup serial.sound handle.id fun _ => true
    rw [List.filter_true] at all
    exact (perm.map _).nodup_iff.mpr all
  refine ⟨_, (sorted.and (List.pairwise_map.mp distinct)).imp fun pair => ?_, perm, ?_⟩
  · exact Nat.lt_of_le_of_ne pair.1 pair.2.symm
  · rw [Db.listMessagesIn, named]
    dsimp only
    rw [joined, ← List.map_insertionSort before Db.newer, List.map_map]
    · rfl
    · exact fun _ _ _ _ => Iff.rfl

/-! ## Every history -/

/-- UIDs are permanent over a history, and are returned as 32-bit numbers in order. -/
structure Permanent (calls : List Call) (db : Db) : Prop where
  /-- The UIDs of a mailbox are distinct. -/
  distinct : ∀ box ∈ db.mailboxes, ((db.rowsIn box.id).map MessageRow.uid).Nodup
  /-- They are at least one and below the counter. -/
  range : ∀ box ∈ db.mailboxes, ∀ row ∈ db.rowsIn box.id, 1 ≤ row.uid ∧ row.uid < box.uidnext
  /-- The counter never decreases. -/
  monotone : ∀ more, Continues db (run perform db more)
  /-- No UID is assigned twice in a mailbox. -/
  once : (assignments .empty calls).Nodup
  /-- A duplicate is refused and changes nothing. -/
  duplicate : ∀ userId mailbox handle msg now, db.mailboxNamed userId mailbox = .ok handle →
    db.holds handle.id msg.messageId = true →
      db.appendMessageTo userId mailbox msg now = (.error (.duplicateMessage msg.messageId), db)
  /-- Exactly the deleted messages are expunged, and their UIDs returned in order. -/
  expunged : ∀ userId mailbox handle, db.mailboxNamed userId mailbox = .ok handle →
    ∃ uids : List Nat, uids.Pairwise (· < ·) ∧
      uids.Perm (((db.rowsIn handle.id).filter fun row =>
        row.flags.contains MessageFlags.deleted).map MessageRow.uid) ∧
      db.expungeIn userId mailbox = (.ok (uids.map UInt32.ofNat), { db with
        messages := db.messages.filter fun row =>
          !(decide (row.mailboxId = handle.id) && row.flags.contains MessageFlags.deleted) })
  /-- A listing is strictly descending. -/
  listed : ∀ userId mailbox handle, db.mailboxNamed userId mailbox = .ok handle →
    ∃ rows : List MessageRow, rows.Pairwise (fun newer older => older.uid < newer.uid) ∧
      rows.Perm (db.rowsIn handle.id) ∧
      db.listMessagesIn userId mailbox =
        .ok (rows.map fun row => Db.rowToMeta handle.uidvalidity (row, none))
  /-- Until the counter passes 2^32, the returned UIDs are the stored ones. -/
  exact : ∀ box ∈ db.mailboxes, box.uidnext ≤ 2 ^ 32 → ∀ row ∈ db.rowsIn box.id,
    (UInt32.ofNat row.uid).toNat = row.uid

/-- Over every history of completed calls, UIDs are permanent. -/
theorem uids_permanent (calls : List Call) : Permanent calls (run perform .empty calls) := by
  have serial := serial_run serial_empty calls
  generalize run perform .empty calls = db at serial
  have range : ∀ box ∈ db.mailboxes, ∀ row ∈ db.rowsIn box.id,
      1 ≤ row.uid ∧ row.uid < box.uidnext := by
    intro box member row stored
    obtain ⟨inside, home⟩ := List.mem_filter.mp stored
    exact ⟨serial.uids row inside,
      uid_lt serial.keyed serial.sound inside member (of_decide_eq_true home)⟩
  refine ⟨fun box _ => ?_, range, fun more => continues_run serial more,
    assignments_nodup serial_empty calls, fun userId mailbox handle msg now named held => ?_,
    fun userId mailbox handle named => expungeIn_uids serial.sound named,
    fun userId mailbox handle named => listMessagesIn_uids serial named,
    fun box member low row stored => ?_⟩
  · have all := uids_nodup serial.sound box.id fun _ => true
    rwa [List.filter_true] at all
  · rw [Db.appendMessageTo, named]
    dsimp only
    rw [Db.insertMessage, if_pos held]
  · rw [UInt32.toNat_ofNat']
    exact Nat.mod_eq_of_lt (Nat.lt_of_lt_of_le (range box member row stored).2 low)

/-! ## After 2^32 messages -/

/-- A message, to be deleted at once or to be kept. -/
def message (messageId : String) (flags : UInt32) : NewMessage :=
  ⟨messageId, "", [], ⟨flags⟩, "alice@a.io", "unverified"⟩

/-- A message comes and goes. -/
def passing : List Call :=
  [.append 1 inbox (message "m" MessageFlags.deleted) 0, .expunge 1 inbox]

/-- Bob's empty mailboxes, with a counter. -/
def counted (uidnext : Nat) : Db :=
  ⟨[⟨1, "bob", "", [], 0, none, none⟩], [], [], [⟨1, 1, inbox, 0, uidnext⟩, ⟨2, 1, sent, 0, 1⟩],
    [], []⟩

/-- A message that comes and goes takes one UID. -/
theorem run_passing_once (uidnext : Nat) :
    run perform (counted uidnext) passing = counted (uidnext + 1) := by
  have named : (counted uidnext).mailboxNamed 1 inbox = .ok ⟨1, 0, uidnext⟩ := by
    simp [counted, Db.mailboxNamed]
  have appended : perform (counted uidnext) (.append 1 inbox (message "m" MessageFlags.deleted) 0) =
      { counted (uidnext + 1) with messages :=
        [(counted uidnext).newRow ⟨1, 0, uidnext⟩ (message "m" MessageFlags.deleted) 0] } := by
    rw [perform, Db.appendMessageTo, named]
    simp [Db.insertMessage, Db.holds, Db.inserted, update, counted]
  have expunged : perform { counted (uidnext + 1) with messages :=
        [(counted uidnext).newRow ⟨1, 0, uidnext⟩ (message "m" MessageFlags.deleted) 0] }
      (.expunge 1 inbox) = counted (uidnext + 1) := by
    simp [perform, Db.expungeIn, Db.mailboxNamed, Db.expunges, Db.newRow, counted, message,
      MessageFlags.contains, MessageFlags.deleted]
  rw [passing, run_cons, run_cons, run_nil, appended, expunged]

/-- Each message that comes and goes counts. -/
theorem run_passing (rounds uidnext : Nat) :
    run perform (counted uidnext) (List.replicate rounds passing).flatten =
      counted (uidnext + rounds) := by
  induction rounds generalizing uidnext with
  | zero => rfl
  | succ rounds ih =>
    rw [List.replicate_succ, List.flatten_cons, run_append, run_passing_once, ih]
    congr 1
    omega

/-- Bob is created, all UIDs but the last of 32 bits come and go, and two messages are kept. -/
def wrapping : List Call :=
  .createUser "bob" "" [] none none 0 :: (List.replicate (2 ^ 32 - 2) passing).flatten ++
    [.append 1 inbox (message "m1" 0) 0, .append 1 inbox (message "m2" 0) 0]

/-- The second message is listed first, with UID 0, so the listing does not descend. -/
theorem wrapped_listing_ascends :
    ∃ uids : List UInt32,
      ((run perform .empty wrapping).listMessagesIn 1 inbox).map (·.map MessageMeta.uid) =
        .ok uids ∧ ¬ uids.Pairwise fun newer older => older < newer := by
  have created : run perform .empty [.createUser "bob" "" [] none none 0] = counted 1 := by
    decide +kernel
  have passed := run_passing (2 ^ 32 - 2) 1
  refine ⟨[0, 4294967295], ?_, by decide⟩
  rw [wrapping, List.cons_append, ← List.singleton_append, run_append, created, run_append, passed]
  decide +kernel

end Talk.Verif.UidHistory
