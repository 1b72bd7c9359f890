import Talk.Mailstore.Statements
import Talk.Verif.Deletion

/-!
# Which failures leave half of an operation behind

Creating a user and appending a message run their statements without a transaction, so a failure
after the first write leaves what was written. Deleting a user runs in a transaction, and leaves
something only when `COMMIT` or `ROLLBACK` itself fails.
-/

namespace Talk.Verif.Atomicity

open Mailstore Script StoreSteps Table

/-- A call of a function that runs several statements. -/
inductive Call where
  /-- `create_user_full`. -/
  | createUserFull (username passwordHash : String) (masterPubkey : List UInt8)
    (ivkCommitment registrationAttestation : Option String) (now : Int64)
  /-- `append_message_to`. -/
  | appendMessageTo (userId : Nat) (mailbox : String) (msg : NewMessage) (now : Int64)
  /-- `delete_user`. -/
  | deleteUser (username : String)

/-- An outcome with an error leaves every table as it was. -/
def Undone {α : Type} (before : Db) (outcome : Except StoreError α × Connection) : Prop :=
  ∀ error, outcome.1 = .error error → outcome.2.tables = before

/-- When the call returns an error, every table is as it was. -/
def AllOrNothing (fails : SqlStatement → Bool) (connection : Connection) : Call → Prop
  | .createUserFull username passwordHash masterPubkey ivkCommitment registrationAttestation now =>
    Undone connection.tables (connection.createUserFull fails username passwordHash masterPubkey
      ivkCommitment registrationAttestation now)
  | .appendMessageTo userId mailbox msg now =>
    Undone connection.tables (connection.appendMessageTo fails userId mailbox msg now)
  | .deleteUser username => Undone connection.tables (connection.deleteUser fails username)

/-- No statement fails after a write that nothing undoes. -/
def FailsClean (fails : SqlStatement → Bool) (connection : Connection) : Call → Prop
  | .createUserFull username _ _ ivkCommitment registrationAttestation _ =>
    fails .insertUser = true ∨ (∃ row ∈ connection.tables.users, row.username = username) ∨
      ((ivkCommitment.isSome → fails .setIvkCommitment = false) ∧
        (registrationAttestation.isSome → fails .setRegistrationAttestation = false) ∧
        fails .insertInbox = false ∧ fails .insertSent = false)
  | .appendMessageTo userId mailbox msg _ =>
    fails .selectMailbox = true ∨ ∀ handle,
      connection.tables.mailboxNamed userId mailbox = .ok handle →
        fails .countMessages = true ∨ connection.tables.holds handle.id msg.messageId = true ∨
          fails .insertMessage = true ∨ fails .incrementUidnext = false
  | .deleteUser username =>
    fails .selectUser = true ∨ fails .beginTransaction = true ∨ connection.saved ≠ none ∨
      ∀ user, connection.tables.getUser username = some user →
        if ∀ step ∈ Connection.deleteRows user.id user.username, fails step.1 = false then
          fails .commit = false
        else fails .rollback = false ∨
          StopsUnchanged fails (Connection.deleteRows user.id user.username) connection.tables

/-! ## Creating a user -/

/-- The user is there and has no mailbox yet. -/
structure Unfurnished (userId : Nat) (db : Db) : Prop where
  /-- The user is there. -/
  known : ∃ row ∈ db.users, row.id = userId
  /-- No mailbox is the user's. -/
  bare : ∀ box ∈ db.mailboxes, box.userId ≠ userId

/-- Changing a user's columns does not furnish it. -/
theorem Unfurnished.updateUser {userId : Nat} {db : Db} (unfurnished : Unfurnished userId db)
    {change : UserRow → UserRow} (same : ∀ row, (change row).id = row.id) :
    Unfurnished userId (Connection.updateUser userId change db) := by
  obtain ⟨⟨row, member, id⟩, bare⟩ := unfurnished
  refine ⟨⟨change row, mem_update.mpr ⟨row, member, ?_⟩, (same row).trans id⟩, bare⟩
  rw [if_pos (decide_eq_true id)]

/-- A mailbox of a name the user does not have is inserted. -/
theorem insertMailbox_some {userId : Nat} {db : Db} (known : ∃ row ∈ db.users, row.id = userId)
    {name : String} (bare : ∀ box ∈ db.mailboxes, (box.userId, box.name) ≠ (userId, name))
    (uidvalidity : UInt32) :
    Connection.insertMailbox userId name uidvalidity db =
      some (db.insertMailbox userId name uidvalidity) := by
  have unused : ¬ db.mailboxes.any
      (fun box => decide ((box.userId, box.name) = (userId, name))) = true := by
    intro taken
    obtain ⟨box, member, same⟩ := List.any_eq_true.mp taken
    exact bare box member (of_decide_eq_true same)
  have found : db.users.any (fun row => decide (row.id = userId)) = true := by
    obtain ⟨row, member, id⟩ := known
    exact List.any_eq_true.mpr ⟨row, member, decide_eq_true id⟩
  rw [Connection.insertMailbox, if_neg unused, if_pos found]

/-- The INBOX of a user without mailboxes is inserted. -/
theorem insertInbox_some {userId : Nat} {db : Db} (unfurnished : Unfurnished userId db)
    (uidvalidity : UInt32) :
    Connection.insertMailbox userId inbox uidvalidity db =
      some (db.insertMailbox userId inbox uidvalidity) :=
  insertMailbox_some unfurnished.known
    (fun box member same => unfurnished.bare box member (congrArg Prod.fst same)) uidvalidity

/-- The Sent mailbox is inserted after the INBOX. -/
theorem insertSent_some {userId : Nat} {db : Db} (unfurnished : Unfurnished userId db)
    (uidvalidity : UInt32) :
    Connection.insertMailbox userId sent uidvalidity (db.insertMailbox userId inbox uidvalidity) =
      some ((db.insertMailbox userId inbox uidvalidity).insertMailbox userId sent uidvalidity) := by
  have known : ∃ row ∈ (db.insertMailbox userId inbox uidvalidity).users, row.id = userId :=
    unfurnished.known
  refine insertMailbox_some known (fun box member same => ?_) uidvalidity
  rcases List.mem_append.mp member with old | new
  · exact unfurnished.bare box old (congrArg Prod.fst same)
  · obtain rfl := List.mem_singleton.mp new
    have names : inbox = sent := congrArg Prod.snd same
    exact absurd names (by decide)

/-- Nothing is refused after the user is inserted. -/
theorem furnishUser_accepted {userId : Nat} {db : Db} (unfurnished : Unfurnished userId db)
    (ivkCommitment registrationAttestation : Option String) (uidvalidity : UInt32) :
    Accepted (Connection.furnishUser userId ivkCommitment registrationAttestation uidvalidity)
      db := by
  have mailboxes : ∀ {db : Db}, Unfurnished userId db → Accepted
      [(SqlStatement.insertInbox, Connection.insertMailbox userId inbox uidvalidity),
        (SqlStatement.insertSent, Connection.insertMailbox userId sent uidvalidity)] db :=
    fun unfurnished => ⟨_, insertInbox_some unfurnished uidvalidity, _,
      insertSent_some unfurnished uidvalidity, trivial⟩
  cases ivkCommitment with
  | none =>
    cases registrationAttestation with
    | none => exact mailboxes unfurnished
    | some => exact ⟨_, rfl, mailboxes (unfurnished.updateUser fun _ => rfl)⟩
  | some =>
    cases registrationAttestation with
    | none => exact ⟨_, rfl, mailboxes (unfurnished.updateUser fun _ => rfl)⟩
    | some =>
      refine ⟨_, rfl, _, rfl, mailboxes (.updateUser (.updateUser unfurnished ?_) ?_)⟩
      · exact fun _ => rfl
      · exact fun _ => rfl

/-- A statement after the first removes no user. -/
theorem furnishUser_rises (userId : Nat) (ivkCommitment registrationAttestation : Option String)
    (uidvalidity : UInt32) :
    ∀ step ∈ Connection.furnishUser userId ivkCommitment registrationAttestation uidvalidity,
      ∀ db next, step.2 db = some next → db.users.length ≤ next.users.length := by
  have mailbox : ∀ (name : String) (db next : Db),
      Connection.insertMailbox userId name uidvalidity db = some next →
        db.users.length ≤ next.users.length := by
    intro name db next done
    unfold Connection.insertMailbox at done
    split at done
    · cases done
    · split at done
      · rw [← Option.some.inj done]
        exact Nat.le_refl _
      · cases done
  have column : ∀ (change : UserRow → UserRow) (db next : Db),
      some (Connection.updateUser userId change db) = some next →
        db.users.length ≤ next.users.length := by
    intro change db next done
    rw [← Option.some.inj done]
    exact (List.length_map _).ge
  intro step member db next done
  unfold Connection.furnishUser at member
  rcases List.mem_append.mp member with columns | mailboxes
  · rcases List.mem_append.mp columns with ivk | attestation
    · cases ivkCommitment with
      | none => cases ivk
      | some =>
        obtain rfl := List.mem_singleton.mp ivk
        exact column _ db next done
    · cases registrationAttestation with
      | none => cases attestation
      | some =>
        obtain rfl := List.mem_singleton.mp attestation
        exact column _ db next done
  · rcases List.mem_cons.mp mailboxes with rfl | last
    · exact mailbox inbox db next done
    · obtain rfl := List.mem_singleton.mp last
      exact mailbox sent db next done

/-- The statements after the first pass exactly if none that is run is chosen to fail. -/
theorem furnishUser_passes_iff (fails : SqlStatement → Bool) (userId : Nat)
    (ivkCommitment registrationAttestation : Option String) (uidvalidity : UInt32) :
    (∀ step ∈ Connection.furnishUser userId ivkCommitment registrationAttestation uidvalidity,
      fails step.1 = false) ↔
    (ivkCommitment.isSome → fails .setIvkCommitment = false) ∧
      (registrationAttestation.isSome → fails .setRegistrationAttestation = false) ∧
      fails .insertInbox = false ∧ fails .insertSent = false := by
  cases ivkCommitment <;> cases registrationAttestation <;> simp [Connection.furnishUser]

/-- The insertion of the user is refused, or leaves a user without mailboxes. -/
theorem insertUser_cases {db : Db} (keyed : Keyed db) (username passwordHash : String)
    (masterPubkey : List UInt8) (now : Int64) :
    ((∃ row ∈ db.users, row.username = username) ∧
      Connection.insertUser username passwordHash masterPubkey now db = none) ∨
    ((¬ ∃ row ∈ db.users, row.username = username) ∧ ∃ next,
      Connection.insertUser username passwordHash masterPubkey now db = some next ∧
      next = { db with users := db.users ++ [⟨nextId UserRow.id db.users, username, passwordHash,
        masterPubkey, now, none, none⟩] } ∧
      Unfurnished (nextId UserRow.id db.users) next) := by
  unfold Connection.insertUser
  have taken : db.users.any (·.username == username) = true ↔
      ∃ row ∈ db.users, row.username = username := by simp
  split
  · rename_i found
    exact .inl ⟨taken.mp found, rfl⟩
  · rename_i unused
    refine .inr ⟨fun found => unused (taken.mpr found), _, rfl, rfl, ?_, ?_⟩
    · exact ⟨_, List.mem_append_right _ (List.mem_singleton_self _), rfl⟩
    · intro box member same
      obtain ⟨user, found, owner⟩ := keyed.owners box member
      exact nextId_fresh UserRow.id db.users user found (owner.trans same)

/-- A failed creation leaves nothing exactly if it fails at the user's row or not at all. -/
theorem createUserFull_undone_iff {connection : Connection} (keyed : Keyed connection.tables)
    (fails : SqlStatement → Bool) (username passwordHash : String) (masterPubkey : List UInt8)
    (ivkCommitment registrationAttestation : Option String) (now : Int64) :
    Undone connection.tables (connection.createUserFull fails username passwordHash masterPubkey
        ivkCommitment registrationAttestation now) ↔
      FailsClean fails connection (.createUserFull username passwordHash masterPubkey
        ivkCommitment registrationAttestation now) := by
  have rises := furnishUser_rises (nextId UserRow.id connection.tables.users) ivkCommitment
    registrationAttestation now.toUInt64.toUInt32
  have cases' := insertUser_cases keyed username passwordHash masterPubkey now
  have strict : ∀ next,
      Connection.insertUser username passwordHash masterPubkey now connection.tables = some next →
        connection.tables.users.length < next.users.length := by
    intro next done
    rcases cases' with ⟨-, refused⟩ | ⟨-, other, inserted, rfl, -⟩
    · rw [refused] at done
      cases done
    · rw [← Option.some.inj (inserted.symm.trans done)]
      simp
  have accepted : ∀ next,
      Connection.insertUser username passwordHash masterPubkey now connection.tables = some next →
        Accepted (Connection.furnishUser (nextId UserRow.id connection.tables.users) ivkCommitment
          registrationAttestation now.toUInt64.toUInt32) next := by
    intro next done
    rcases cases' with ⟨-, refused⟩ | ⟨-, other, inserted, -, unfurnished⟩
    · rw [refused] at done
      cases done
    · rw [← Option.some.inj (inserted.symm.trans done)]
      exact furnishUser_accepted unfurnished ..
  have taken : Connection.insertUser username passwordHash masterPubkey now connection.tables =
      none ↔ ∃ row ∈ connection.tables.users, row.username = username := by
    rcases cases' with ⟨found, refused⟩ | ⟨unused, other, inserted, -, -⟩
    · exact iff_of_true refused found
    · rw [inserted]
      exact iff_of_false nofun unused
  rw [FailsClean, ← taken,
    ← furnishUser_passes_iff fails (nextId UserRow.id connection.tables.users)
    ivkCommitment registrationAttestation now.toUInt64.toUInt32,
    ← execute_atomic_iff fails strict rises accepted]
  unfold Undone Connection.createUserFull
  dsimp only
  generalize execute fails _ connection.tables = result
  obtain ⟨success, tables⟩ := result
  cases success <;> simp

/-! ## Appending a message -/

/-- The insertion of a message is refused, or adds a row. -/
theorem insertMessage_some {db next : Db} {handle : Db.Handle} {msg : NewMessage} {now : Int64}
    (done : Connection.insertMessage handle msg now db = some next) :
    next = { db with messages := db.messages ++ [db.newRow handle msg now] } := by
  unfold Connection.insertMessage at done
  split at done
  · cases done
  · split at done
    · exact (Option.some.inj done).symm
    · cases done

/-- A new message of a mailbox that was found is not refused. -/
theorem insertMessage_ne_none {db : Db} {userId : Nat} {mailbox : String} {handle : Db.Handle}
    (named : db.mailboxNamed userId mailbox = .ok handle) {msg : NewMessage}
    (new : db.holds handle.id msg.messageId = false) (now : Int64) :
    Connection.insertMessage handle msg now db ≠ none := by
  obtain ⟨box, member, -, -, rfl⟩ := mailboxNamed_ok named
  have found : db.mailboxes.any (fun other => decide (other.id = box.id)) = true :=
    List.any_eq_true.mpr ⟨box, member, decide_eq_true rfl⟩
  rw [Connection.insertMessage, new, if_neg Bool.false_ne_true, if_pos found]
  nofun

/-- Storing a message leaves nothing when it fails exactly if it fails at the message's row, or not
at all. -/
theorem storeMessage_atomic {db : Db} {userId : Nat} {mailbox : String} {handle : Db.Handle}
    (named : db.mailboxNamed userId mailbox = .ok handle) {msg : NewMessage}
    (new : db.holds handle.id msg.messageId = false) (fails : SqlStatement → Bool) (now : Int64) :
    ((execute fails (Connection.storeMessage handle msg now) db).1 = false →
      (execute fails (Connection.storeMessage handle msg now) db).2 = db) ↔
      fails .insertMessage = true ∨ fails .incrementUidnext = false := by
  have strict : ∀ next, Connection.insertMessage handle msg now db = some next →
      db.messages.length < next.messages.length := by
    intro next done
    rw [insertMessage_some done]
    simp
  have rises : ∀ step ∈ [(SqlStatement.incrementUidnext, Connection.incrementUidnext handle.id)],
      ∀ db next, step.2 db = some next → db.messages.length ≤ next.messages.length := by
    intro step member db next done
    obtain rfl := List.mem_singleton.mp member
    rw [← Option.some.inj done]
  have accepted : ∀ next, Connection.insertMessage handle msg now db = some next →
      Accepted [(SqlStatement.incrementUidnext, Connection.incrementUidnext handle.id)] next :=
    fun _ _ => ⟨_, rfl, trivial⟩
  rw [Connection.storeMessage, execute_atomic_iff fails strict rises accepted]
  simp [insertMessage_ne_none named new now]

/-- A failed append leaves nothing exactly if it fails before the message is stored, or not at
all. -/
theorem appendMessageTo_undone_iff (fails : SqlStatement → Bool) (connection : Connection)
    (userId : Nat) (mailbox : String) (msg : NewMessage) (now : Int64) :
    Undone connection.tables (connection.appendMessageTo fails userId mailbox msg now) ↔
      FailsClean fails connection (.appendMessageTo userId mailbox msg now) := by
  rw [Undone, Connection.appendMessageTo, FailsClean]
  cases selected : fails .selectMailbox with
  | true => simp
  | false =>
    cases named : connection.tables.mailboxNamed userId mailbox with
    | error => simp
    | ok handle =>
      cases counted : fails .countMessages with
      | true => simp
      | false =>
        cases held : connection.tables.holds handle.id msg.messageId with
        | true => simp [held]
        | false =>
          have atomic := storeMessage_atomic named held fails now
          simp only [Bool.false_eq_true, if_false, Except.ok.injEq, forall_eq', held, false_or]
          rw [← atomic]
          generalize execute fails _ connection.tables = result
          obtain ⟨success, tables⟩ := result
          cases success <;> simp

/-! ## Deleting a user -/

/-- The rows of the tables. -/
def rowCount (db : Db) : Nat :=
  db.users.length + db.keyring.length + db.shares.length + db.mailboxes.length +
    db.messages.length + db.transactions.length

/-- Deleting rows deletes none, or leaves fewer. -/
theorem filter_falls {ρ : Type} (keeps : ρ → Bool) (rows : List ρ) :
    rows.filter keeps = rows ∨ (rows.filter keeps).length < rows.length := by
  rcases Nat.lt_or_ge (rows.filter keeps).length rows.length with fewer | all
  · exact .inr fewer
  · exact .inl (List.filter_sublist.eq_of_length_le all)

/-- A statement that deletes rows leaves the tables as they are, or fewer rows. -/
theorem deleteRows_falls (userId : Nat) (username : String) :
    ∀ step ∈ Connection.deleteRows userId username, ∀ db next, step.2 db = some next →
      next = db ∨ rowCount next < rowCount db := by
  intro step member db next done
  simp only [Connection.deleteRows, List.mem_cons, List.not_mem_nil, or_false] at member
  rcases member with rfl | rfl | rfl | rfl | rfl | rfl
  · rw [← Option.some.inj done, Db.deleteKeyring, rowCount, rowCount]
    rcases filter_falls (fun row => decide (row.userId ≠ userId)) db.keyring with same | fewer
    · exact .inl (by rw [same])
    · exact .inr (by dsimp only; omega)
  · rw [← Option.some.inj done, Db.deleteShares, rowCount, rowCount]
    rcases filter_falls (fun row => decide (row.userId ≠ userId)) db.shares with same | fewer
    · exact .inl (by rw [same])
    · exact .inr (by dsimp only; omega)
  · rw [← Option.some.inj done, Db.deleteTransactions, rowCount, rowCount]
    rcases filter_falls (fun tx => !db.txOf userId username tx) db.transactions with same | fewer
    · exact .inl (by rw [same])
    · exact .inr (by dsimp only; omega)
  · rw [← Option.some.inj done, Db.deleteMessages, rowCount, rowCount]
    rcases filter_falls (fun row => decide (row.mailboxId ∉ db.mailboxIdsOf userId))
      db.messages with same | fewer
    · exact .inl (by rw [same])
    · exact .inr (by dsimp only; omega)
  · rw [← Option.some.inj done, Db.deleteMailboxes, rowCount, rowCount]
    rcases filter_falls (fun box => decide (box.userId ≠ userId)) db.mailboxes with same | fewer
    · exact .inl (by rw [same])
    · exact .inr (by dsimp only; omega)
  · rw [← Option.some.inj done, Db.deleteUserRow, rowCount, rowCount]
    rcases filter_falls (fun row => decide (row.id ≠ userId)) db.users with same | fewer
    · exact .inl (by rw [same])
    · exact .inr (by dsimp only; omega)

/-- No deletion is refused. -/
theorem deleteRows_accepted (userId : Nat) (username : String) (db : Db) :
    Accepted (Connection.deleteRows userId username) db :=
  ⟨_, rfl, _, rfl, _, rfl, _, rfl, _, rfl, _, rfl, trivial⟩

/-- When every deletion passes, the user is gone. -/
theorem deleteRows_users {fails : SqlStatement → Bool} {userId : Nat} {username : String} {db : Db}
    (passes : ∀ step ∈ Connection.deleteRows userId username, fails step.1 = false) :
    (execute fails (Connection.deleteRows userId username) db).2.users =
      db.users.filter fun row => decide (row.id ≠ userId) := by
  simp only [Connection.deleteRows, List.forall_mem_cons] at passes
  obtain ⟨keyring, shares, transactions, messages, mailboxes, users, -⟩ := passes
  simp only [Connection.deleteRows, execute, keyring, shares, transactions, messages, mailboxes,
    users, Bool.false_eq_true, if_false]
  rfl

/-- Where no deletion fails, deleting the rows of a user changes the tables. -/
theorem deleteRows_changes {fails : SqlStatement → Bool} {username : String} {user : User} {db : Db}
    (found : db.getUser username = some user)
    (passes : ∀ step ∈ Connection.deleteRows user.id user.username, fails step.1 = false) :
    (execute fails (Connection.deleteRows user.id user.username) db).2 ≠ db := by
  intro unchanged
  have users := @deleteRows_users fails _ _ db passes
  obtain ⟨row, member, rfl⟩ := Option.map_eq_some_iff.mp found
  have kept : row ∈ db.users.filter fun other => decide (other.id ≠ row.id) := by
    rw [← users, unchanged]
    exact List.mem_of_find?_eq_some member
  simpa using (List.mem_filter.mp kept).2

/-- A failed deletion leaves nothing exactly if it fails before its transaction, or `ROLLBACK` or
`COMMIT` works, or a deletion fails before any row is deleted. -/
theorem deleteUser_undone_iff (fails : SqlStatement → Bool) (connection : Connection)
    (username : String) :
    Undone connection.tables (connection.deleteUser fails username) ↔
      FailsClean fails connection (.deleteUser username) := by
  rw [Undone, Connection.deleteUser, FailsClean]
  cases selected : fails .selectUser with
  | true => simp
  | false =>
    cases found : connection.tables.getUser username with
    | none => simp
    | some user =>
      cases begun : fails .beginTransaction with
      | true => simp [Connection.beginTransaction, begun]
      | false =>
        obtain ⟨tables, saved⟩ := connection
        cases saved with
        | some before => simp [Connection.beginTransaction]
        | none =>
          have opened : (⟨tables, none⟩ : Connection).beginTransaction fails =
              some ⟨tables, some tables⟩ := by
            rw [Connection.beginTransaction, begun]
            rfl
          simp only [Bool.false_eq_true, if_false, opened, false_or, ne_eq, not_true_eq_false,
            Option.some.injEq, forall_eq']
          have passes := @execute_succeeds_iff _ _ fails _ _
            (deleteRows_accepted user.id user.username tables)
          have changes := @deleteRows_changes fails _ _ _ found
          have stops := @execute_stops_iff _ _ fails _ _ (deleteRows_falls user.id user.username)
            tables
          generalize execute fails (Connection.deleteRows user.id user.username) tables = result
            at passes changes stops
          obtain ⟨success, left⟩ := result
          cases success with
          | true =>
            have all := passes.mp rfl
            rw [if_pos all]
            cases committed : fails .commit with
            | true => simp [Connection.commit, committed, changes all]
            | false => simp [Connection.commit, committed]
          | false =>
            rw [if_neg fun all => Bool.false_ne_true (passes.mpr all)]
            cases rolled : fails .rollback with
            | true => simp [Connection.rollback, rolled, ← stops rfl]
            | false => simp [Connection.rollback, rolled]

/-! ## The three functions -/

/-- A call that returns an error leaves every table as it was exactly if no statement fails after a
write that nothing undoes. -/
theorem all_or_nothing_iff_fails_clean {connection : Connection} (keyed : Keyed connection.tables)
    (fails : SqlStatement → Bool) (call : Call) :
    AllOrNothing fails connection call ↔ FailsClean fails connection call := by
  cases call with
  | createUserFull => exact createUserFull_undone_iff keyed ..
  | appendMessageTo => exact appendMessageTo_undone_iff ..
  | deleteUser => exact deleteUser_undone_iff ..

/-- Deleting a user, among others and a message, when the mailboxes cannot be deleted. -/
theorem failed_deletion_leaves_nothing :
    AllOrNothing (· == .deleteMailboxes) ⟨Deletion.namesake, none⟩ (.deleteUser "alice") ∧
      (Connection.deleteUser (· == .deleteMailboxes) ⟨Deletion.namesake, none⟩ "alice").1 =
        .error .storage := by
  refine ⟨(@all_or_nothing_iff_fails_clean ⟨Deletion.namesake, none⟩ Deletion.keyed_namesake
    (· == .deleteMailboxes) (.deleteUser "alice")).mpr ?_, by decide +kernel⟩
  refine .inr (.inr (.inr fun user _ => ?_))
  split
  · rfl
  · exact .inl rfl

/-- Creating the first user when its INBOX cannot be inserted leaves the user without one. -/
theorem failed_inbox_leaves_user :
    ¬ AllOrNothing (· == .insertInbox) ⟨.empty, none⟩
      (.createUserFull "bob" "" [] none none 0) := by
  intro undone
  have empty := undone .storage (by decide +kernel)
  exact absurd (congrArg Db.users empty) (by decide +kernel)

/-! ## Without failures -/

/-- The last two statements insert the mailboxes. -/
theorem execute_mailboxes {userId : Nat} {db : Db} (unfurnished : Unfurnished userId db)
    (uidvalidity : UInt32) :
    execute (fun _ => false) [(SqlStatement.insertInbox, Connection.insertMailbox userId inbox
      uidvalidity), (.insertSent, Connection.insertMailbox userId sent uidvalidity)] db =
      (true, (db.insertMailbox userId inbox uidvalidity).insertMailbox userId sent
        uidvalidity) := by
  simp only [execute, insertInbox_some unfurnished uidvalidity,
    insertSent_some unfurnished uidvalidity, Bool.false_eq_true, if_false]

/-- A statement that is not refused is run. -/
theorem execute_accepted (label : SqlStatement) (change : Db → Db)
    (rest : List (SqlStatement × Statement Db)) (db : Db) :
    execute (fun _ => false) ((label, fun db => some (change db)) :: rest) db =
      execute (fun _ => false) rest (change db) := rfl

/-- A column of the user that was just inserted is set. -/
theorem updateUser_inserted (db : Db) {row : UserRow} (new : row.id = nextId UserRow.id db.users)
    (change : UserRow → UserRow) :
    Connection.updateUser (nextId UserRow.id db.users) change
        { db with users := db.users ++ [row] } =
      { db with users := db.users ++ [change row] } := by
  rw [Connection.updateUser, update_insert new]

/-- The statements of `create_user_full` do what the function does. -/
theorem createUserFull_refines {connection : Connection} (keyed : Keyed connection.tables)
    (username passwordHash : String) (masterPubkey : List UInt8)
    (ivkCommitment registrationAttestation : Option String) (now : Int64) :
    connection.createUserFull (fun _ => false) username passwordHash masterPubkey ivkCommitment
        registrationAttestation now =
      ((connection.tables.createUserFull username passwordHash masterPubkey ivkCommitment
          registrationAttestation now).1,
        { connection with tables := (connection.tables.createUserFull username passwordHash
          masterPubkey ivkCommitment registrationAttestation now).2 }) := by
  rcases insertUser_cases keyed username passwordHash masterPubkey now with
    ⟨taken, refused⟩ | ⟨unused, next, inserted, rfl, unfurnished⟩
  · simp [Connection.createUserFull, Db.createUserFull, execute, refused, taken]
  · have free : ¬ connection.tables.users.any (·.username == username) = true := by
      simpa using unused
    have bare : ∀ row : UserRow, row.id = nextId UserRow.id connection.tables.users →
        Unfurnished (nextId UserRow.id connection.tables.users)
          { connection.tables with users := connection.tables.users ++ [row] } := fun row id =>
      ⟨⟨row, List.mem_append_right _ (List.mem_singleton_self row), id⟩, unfurnished.bare⟩
    rw [Connection.createUserFull, Db.createUserFull, if_neg free]
    dsimp only
    rw [execute, inserted]
    cases ivkCommitment <;> cases registrationAttestation <;>
      simp only [Bool.false_eq_true, if_false, Connection.furnishUser, List.nil_append,
        List.cons_append, execute_accepted, updateUser_inserted, execute_mailboxes, bare]

/-- The statements of `append_message_to` do what the function does. -/
theorem appendMessageTo_refines (connection : Connection) (userId : Nat) (mailbox : String)
    (msg : NewMessage) (now : Int64) :
    connection.appendMessageTo (fun _ => false) userId mailbox msg now =
      ((connection.tables.appendMessageTo userId mailbox msg now).1,
        { connection with
          tables := (connection.tables.appendMessageTo userId mailbox msg now).2 }) := by
  rw [Connection.appendMessageTo, Db.appendMessageTo]
  cases named : connection.tables.mailboxNamed userId mailbox with
  | error => rfl
  | ok handle =>
    obtain ⟨box, member, -, -, rfl⟩ := mailboxNamed_ok named
    have found : connection.tables.mailboxes.any (fun other => decide (other.id = box.id)) = true :=
      List.any_eq_true.mpr ⟨box, member, decide_eq_true rfl⟩
    cases held : connection.tables.holds box.id msg.messageId with
    | true => simp [Db.insertMessage, held]
    | false =>
      simp [Db.insertMessage, Connection.storeMessage, Connection.insertMessage,
        Connection.incrementUidnext, Db.inserted, execute, held, found]

/-- The statements of `delete_user` do what the function does. -/
theorem deleteUser_refines (tables : Db) (username : String) :
    (⟨tables, none⟩ : Connection).deleteUser (fun _ => false) username =
      ((tables.deleteUser username).1, ⟨(tables.deleteUser username).2, none⟩) := by
  rw [Connection.deleteUser, Db.deleteUser]
  cases tables.getUser username with
  | none => rfl
  | some user => rfl

/-- The statements of a call that none of them fails in do what the function does, on tables that
are keyed. -/
theorem statements_are_calls {tables : Db} (keyed : Keyed tables) :
    (∀ username passwordHash masterPubkey ivkCommitment registrationAttestation now,
      let created := tables.createUserFull username passwordHash masterPubkey ivkCommitment
        registrationAttestation now
      (⟨tables, none⟩ : Connection).createUserFull (fun _ => false) username passwordHash
        masterPubkey ivkCommitment registrationAttestation now = (created.1, ⟨created.2, none⟩)) ∧
    (∀ userId mailbox msg now,
      let appended := tables.appendMessageTo userId mailbox msg now
      (⟨tables, none⟩ : Connection).appendMessageTo (fun _ => false) userId mailbox msg now =
        (appended.1, ⟨appended.2, none⟩)) ∧
    ∀ username,
      let deleted := tables.deleteUser username
      (⟨tables, none⟩ : Connection).deleteUser (fun _ => false) username =
        (deleted.1, ⟨deleted.2, none⟩) :=
  ⟨@createUserFull_refines ⟨tables, none⟩ keyed,
    appendMessageTo_refines ⟨tables, none⟩, deleteUser_refines tables⟩

/-- Statement by statement, dan is created as the fourth user, a message that bob has is refused,
and alice is deleted. -/
theorem namesake_statements :
    let connection : Connection := ⟨Deletion.namesake, none⟩
    (connection.createUserFull (fun _ => false) "dan" "" [] none none 0).1 =
        .ok ⟨4, "dan", [], none, none⟩ ∧
      connection.appendMessageTo (fun _ => false) 1 inbox ⟨"m1", "", [], .default, "", ""⟩ 0 =
        (.error (.duplicateMessage "m1"), connection) ∧
      connection.deleteUser (fun _ => false) "alice" =
        (.ok (), ⟨(Deletion.namesake.deleteUser "alice").2, none⟩) := by
  intro connection
  obtain ⟨created, appended, deleted⟩ := statements_are_calls Deletion.keyed_namesake
  refine ⟨?_, ?_, ?_⟩
  · rw [created]
    decide +kernel
  · rw [appended]
    decide +kernel
  · rw [deleted]
    decide +kernel

end Talk.Verif.Atomicity
