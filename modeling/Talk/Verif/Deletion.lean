import Talk.Verif.StoreSteps

/-!
# What deleting a user leaves of the others

The rows of another user's tables are kept. Its transactions are not told apart by their owner:
those whose sender is LIKE the deleted name, an `@` and anything are deleted with the user, so a
remote correspondent with that local part, or a name that the pattern happens to match, loses
another user's ledger entries.
-/

namespace Talk.Verif.Deletion

open Mailstore StoreSteps Table

/-- A transaction is linked to a message of the user. -/
def LinkedTo (db : Db) (userId : Nat) (tx : Transaction) : Prop :=
  ∃ rowId ∈ db.rowIdsOf userId, tx.messageRowId = some rowId

/-- A transaction is an outbound one of the local sender. -/
def SentBy (domain username : String) (tx : Transaction) : Prop :=
  tx.direction = .outgoing ∧ tx.senderMailbox = username ++ "@" ++ domain

instance (db : Db) (userId : Nat) (tx : Transaction) : Decidable (LinkedTo db userId tx) :=
  inferInstanceAs (Decidable (∃ rowId ∈ _, _))

instance (domain username : String) (tx : Transaction) : Decidable (SentBy domain username tx) :=
  inferInstanceAs (Decidable (_ ∧ _))

/-- What belongs to a user is as it was. -/
structure Untouched (domain : String) (before after : Db) (other : UserRow) : Prop where
  /-- The user row. -/
  users : after.users.filter (fun row => decide (row.id = other.id)) =
    before.users.filter fun row => decide (row.id = other.id)
  /-- The mailboxes. -/
  mailboxes : after.mailboxes.filter (fun box => decide (box.userId = other.id)) =
    before.mailboxes.filter fun box => decide (box.userId = other.id)
  /-- The messages in them. -/
  messages :
    after.messages.filter (fun row => decide (row.mailboxId ∈ before.mailboxIdsOf other.id)) =
    before.messages.filter fun row => decide (row.mailboxId ∈ before.mailboxIdsOf other.id)
  /-- The shares. -/
  shares : after.shares.filter (fun row => decide (row.userId = other.id)) =
    before.shares.filter fun row => decide (row.userId = other.id)
  /-- The keyring. -/
  keyring : after.keyring.filter (fun row => decide (row.userId = other.id)) =
    before.keyring.filter fun row => decide (row.userId = other.id)
  /-- The transactions that are linked to the messages. -/
  linked : ∀ tx ∈ before.transactions, LinkedTo before other.id tx → tx ∈ after.transactions
  /-- The transactions that the user has sent. -/
  sent : ∀ tx ∈ before.transactions, SentBy domain other.username tx → tx ∈ after.transactions

/-- No sender of another user's transactions looks like the deleted user, and none that the other
user has sent is linked to a message of the deleted one. -/
def ToldApart (domain : String) (db : Db) (user : User) (other : UserRow) : Prop :=
  ∀ tx ∈ db.transactions,
    (LinkedTo db other.id tx → Like.like tx.senderMailbox (user.username ++ "@%") = false) ∧
    (SentBy domain other.username tx →
      Like.like tx.senderMailbox (user.username ++ "@%") = false ∧ ¬ LinkedTo db user.id tx)

instance (domain : String) (db : Db) (user : User) (other : UserRow) :
    Decidable (ToldApart domain db user other) :=
  inferInstanceAs (Decidable (∀ tx ∈ db.transactions, _))

/-- Deleting leaves the rows that no deletion selects. -/
theorem deleteUser_tables {db : Db} {username : String} {user : User}
    (found : db.getUser username = some user) :
    (db.deleteUser username).2 =
      ⟨db.users.filter fun row => decide (row.id ≠ user.id),
        db.keyring.filter fun row => decide (row.userId ≠ user.id),
        db.shares.filter fun row => decide (row.userId ≠ user.id),
        db.mailboxes.filter fun box => decide (box.userId ≠ user.id),
        db.messages.filter fun row => decide (row.mailboxId ∉ db.mailboxIdsOf user.id),
        db.transactions.filter fun tx => !db.txOf user.id user.username tx⟩ := by
  rw [Db.deleteUser, found]
  rfl

/-- Rows that a deletion does not select are all kept. -/
theorem filter_filter_keeps {ρ : Type} (selects keeps : ρ → Bool) (rows : List ρ)
    (kept : ∀ row ∈ rows, selects row = true → keeps row = true) :
    (rows.filter keeps).filter selects = rows.filter selects := by
  rw [List.filter_filter]
  refine List.filter_congr fun row member => ?_
  cases selected : selects row with
  | false => rfl
  | true => rw [kept row member selected, Bool.true_and]

/-- The rows of different owners are different. -/
theorem keeps_owner {ρ : Type} {owner : ρ → Nat} {userId otherId : Nat} (differs : otherId ≠ userId)
    (rows : List ρ) :
    (rows.filter fun row => decide (owner row ≠ userId)).filter
        (fun row => decide (owner row = otherId)) =
      rows.filter fun row => decide (owner row = otherId) :=
  filter_filter_keeps _ _ rows fun row _ selected => by
    rw [of_decide_eq_true selected]
    exact decide_eq_true differs

/-- Users share no mailbox. -/
theorem mailboxIdsOf_disjoint {db : Db} (keyed : Keyed db) {userId otherId mailboxId : Nat}
    (differs : otherId ≠ userId) (others : mailboxId ∈ db.mailboxIdsOf otherId) :
    mailboxId ∉ db.mailboxIdsOf userId := by
  intro own
  obtain ⟨box, member, rfl⟩ := List.mem_map.mp others
  obtain ⟨same, inside, id⟩ := List.mem_map.mp own
  obtain ⟨member, owner⟩ := List.mem_filter.mp member
  obtain ⟨inside, sameOwner⟩ := List.mem_filter.mp inside
  rw [eq_of_unique keyed.mailboxIds inside member id] at sameOwner
  exact differs ((of_decide_eq_true owner).symm.trans (of_decide_eq_true sameOwner))

/-- Users share no message. -/
theorem rowIdsOf_disjoint {db : Db} (keyed : Keyed db) {userId otherId rowId : Nat}
    (differs : otherId ≠ userId) (others : rowId ∈ db.rowIdsOf otherId) :
    rowId ∉ db.rowIdsOf userId := by
  intro own
  obtain ⟨row, member, rfl⟩ := List.mem_map.mp others
  obtain ⟨same, inside, id⟩ := List.mem_map.mp own
  obtain ⟨member, home⟩ := List.mem_filter.mp member
  obtain ⟨inside, sameHome⟩ := List.mem_filter.mp inside
  rw [eq_of_unique keyed.rowIds inside member id] at sameHome
  exact mailboxIdsOf_disjoint keyed differs (of_decide_eq_true home) (of_decide_eq_true sameHome)

/-- The keys stay unique when a user is deleted. -/
theorem keyed_deleteUser {db : Db} (keyed : Keyed db) (username : String) :
    Keyed (db.deleteUser username).2 := by
  cases found : db.getUser username with
  | none =>
    rw [Db.deleteUser, found]
    exact keyed
  | some user =>
    rw [deleteUser_tables found]
    refine ⟨unique_filter keyed.userIds _, unique_filter keyed.usernames _,
      unique_filter keyed.mailboxIds _, unique_filter keyed.mailboxNames _, ?_, ?_,
      unique_filter keyed.rowIds _, unique_filter keyed.messageIds _, unique_filter keyed.txIds _,
      unique_filter keyed.txKeys _⟩
    · intro box kept
      obtain ⟨member, other⟩ := List.mem_filter.mp kept
      obtain ⟨row, inside, owner⟩ := keyed.owners box member
      rw [← owner] at other
      exact ⟨row, List.mem_filter.mpr ⟨inside, other⟩, owner⟩
    · intro row kept
      obtain ⟨member, other⟩ := List.mem_filter.mp kept
      obtain ⟨box, inside, home⟩ := keyed.homes row member
      have foreign : box.userId ≠ user.id := by
        intro owner
        refine of_decide_eq_true other (List.mem_map.mpr ⟨box, ?_, home⟩)
        exact List.mem_filter.mpr ⟨inside, decide_eq_true owner⟩
      exact ⟨box, List.mem_filter.mpr ⟨inside, decide_eq_true foreign⟩, home⟩

/-- The transactions that are deleted with a user. -/
theorem txOf_iff {db : Db} {userId : Nat} {username : String} {tx : Transaction} :
    db.txOf userId username tx = true ↔
      LinkedTo db userId tx ∨ Like.like tx.senderMailbox (username ++ "@%") = true := by
  rw [Db.txOf, Bool.or_eq_true]
  refine or_congr ?_ Iff.rfl
  cases linked : tx.messageRowId with
  | none => simp [LinkedTo, linked]
  | some rowId => simp [LinkedTo, linked]

/-- A transaction is kept exactly if it is not deleted with the user. -/
theorem mem_kept_iff {db : Db} {userId : Nat} {username : String} {tx : Transaction}
    (member : tx ∈ db.transactions) :
    (tx ∈ db.transactions.filter fun tx => !db.txOf userId username tx) ↔
      Like.like tx.senderMailbox (username ++ "@%") = false ∧ ¬ LinkedTo db userId tx := by
  rw [List.mem_filter, Bool.not_eq_true', ← Bool.not_eq_true, txOf_iff, not_or, Bool.not_eq_true]
  exact ⟨fun kept => ⟨kept.2.2, kept.2.1⟩, fun kept => ⟨member, kept.2, kept.1⟩⟩

/-- Deleting a user leaves what belongs to another one exactly if their transactions are told
apart. -/
theorem untouched_iff_told_apart {db : Db} (keyed : Keyed db) (domain : String) {username : String}
    {user : User} (found : db.getUser username = some user) {other : UserRow}
    (differs : other.id ≠ user.id) :
    Untouched domain db (db.deleteUser username).2 other ↔ ToldApart domain db user other := by
  rw [deleteUser_tables found]
  constructor
  · intro untouched tx member
    refine ⟨fun linked => ?_, fun own => ?_⟩
    · exact ((mem_kept_iff member).mp (untouched.linked tx member linked)).1
    · exact (mem_kept_iff member).mp (untouched.sent tx member own)
  · intro apart
    refine ⟨keeps_owner differs _, keeps_owner differs _, ?_, keeps_owner differs _,
      keeps_owner differs _, fun tx member linked => ?_, fun tx member own => ?_⟩
    · refine filter_filter_keeps _ _ _ fun row _ others => ?_
      exact decide_eq_true (mailboxIdsOf_disjoint keyed differs (of_decide_eq_true others))
    · refine (mem_kept_iff member).mpr ⟨(apart tx member).1 linked, ?_⟩
      rintro ⟨rowId, own, same⟩
      obtain ⟨otherRow, others, link⟩ := linked
      obtain rfl : otherRow = rowId := Option.some.inj (link.symm.trans same)
      exact rowIdsOf_disjoint keyed differs others own
    · exact (mem_kept_iff member).mpr ((apart tx member).2 own)

/-! ## A remote correspondent of the same name -/

/-- Bob has a message of a remote alice, and there are a local alice and carol. -/
def namesake : Db :=
  Transition.run (apply noTemplate "b.io") .empty
    [createBob, .createUser "alice" "" [] none none 0, .createUser "carol" "" [] none none 0,
      .deliver (invoice "m1") 0]

/-- Bob. -/
def bob : UserRow := ⟨1, "bob", "", [], 0, none, none⟩

/-- The keys of that store are unique. -/
theorem keyed_namesake : Keyed namesake := by
  have kept : ∀ db operation, Keyed db → Keyed (apply noTemplate "b.io" db operation) :=
    fun _ operation keyed => keyed_apply noTemplate "b.io" keyed operation
  exact Transition.run_invariant kept keyed_empty _

/-- Deleting the local alice takes away the transaction of bob's message. -/
theorem namesake_transaction_deleted :
    bob ∈ namesake.users ∧ (namesake.deleteUser "alice").1 = .ok () ∧
      ¬ Untouched "b.io" namesake (namesake.deleteUser "alice").2 bob := by
  refine ⟨by decide +kernel, by decide +kernel, fun untouched => ?_⟩
  have kept : ∀ tx ∈ namesake.transactions, tx.messageRowId = some 1 →
      tx ∈ (namesake.deleteUser "alice").2.transactions := fun tx member linked =>
    untouched.linked tx member ⟨1, by decide +kernel, linked⟩
  exact absurd kept (by decide +kernel)

/-- Deleting carol leaves what belongs to bob. -/
theorem bob_untouched : Untouched "b.io" namesake (namesake.deleteUser "carol").2 bob := by
  have found : namesake.getUser "carol" = some ⟨3, "carol", [], none, none⟩ := by decide +kernel
  exact (untouched_iff_told_apart keyed_namesake "b.io" found (by decide)).mpr (by decide +kernel)

end Talk.Verif.Deletion
