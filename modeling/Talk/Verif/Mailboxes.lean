import Talk.Verif.MailboxModel
import Talk.Verif.StoreCalls

/-!
# The store as mailboxes of their own

The tables hold the mailboxes of all users, and their rows are numbered together. Seen from the
place that a user's row id and a name are, there is one mailbox or none, and the store's functions
do to it what the model of a mailbox says, or leave it. So what is at a place depends on the calls
that are about this place and on no other.
-/

namespace Talk.Verif.Mailboxes

open Deletion Mailstore StoreCalls StoreSteps Table Transition UidAllocation

/-! ## The view -/

/-- The entry of a row. -/
def entryOf (row : MessageRow) : Nat × Entry :=
  (row.uid, ⟨row.id, row.messageId, row.internaldate, row.flags, row.subject, row.body, row.sender,
    row.trustState⟩)

/-- The entries of a mailbox. -/
def entriesOf (db : Db) (mailboxId : Nat) : List (Nat × Entry) := (db.rowsIn mailboxId).map entryOf

/-- The mailbox row at a place. -/
def boxAt (db : Db) (userId : Nat) (name : String) : Option MailboxRow :=
  db.mailboxes.find? fun box => decide ((box.userId, box.name) = (userId, name))

/-- The mailbox of a row. -/
def mailboxOf {db : Db} (intact : Intact db) {box : MailboxRow} (member : box ∈ db.mailboxes) :
    Mailbox where
  uidvalidity := box.uidvalidity
  journal :=
    { next := box.uidnext
      entries := entriesOf db box.id
      ascending := by
        refine List.pairwise_map.mpr ((intact.ascending.filter _).imp_of_mem ?_)
        intro older newer olderMember newerMember order
        have olderHome := of_decide_eq_true (List.mem_filter.mp olderMember).2
        have newerHome := of_decide_eq_true (List.mem_filter.mp newerMember).2
        exact order (olderHome.trans newerHome.symm)
      below := by
        intro entry inside
        obtain ⟨row, stored, rfl⟩ := List.mem_map.mp inside
        obtain ⟨present, home⟩ := List.mem_filter.mp stored
        exact uid_lt intact.keyed intact.sound present member (of_decide_eq_true home) }

/-- The mailbox at a place. -/
def view {db : Db} (intact : Intact db) (userId : Nat) (name : String) : Option Mailbox :=
  match found : boxAt db userId name with
  | none => none
  | some _ => some (mailboxOf intact (List.mem_of_find?_eq_some found))

variable {db : Db} (intact : Intact db)

/-- The mailbox at the place of a row. -/
theorem view_of_mem {box : MailboxRow} (member : box ∈ db.mailboxes) :
    view intact box.userId box.name = some (mailboxOf intact member) := by
  have found : boxAt db box.userId box.name = some box :=
    (find_eq_some_iff intact.keyed.mailboxNames).mpr ⟨member, rfl⟩
  unfold view
  split
  · rename_i missing
    rw [found] at missing
    cases missing
  · rename_i other same
    obtain rfl := Option.some.inj (found.symm.trans same)
    rfl

/-- There is no mailbox at a place without a row. -/
theorem view_of_not_mem {userId : Nat} {name : String}
    (missing : ∀ box ∈ db.mailboxes, (box.userId, box.name) ≠ (userId, name)) :
    view intact userId name = none := by
  unfold view
  split
  · rfl
  · rename_i box found
    exact absurd (by simpa using List.find?_some found)
      (missing box (List.mem_of_find?_eq_some found))

/-- A place has a row or none. -/
theorem place_cases (db : Db) (userId : Nat) (name : String) :
    (∃ box ∈ db.mailboxes, box.userId = userId ∧ box.name = name) ∨
      ∀ box ∈ db.mailboxes, (box.userId, box.name) ≠ (userId, name) := by
  by_cases found : ∃ box ∈ db.mailboxes, box.userId = userId ∧ box.name = name
  · exact .inl found
  · refine .inr fun box member same => found ⟨box, member, ?_⟩
    exact Prod.mk.inj same

/-! ## What a call does at a place -/

/-- What a call is at a place. -/
def eventOf (db : Db) (userId : Nat) (name : String) : StoreCall → Option PlaceEvent
  | .createUserFull username _ _ _ _ now =>
    if db.users.any (·.username == username) then none
    else if userId = nextId UserRow.id db.users ∧ name ∈ [inbox, sent] then
      some (.opened now.toUInt64.toUInt32)
    else none
  | .deleteUser username =>
    if (db.getUser username).map User.id = some userId then some .closed else none
  | .appendMessageTo owner mailbox msg now =>
    if (owner, mailbox) = (userId, name) then
      some (.act (.append (nextId MessageRow.id db.messages) msg now))
    else none
  | .setFlagsIn owner mailbox messageId mask value =>
    if (owner, mailbox) = (userId, name) then some (.act (.setFlags messageId mask value))
    else none
  | .expungeIn owner mailbox =>
    if (owner, mailbox) = (userId, name) then some (.act .expunge) else none
  | _ => none

/-- What is at a place after a call that may have happened there. -/
def happen (place : Option Mailbox) (event : Option PlaceEvent) : Option Mailbox :=
  event.elim place (PlaceEvent.apply place)

/-- A place that a row keeps, with what the mailbox is made of. -/
theorem view_kept {after : Db} (intactAfter : Intact after) {box : MailboxRow}
    (member : box ∈ db.mailboxes) (still : box ∈ after.mailboxes)
    (entries : entriesOf after box.id = entriesOf db box.id) :
    view intactAfter box.userId box.name = view intact box.userId box.name := by
  rw [view_of_mem intact member, view_of_mem intactAfter still]
  refine congrArg some (Mailbox.ext rfl (Journal.ext rfl entries))

/-- Where the mailboxes and the messages are the same, so is what is at every place. -/
theorem view_congr {after : Db} (intactAfter : Intact after)
    (mailboxes : after.mailboxes = db.mailboxes) (messages : after.messages = db.messages)
    (userId : Nat) (name : String) : view intactAfter userId name = view intact userId name := by
  rcases place_cases db userId name with ⟨box, member, rfl, rfl⟩ | missing
  · refine view_kept intact intactAfter member (mailboxes ▸ member) ?_
    rw [entriesOf, entriesOf, Db.rowsIn, Db.rowsIn, messages]
  · rw [view_of_not_mem intact missing, view_of_not_mem intactAfter (mailboxes ▸ missing)]

/-- The mailbox a name is resolved to. -/
theorem mailboxNamed_cases (db : Db) (userId : Nat) (name : String) :
    (∃ box ∈ db.mailboxes, box.userId = userId ∧ box.name = name ∧
      db.mailboxNamed userId name = .ok ⟨box.id, box.uidvalidity, box.uidnext⟩) ∨
    (∀ box ∈ db.mailboxes, (box.userId, box.name) ≠ (userId, name)) ∧
      db.mailboxNamed userId name = .error .mailboxNotFound := by
  cases named : db.mailboxNamed userId name with
  | ok handle =>
    obtain ⟨box, member, owner, same, rfl⟩ := mailboxNamed_ok named
    exact .inl ⟨box, member, owner, same, rfl⟩
  | error error =>
    unfold Db.mailboxNamed at named
    split at named
    · rename_i none
      refine .inr ⟨fun box member same => ?_, by rw [← Except.error.inj named]⟩
      simpa [same] using List.find?_eq_none.mp none box member
    · cases named

/-- What a mailbox holds is what its journal has. -/
theorem holds_mailboxOf {box : MailboxRow} (member : box ∈ db.mailboxes) (messageId : String) :
    (mailboxOf intact member).holds messageId = db.holds box.id messageId := by
  rw [Bool.eq_iff_iff, Mailbox.holds, Db.holds, List.any_eq_true, List.any_eq_true]
  constructor
  · rintro ⟨entry, inside, same⟩
    obtain ⟨row, stored, rfl⟩ := List.mem_map.mp inside
    obtain ⟨present, home⟩ := List.mem_filter.mp stored
    exact ⟨row, present, decide_eq_true
      (Prod.ext (of_decide_eq_true home) (of_decide_eq_true same))⟩
  · rintro ⟨row, present, same⟩
    obtain ⟨home, id⟩ := Prod.mk.inj (of_decide_eq_true same)
    exact ⟨entryOf row, List.mem_map_of_mem (List.mem_filter.mpr ⟨present, decide_eq_true home⟩),
      decide_eq_true id⟩

/-! ### Creating and deleting users -/

section Added

variable {after : Db} (intactAfter : Intact after) (messages : after.messages = db.messages)
include intact messages

/-- A row with a new id whose counter starts is a mailbox that is opened. -/
theorem view_opened {box : MailboxRow} (member : box ∈ after.mailboxes)
    (unused : ∀ old ∈ db.mailboxes, old.id ≠ box.id) (one : box.uidnext = 1) :
    view intactAfter box.userId box.name = some (.opened box.uidvalidity) := by
  have empty : entriesOf after box.id = [] := by
    rw [entriesOf, Db.rowsIn, messages]
    refine List.map_eq_nil_iff.mpr (List.filter_eq_nil_iff.mpr fun row stored home => ?_)
    obtain ⟨old, found, same⟩ := intact.keyed.homes row stored
    exact unused old found (same.trans (of_decide_eq_true home))
  rw [view_of_mem intactAfter member]
  exact congrArg some (Mailbox.ext rfl (Journal.ext one empty))

/-- Rows that are added change no place but their own. -/
theorem view_added {added : List MailboxRow} (mailboxes : after.mailboxes = db.mailboxes ++ added)
    {userId : Nat} {name : String}
    (elsewhere : ∀ box ∈ added, (box.userId, box.name) ≠ (userId, name)) :
    view intactAfter userId name = view intact userId name := by
  rcases place_cases db userId name with ⟨box, member, rfl, rfl⟩ | missing
  · refine view_kept intact intactAfter member ?_ ?_
    · rw [mailboxes]
      exact List.mem_append_left added member
    · rw [entriesOf, entriesOf, Db.rowsIn, Db.rowsIn, messages]
  · rw [view_of_not_mem intact missing]
    refine view_of_not_mem intactAfter fun box member => ?_
    rw [mailboxes] at member
    exact (List.mem_append.mp member).elim (missing box) (elsewhere box)

end Added

/-- The mailbox rows that a new user gets. -/
def openedRows (db : Db) (now : Int64) : List MailboxRow :=
  let userId := nextId UserRow.id db.users
  let uidvalidity := now.toUInt64.toUInt32
  let inboxRow : MailboxRow := ⟨nextId MailboxRow.id db.mailboxes, userId, inbox, uidvalidity, 1⟩
  [inboxRow,
    ⟨nextId MailboxRow.id (db.mailboxes ++ [inboxRow]), userId, sent, uidvalidity, 1⟩]

/-- They are for the new user, under ids that are new. -/
theorem openedRows_new (now : Int64) {box : MailboxRow} (member : box ∈ openedRows db now) :
    (box.userId = nextId UserRow.id db.users ∧ box.name ∈ [inbox, sent]) ∧
      box.uidvalidity = now.toUInt64.toUInt32 ∧ box.uidnext = 1 ∧
      ∀ old ∈ db.mailboxes, old.id ≠ box.id := by
  rcases List.mem_cons.mp member with rfl | second
  · exact ⟨⟨rfl, by simp⟩, rfl, rfl, nextId_fresh MailboxRow.id db.mailboxes⟩
  · obtain rfl := List.mem_singleton.mp second
    refine ⟨⟨rfl, by simp⟩, rfl, rfl, fun old inside => ?_⟩
    exact nextId_fresh MailboxRow.id _ old (List.mem_append_left _ inside)

/-- A new user's mailboxes are opened, and no others change. -/
theorem view_createUserFull (username passwordHash : String) (masterPubkey : List UInt8)
    (ivkCommitment registrationAttestation : Option String) (now : Int64)
    (userId : Nat) (name : String)
    (after : Intact (db.perform (.createUserFull username passwordHash masterPubkey ivkCommitment
      registrationAttestation now))) :
    view after userId name = happen (view intact userId name) (eventOf db userId name
      (.createUserFull username passwordHash masterPubkey ivkCommitment registrationAttestation
        now)) := by
  by_cases taken : db.users.any (·.username == username) = true
  · have same : db.perform (.createUserFull username passwordHash masterPubkey ivkCommitment
        registrationAttestation now) = db := by
      rw [Db.perform, Db.createUserFull, if_pos taken]
    rw [eventOf, if_pos taken]
    exact view_congr intact after (congrArg Db.mailboxes same) (congrArg Db.messages same) _ _
  · have made : (db.perform (.createUserFull username passwordHash masterPubkey ivkCommitment
        registrationAttestation now)).mailboxes = db.mailboxes ++ openedRows db now := by
      rw [Db.perform, Db.createUserFull, if_neg taken]
      exact List.append_assoc _ _ _
    have messages : (db.perform (.createUserFull username passwordHash masterPubkey ivkCommitment
        registrationAttestation now)).messages = db.messages := by
      rw [Db.perform, Db.createUserFull, if_neg taken]
      rfl
    rw [eventOf, if_neg taken]
    by_cases new : userId = nextId UserRow.id db.users ∧ name ∈ [inbox, sent]
    · rw [if_pos new]
      obtain ⟨box, listed, rfl, rfl⟩ :
          ∃ box ∈ openedRows db now, box.userId = userId ∧ box.name = name := by
        obtain ⟨rfl, named⟩ := new
        rcases List.mem_cons.mp named with rfl | last
        · exact ⟨_, List.mem_cons_self, rfl, rfl⟩
        · have named := List.mem_singleton.mp last
          exact ⟨_, List.mem_cons_of_mem _ List.mem_cons_self, rfl, named.symm⟩
      obtain ⟨-, validity, one, unused⟩ := openedRows_new now listed
      have member := List.mem_append_right db.mailboxes listed
      rw [← made] at member
      rw [view_opened intact after messages member unused one, validity]
      rfl
    · rw [if_neg new]
      refine view_added intact after messages made fun box listed same => new ?_
      obtain ⟨rfl, rfl⟩ := Prod.mk.inj same
      exact (openedRows_new now listed).1

/-- A deleted user's mailboxes go, and no others change. -/
theorem view_deleteUser (username : String) (userId : Nat) (name : String)
    (after : Intact (db.perform (.deleteUser username))) :
    view after userId name = happen (view intact userId name)
      (eventOf db userId name (.deleteUser username)) := by
  rw [eventOf]
  cases found : db.getUser username with
  | none =>
    have same : db.perform (.deleteUser username) = db := by rw [Db.perform, Db.deleteUser, found]
    rw [if_neg (by simp)]
    exact view_congr intact after (congrArg Db.mailboxes same) (congrArg Db.messages same) _ _
  | some user =>
    have tables := deleteUser_tables found
    have mailboxes : (db.perform (.deleteUser username)).mailboxes =
        db.mailboxes.filter fun box => decide (box.userId ≠ user.id) :=
      congrArg Db.mailboxes tables
    have messages : (db.perform (.deleteUser username)).messages =
        db.messages.filter fun row => decide (row.mailboxId ∉ db.mailboxIdsOf user.id) :=
      congrArg Db.messages tables
    by_cases own : user.id = userId
    · rw [if_pos (by rw [← own]; rfl)]
      refine view_of_not_mem after fun box member same => ?_
      rw [mailboxes] at member
      exact of_decide_eq_true (List.mem_filter.mp member).2
        ((congrArg Prod.fst same).trans own.symm)
    · rw [if_neg (by simpa using own)]
      rcases place_cases db userId name with ⟨box, member, rfl, rfl⟩ | missing
      · refine view_kept intact after member ?_ ?_
        · rw [mailboxes]
          exact List.mem_filter.mpr ⟨member, decide_eq_true (Ne.symm own)⟩
        · rw [entriesOf, entriesOf, Db.rowsIn, Db.rowsIn, messages, filter_filter_keeps]
          intro row stored selected
          refine decide_eq_true fun deleted => own ?_
          obtain ⟨other, inside, home⟩ := List.mem_map.mp deleted
          obtain ⟨present, owner⟩ := List.mem_filter.mp inside
          obtain rfl := eq_of_unique intact.keyed.mailboxIds present member
            (home.trans (of_decide_eq_true selected))
          exact (of_decide_eq_true owner).symm
      · refine (view_of_not_mem after fun box member same => ?_).trans
          (view_of_not_mem intact missing).symm
        rw [mailboxes] at member
        exact missing box (List.mem_of_mem_filter member) same

/-! ### Messages -/

/-- What happens at a place whose mailbox is there. -/
theorem happen_act {box : MailboxRow} (member : box ∈ db.mailboxes) (owner : Nat) (mailbox : String)
    (action : Mailbox.Action) :
    happen (view intact box.userId box.name)
        (if (owner, mailbox) = (box.userId, box.name) then some (.act action) else none) =
      some (if (owner, mailbox) = (box.userId, box.name) then
        (mailboxOf intact member).act action else mailboxOf intact member) := by
  rw [view_of_mem intact member]
  split
  · rfl
  · rfl

/-- Nothing is done to a mailbox that is not there. -/
theorem happen_missing {userId : Nat} {name : String}
    (missing : ∀ box ∈ db.mailboxes, (box.userId, box.name) ≠ (userId, name)) (owner : Nat)
    (mailbox : String) (action : Mailbox.Action) :
    happen (view intact userId name)
        (if (owner, mailbox) = (userId, name) then some (.act action) else none) = none := by
  rw [view_of_not_mem intact missing]
  split
  · rfl
  · rfl

section Inserted

variable {box : MailboxRow} (member : box ∈ db.mailboxes) (msg : NewMessage) (now : Int64)
  (after : Intact (db.inserted ⟨box.id, box.uidvalidity, box.uidnext⟩ msg now))

/-- The rows of a mailbox after a message is inserted into one. -/
theorem rowsIn_inserted (db : Db) (handle : Db.Handle) (msg : NewMessage) (now : Int64)
    (mailboxId : Nat) :
    (db.inserted handle msg now).rowsIn mailboxId = db.rowsIn mailboxId ++
      if handle.id = mailboxId then [db.newRow handle msg now] else [] := by
  rw [Db.rowsIn, Db.inserted, List.filter_append, List.filter_singleton, Bool.cond_decide]
  rfl

/-- A message that is inserted is appended to its mailbox. -/
theorem view_inserted (fresh : db.holds box.id msg.messageId = false) :
    view after box.userId box.name = some ((mailboxOf intact member).act
      (.append (nextId MessageRow.id db.messages) msg now)) := by
  rw [Mailbox.act,
    if_neg (by rw [holds_mailboxOf intact member, fresh]; exact Bool.false_ne_true)]
  have counted : { box with uidnext := box.uidnext + 1 } ∈
      (db.inserted ⟨box.id, box.uidvalidity, box.uidnext⟩ msg now).mailboxes :=
    mem_update.mpr ⟨box, member, (if_pos (decide_eq_true rfl)).symm⟩
  refine (view_of_mem after counted).trans (congrArg some (Mailbox.ext rfl (Journal.ext rfl ?_)))
  refine (congrArg (List.map entryOf) (rowsIn_inserted db _ msg now box.id)).trans ?_
  rw [if_pos rfl, List.map_append]
  rfl

/-- The other mailboxes are left. -/
theorem view_inserted_other {other : MailboxRow} (found : other ∈ db.mailboxes)
    (apart : box.id ≠ other.id) :
    view after other.userId other.name = view intact other.userId other.name := by
  have still : other ∈ (db.inserted ⟨box.id, box.uidvalidity, box.uidnext⟩ msg now).mailboxes :=
    mem_update.mpr ⟨other, found, (if_neg (by simpa using apart.symm)).symm⟩
  refine view_kept intact after found still ?_
  rw [entriesOf, rowsIn_inserted, if_neg apart, List.append_nil]
  rfl

/-- No mailbox comes about. -/
theorem view_inserted_missing {userId : Nat} {name : String}
    (missing : ∀ other ∈ db.mailboxes, (other.userId, other.name) ≠ (userId, name)) :
    view after userId name = none := by
  refine view_of_not_mem after fun other inside same => ?_
  obtain ⟨old, found, rfl⟩ := mem_update.mp inside
  refine missing old found (Eq.trans ?_ same)
  split
  · rfl
  · rfl

end Inserted

/-- A message is appended to the mailbox it is for. -/
theorem view_appendMessageTo (owner : Nat) (mailbox : String) (msg : NewMessage) (now : Int64)
    (userId : Nat) (name : String)
    (after : Intact (db.perform (.appendMessageTo owner mailbox msg now))) :
    view after userId name = happen (view intact userId name)
      (eventOf db userId name (.appendMessageTo owner mailbox msg now)) := by
  rw [eventOf]
  have unchanged (same : db.perform (.appendMessageTo owner mailbox msg now) = db) :
      view after userId name = view intact userId name :=
    view_congr intact after (congrArg Db.mailboxes same) (congrArg Db.messages same) _ _
  rcases appendMessageTo_cases db owner mailbox msg now with
    ⟨gone, refused⟩ | ⟨handle, named, ⟨held, refused⟩ | ⟨fresh, stored⟩⟩
  · rw [unchanged (by rw [Db.perform, refused])]
    split
    · rename_i place
      obtain ⟨rfl, rfl⟩ := Prod.mk.inj place
      rcases mailboxNamed_cases db owner mailbox with ⟨box, -, -, -, named⟩ | ⟨missing, -⟩
      · rw [gone] at named
        cases named
      · rw [view_of_not_mem intact missing]
        rfl
    · rfl
  · obtain ⟨box, member, rfl, rfl, rfl⟩ := mailboxNamed_ok named
    rw [unchanged (by rw [Db.perform, refused])]
    split
    · rename_i place
      obtain ⟨rfl, rfl⟩ := Prod.mk.inj place
      have same : (mailboxOf intact member).act
          (.append (nextId MessageRow.id db.messages) msg now) = mailboxOf intact member := by
        rw [Mailbox.act, if_pos ((holds_mailboxOf intact member _).trans held)]
      rw [view_of_mem intact member]
      exact congrArg some same.symm
    · rfl
  · obtain ⟨box, member, rfl, rfl, rfl⟩ := mailboxNamed_ok named
    have made : db.perform (.appendMessageTo box.userId box.name msg now) =
        db.inserted ⟨box.id, box.uidvalidity, box.uidnext⟩ msg now := by
      rw [Db.perform, stored]
    revert after
    rw [made]
    intro after unchanged
    rcases place_cases db userId name with ⟨other, found, rfl, rfl⟩ | missing
    · rw [happen_act intact found]
      by_cases place : (box.userId, box.name) = (other.userId, other.name)
      · obtain rfl := eq_of_unique intact.keyed.mailboxNames member found place
        rw [if_pos rfl]
        exact view_inserted intact member msg now after fresh
      · have apart : box.id ≠ other.id := fun same =>
          place (by rw [eq_of_unique intact.keyed.mailboxIds member found same])
        rw [if_neg place, view_inserted_other intact msg now after found apart]
        exact view_of_mem intact found
    · rw [happen_missing intact missing]
      exact view_inserted_missing msg now after missing

/-- A call that changes or removes rows of one mailbox only. -/
theorem view_rows {call : StoreCall} (after : Intact (db.perform call)) {owner : Nat}
    {mailbox : String} {action : Mailbox.Action}
    (mailboxes : (db.perform call).mailboxes = db.mailboxes)
    (own : ∀ box (member : box ∈ db.mailboxes), box.userId = owner → box.name = mailbox →
      ((mailboxOf intact member).act action).uidvalidity = box.uidvalidity ∧
      ((mailboxOf intact member).act action).journal.next = box.uidnext ∧
      ((mailboxOf intact member).act action).journal.entries = entriesOf (db.perform call) box.id)
    (foreign : ∀ box ∈ db.mailboxes, (owner, mailbox) ≠ (box.userId, box.name) →
      (db.perform call).rowsIn box.id = db.rowsIn box.id) (userId : Nat) (name : String) :
    view after userId name = happen (view intact userId name)
      (if (owner, mailbox) = (userId, name) then some (.act action) else none) := by
  rcases place_cases db userId name with ⟨box, member, rfl, rfl⟩ | missing
  · rw [happen_act intact member]
    have still : box ∈ (db.perform call).mailboxes := by rwa [mailboxes]
    rw [view_of_mem after still]
    refine congrArg some ?_
    split
    · rename_i place
      obtain ⟨rfl, rfl⟩ := Prod.mk.inj place
      obtain ⟨validity, next, entries⟩ := own box member rfl rfl
      exact Mailbox.ext validity.symm (Journal.ext next.symm entries.symm)
    · rename_i place
      exact Mailbox.ext rfl (Journal.ext rfl (congrArg (List.map entryOf)
        (foreign box member place)))
  · rw [happen_missing intact missing]
    exact view_of_not_mem after (mailboxes ▸ missing)

/-- The entry of a row whose flags may have changed. -/
theorem entryOf_update {row : MessageRow} {mailboxId messageId : Nat} {mask : UInt32} {value : Bool}
    (home : row.mailboxId = mailboxId) :
    entryOf (if decide ((row.mailboxId, row.id) = (mailboxId, messageId)) then
        Db.changeFlags mask value row else row) =
      (row.uid, if row.id = messageId then (entryOf row).2.flagged mask value
        else (entryOf row).2) := by
  by_cases same : row.id = messageId
  · rw [if_pos (decide_eq_true (Prod.ext home same)), if_pos same]
    cases value <;> rfl
  · rw [if_neg (by simp [same]), if_neg same]
    rfl

/-- Flags change in the mailbox they are changed in. -/
theorem view_setFlagsIn (owner : Nat) (mailbox : String) (messageId : Nat) (mask : UInt32)
    (value : Bool) (userId : Nat) (name : String)
    (after : Intact (db.perform (.setFlagsIn owner mailbox messageId mask value))) :
    view after userId name = happen (view intact userId name)
      (eventOf db userId name (.setFlagsIn owner mailbox messageId mask value)) := by
  rw [eventOf]
  have mailboxes : (db.perform (.setFlagsIn owner mailbox messageId mask value)).mailboxes =
      db.mailboxes := by
    rw [Db.perform, Db.setFlagsIn]
    split
    · rfl
    · rfl
  rcases mailboxNamed_cases db owner mailbox with ⟨box, member, rfl, rfl, named⟩ | ⟨missing, named⟩
  · have messages : (db.perform (.setFlagsIn box.userId box.name messageId mask value)).messages =
        update (fun row => decide ((row.mailboxId, row.id) = (box.id, messageId)))
          (Db.changeFlags mask value) db.messages := by
      rw [Db.perform, Db.setFlagsIn, named]
    have rows (mailboxId : Nat) : (db.perform (.setFlagsIn box.userId box.name messageId mask
        value)).rowsIn mailboxId = update
          (fun row => decide ((row.mailboxId, row.id) = (box.id, messageId)))
          (Db.changeFlags mask value) (db.rowsIn mailboxId) := by
      have same (row : MessageRow) :
          decide ((Db.changeFlags mask value row).mailboxId = mailboxId) =
            decide (row.mailboxId = mailboxId) := rfl
      rw [Db.rowsIn, messages]
      exact filter_update same db.messages
    refine view_rows intact after mailboxes (fun other found owner same => ?_)
      (fun other found place => ?_) userId name
    · obtain rfl := eq_of_unique intact.keyed.mailboxNames found member (Prod.ext owner same)
      refine ⟨rfl, rfl, ?_⟩
      rw [entriesOf, rows, update, List.map_map]
      refine (List.map_map ..).trans (List.map_congr_left fun row stored => ?_)
      exact (entryOf_update (of_decide_eq_true (List.mem_filter.mp stored).2)).symm
    · rw [rows]
      refine update_eq_self (fun row stored => ?_) _
      have home := of_decide_eq_true (List.mem_filter.mp stored).2
      refine decide_eq_false fun same => place ?_
      have id := home.symm.trans (congrArg Prod.fst same)
      rw [eq_of_unique intact.keyed.mailboxIds found member id]
  · have same : db.perform (.setFlagsIn owner mailbox messageId mask value) = db := by
      rw [Db.perform, Db.setFlagsIn, named]
    refine view_rows intact after mailboxes (fun other found owner same => ?_)
      (fun other found place => by rw [same]) userId name
    exact absurd (Prod.ext owner same) (missing other found)

/-- Messages are expunged from the mailbox that is expunged. -/
theorem view_expungeIn (owner : Nat) (mailbox : String) (userId : Nat) (name : String)
    (after : Intact (db.perform (.expungeIn owner mailbox))) :
    view after userId name = happen (view intact userId name)
      (eventOf db userId name (.expungeIn owner mailbox)) := by
  rw [eventOf]
  have mailboxes : (db.perform (.expungeIn owner mailbox)).mailboxes = db.mailboxes := by
    rw [Db.perform, Db.expungeIn]
    split
    · rfl
    · rfl
  rcases mailboxNamed_cases db owner mailbox with ⟨box, member, rfl, rfl, named⟩ | ⟨missing, named⟩
  · have messages : (db.perform (.expungeIn box.userId box.name)).messages =
        db.messages.filter fun row => !Db.expunges box.id row := by
      rw [Db.perform, Db.expungeIn, named]
    refine view_rows intact after mailboxes (fun other found owner same => ?_)
      (fun other found place => ?_) userId name
    · obtain rfl := eq_of_unique intact.keyed.mailboxNames found member (Prod.ext owner same)
      refine ⟨rfl, rfl, ?_⟩
      rw [entriesOf, Db.rowsIn, messages, List.filter_filter, Mailbox.act, Journal.discard_entries]
      refine List.filter_map.trans ?_
      rw [Db.rowsIn, List.filter_filter]
      refine congrArg _ (List.filter_congr fun row _ => ?_)
      rw [Db.expunges]
      by_cases home : row.mailboxId = other.id
      · simp [home, entryOf]
      · simp [home]
    · rw [Db.rowsIn, messages, filter_filter_keeps]
      · rfl
      · intro row stored selected
        rw [Db.expunges, Bool.not_eq_true', Bool.and_eq_false_iff]
        refine .inl (decide_eq_false fun home => place ?_)
        have id := (of_decide_eq_true selected).symm.trans home
        rw [eq_of_unique intact.keyed.mailboxIds found member id]
  · have same : db.perform (.expungeIn owner mailbox) = db := by
      rw [Db.perform, Db.expungeIn, named]
    refine view_rows intact after mailboxes (fun other found owner same => ?_)
      (fun other found place => by rw [same]) userId name
    exact absurd (Prod.ext owner same) (missing other found)

/-! ## Runs -/

/-- Every call does at a place what it is there. -/
theorem view_perform (call : StoreCall) (userId : Nat) (name : String)
    (after : Intact (db.perform call)) :
    view after userId name =
      happen (view intact userId name) (eventOf db userId name call) := by
  cases call with
  | createUserFull => exact view_createUserFull intact ..
  | deleteUser username => exact view_deleteUser intact username userId name after
  | appendMessageTo => exact view_appendMessageTo intact ..
  | setFlagsIn => exact view_setFlagsIn intact ..
  | expungeIn => exact view_expungeIn intact ..
  | setPassword | setIvk =>
    refine view_congr intact after ?_ ?_ userId name <;>
      (simp only [Db.perform, Db.setPassword, Db.setIvk, Db.updateUser]; split <;> rfl)
  | txCreate =>
    refine view_congr intact after ?_ ?_ userId name <;>
      (simp only [Db.perform, Db.txCreate]; split <;> rfl)
  | txLinkMessage => exact view_congr intact after rfl rfl userId name
  | txTransition | txSetBinding =>
    refine view_congr intact after ?_ ?_ userId name <;>
      (simp only [Db.perform, Db.txTransition, Db.txSetBinding, txUpdateFound_snd]; rfl)
  | keyringSetTrusted =>
    refine view_congr intact after ?_ ?_ userId name <;>
      (simp only [Db.perform, Db.keyringSetTrusted]; split <;> [rfl; (split <;> rfl)])
  | unpinKeyring =>
    refine view_congr intact after ?_ ?_ userId name <;>
      (simp only [Db.perform, Db.unpinKeyring]; split <;> rfl)
  | addShare =>
    refine view_congr intact after ?_ ?_ userId name <;>
      (simp only [Db.perform, Db.addShare]; split <;> [rfl; (split <;> rfl)])
  | revokeShare =>
    refine view_congr intact after ?_ ?_ userId name <;>
      (simp only [Db.perform, Db.revokeShare]; split <;> rfl)

/-- What calls are at a place, one after the other. -/
def eventsAt (userId : Nat) (name : String) : Db → List StoreCall → List PlaceEvent
  | _, [] => []
  | db, call :: calls =>
    (eventOf db userId name call).toList ++ eventsAt userId name (db.perform call) calls

/-- What may have happened is a list of events with one or none. -/
theorem happen_eq_foldl (place : Option Mailbox) (event : Option PlaceEvent) :
    happen place event = event.toList.foldl PlaceEvent.apply place := by
  cases event with
  | none => rfl
  | some => rfl

/-- After any calls, what is at a place is what the events there leave. -/
theorem view_run (calls : List StoreCall) (userId : Nat) (name : String)
    (after : Intact (run Db.perform db calls)) :
    view after userId name =
      (eventsAt userId name db calls).foldl PlaceEvent.apply (view intact userId name) := by
  induction calls generalizing db with
  | nil => rfl
  | cons call calls ih =>
    have middle := intact_perform intact call
    rw [eventsAt, List.foldl_append, ← happen_eq_foldl, ← view_perform intact call _ _ middle]
    exact ih middle after

/-- A store started from nothing is mailboxes of their own: what is at a place depends on the events
there only. -/
theorem store_is_mailboxes (calls : List StoreCall) (userId : Nat) (name : String) :
    view (intact_run intact_empty calls) userId name =
      (eventsAt userId name .empty calls).foldl PlaceEvent.apply none := by
  rw [view_run intact_empty calls userId name]
  rfl

/-! ## UIDs -/

/-- A mailbox has gone on: its UIDs are valid still, and name the messages they named. -/
structure GoesOn (before after : Mailbox) : Prop where
  /-- The validity stays. -/
  uidvalidity : after.uidvalidity = before.uidvalidity
  /-- UIDs are given once, each to one message. -/
  follows : Journal.Follows Entry.SameMessage before.journal after.journal

/-- Mailboxes go on one after the other. -/
theorem GoesOn.trans {before middle after : Mailbox} (first : GoesOn before middle)
    (second : GoesOn middle after) : GoesOn before after :=
  ⟨second.uidvalidity.trans first.uidvalidity,
    first.follows.trans (fun _ _ _ left right => left.trans right) second.follows⟩

/-- A message for bob. -/
def letter (messageId : String) : NewMessage := ⟨messageId, "", [], .default, "alice@a.io", ""⟩

/-- A join pairs every left row with its statuses. -/
theorem leftJoin_eq (rows : List MessageRow) (ledger : List Transaction) :
    leftJoin Db.linked rows ledger =
      rows.flatMap fun row => (Mailbox.statuses ledger row.id).map fun tx => (row, tx) := by
  rw [leftJoin]
  refine List.flatMap_congr fun row _ => ?_
  have same : ledger.filter (Db.linked row) =
      ledger.filter fun tx => tx.messageRowId == some row.id := rfl
  rw [Mailbox.statuses, same]
  cases ledger.filter fun tx => tx.messageRowId == some row.id with
  | nil => rfl
  | cons tx more =>
    dsimp only
    rw [List.map_map]
    rfl

/-- A row is listed as its entry is. -/
theorem info_entryOf {box : MailboxRow} (member : box ∈ db.mailboxes) {row : MessageRow}
    (stored : row ∈ db.messages) (tx : Option Transaction) :
    Db.rowToMeta box.uidvalidity (row, tx) = (mailboxOf intact member).info (entryOf row) tx := by
  rw [Db.rowToMeta, Mailbox.info, intact.sizes row stored]
  rfl

/-- A listing of a place is its mailbox's. -/
theorem listMessagesIn_eq {box : MailboxRow} (member : box ∈ db.mailboxes) :
    db.listMessagesIn box.userId box.name =
      .ok ((mailboxOf intact member).listing db.transactions) := by
  have sorted : (leftJoin Db.linked (db.rowsIn box.id) db.transactions).insertionSort Db.newer =
      (db.rowsIn box.id).reverse.flatMap fun row =>
        (Mailbox.statuses db.transactions row.id).map fun tx => (row, tx) := by
    rw [leftJoin_eq]
    refine insertionSort_groups (fun row _ left leftMember right rightMember => ?_) ?_
    · obtain ⟨_, -, rfl⟩ := List.mem_map.mp leftMember
      obtain ⟨_, -, rfl⟩ := List.mem_map.mp rightMember
      exact Nat.le_refl row.uid
    · refine (intact.ascending.filter _).imp_of_mem
        fun {older newer} olderMember newerMember order left leftMember right rightMember => ?_
      obtain ⟨_, -, rfl⟩ := List.mem_map.mp leftMember
      obtain ⟨_, -, rfl⟩ := List.mem_map.mp rightMember
      have olderHome := of_decide_eq_true (List.mem_filter.mp olderMember).2
      have newerHome := of_decide_eq_true (List.mem_filter.mp newerMember).2
      exact Nat.not_le.mpr (order (olderHome.trans newerHome.symm))
  rw [Db.listMessagesIn, mailboxNamed_of_mem intact.keyed member]
  dsimp only
  rw [sorted, List.map_flatMap, Mailbox.listing]
  refine congrArg Except.ok ?_
  have entries : (mailboxOf intact member).journal.entries = (db.rowsIn box.id).map entryOf := rfl
  rw [entries, ← List.map_reverse, List.flatMap_map]
  refine List.flatMap_congr fun row inside => ?_
  rw [List.map_map, Mailbox.listed]
  refine List.map_congr_left fun tx _ => ?_
  exact info_entryOf intact member (List.mem_of_mem_filter (List.mem_reverse.mp inside)) tx

/-- A fetched message is the mailbox's. -/
theorem fetchMessageIn_eq {box : MailboxRow} (member : box ∈ db.mailboxes) (rowId : Nat) :
    db.fetchMessageIn box.userId box.name rowId =
      (mailboxOf intact member).fetched db.transactions rowId := by
  rw [Db.fetchMessageIn, mailboxNamed_of_mem intact.keyed member, Mailbox.fetched]
  dsimp only
  have entries : (mailboxOf intact member).journal.entries = (db.rowsIn box.id).map entryOf := rfl
  rw [entries, List.find?_map, leftJoin_eq]
  have first : (db.rowsIn box.id).find? ((fun entry : Nat × Entry => decide (entry.2.rowId = rowId))
      ∘ entryOf) = ((db.rowsIn box.id).filter fun row => decide (row.id = rowId)).head? :=
    List.head?_filter.symm
  rw [first]
  cases found : (db.rowsIn box.id).filter fun row => decide (row.id = rowId) with
  | nil => rfl
  | cons row rest =>
    have inside : row ∈ (db.rowsIn box.id).filter fun row => decide (row.id = rowId) := by
      rw [found]
      exact List.mem_cons_self
    obtain ⟨stored, id⟩ := List.mem_filter.mp inside
    obtain rfl : row.id = rowId := of_decide_eq_true id
    have info := info_entryOf intact member (List.mem_of_mem_filter stored)
    rw [List.flatMap_cons]
    cases shown : Mailbox.statuses db.transactions row.id with
    | nil =>
      unfold Mailbox.statuses at shown
      split at shown
      · cases shown
      · rename_i some
        exact absurd (List.map_eq_nil_iff.mp shown) some
    | cons tx more => exact congrArg (fun shown => Except.ok (Message.mk shown row.body)) (info tx)

/-- An append answers as the mailbox does. -/
theorem appendMessageTo_eq {box : MailboxRow} (member : box ∈ db.mailboxes) (msg : NewMessage)
    (now : Int64) :
    (db.appendMessageTo box.userId box.name msg now).1 =
      (mailboxOf intact member).appendAnswer (nextId MessageRow.id db.messages) msg now := by
  rw [Mailbox.appendAnswer, holds_mailboxOf intact member]
  have named := mailboxNamed_of_mem intact.keyed member
  rcases appendMessageTo_cases db box.userId box.name msg now with
    ⟨gone, -⟩ | ⟨handle, same, ⟨held, refused⟩ | ⟨fresh, stored⟩⟩
  · rw [named] at gone
    cases gone
  · obtain rfl := Except.ok.inj (named.symm.trans same)
    rw [refused, if_pos held]
  · obtain rfl := Except.ok.inj (named.symm.trans same)
    rw [stored, if_neg (by rw [fresh]; exact Bool.false_ne_true)]
    rfl

/-- An expunge answers as the mailbox does. -/
theorem expungeIn_eq {box : MailboxRow} (member : box ∈ db.mailboxes) :
    (db.expungeIn box.userId box.name).1 = .ok (mailboxOf intact member).expungeAnswer := by
  have rows : db.messages.filter (Db.expunges box.id) =
      (db.rowsIn box.id).filter fun row => row.flags.contains MessageFlags.deleted := by
    rw [Db.rowsIn, List.filter_filter]
    refine List.filter_congr fun row _ => ?_
    rw [Db.expunges, Bool.and_comm]
  have order : (((db.rowsIn box.id).filter fun row =>
      row.flags.contains MessageFlags.deleted).map MessageRow.uid).Pairwise (· ≤ ·) := by
    have journal : ((db.rowsIn box.id).map entryOf).Pairwise fun older newer => older.1 < newer.1 :=
      (mailboxOf intact member).journal.ascending
    exact List.pairwise_map.mpr (((List.pairwise_map.mp journal).filter _).imp Nat.le_of_lt)
  rw [Db.expungeIn, mailboxNamed_of_mem intact.keyed member]
  dsimp only
  rw [rows, order.insertionSort_eq, List.map_map, Mailbox.expungeAnswer]
  have entries : (mailboxOf intact member).journal.entries = (db.rowsIn box.id).map entryOf := rfl
  rw [entries, List.filter_map, List.map_map]
  rfl

/-- The functions of the store answer for a place as the mailbox there does. -/
structure Answers (db : Db) (userId : Nat) (name : String) (place : Option Mailbox) : Prop where
  /-- `list_messages_in`. -/
  list : db.listMessagesIn userId name =
    place.elim (.error .mailboxNotFound) fun box => .ok (box.listing db.transactions)
  /-- `fetch_message_in`. -/
  fetch : ∀ rowId, db.fetchMessageIn userId name rowId =
    place.elim (.error .mailboxNotFound) fun box => box.fetched db.transactions rowId
  /-- `uidnext_in`. -/
  uidnext : db.uidnextIn userId name =
    place.elim (.error .mailboxNotFound) fun box => .ok box.uidnextAnswer
  /-- `append_message_to`. -/
  append : ∀ msg now, (db.appendMessageTo userId name msg now).1 =
    place.elim (.error .mailboxNotFound) fun box =>
      box.appendAnswer (nextId MessageRow.id db.messages) msg now
  /-- `expunge_in`. -/
  expunge : (db.expungeIn userId name).1 =
    place.elim (.error .mailboxNotFound) fun box => .ok box.expungeAnswer

/-- Where the tables are in order, the store answers for every place as the mailbox there does. -/
theorem answers_of_intact (userId : Nat) (name : String) :
    Answers db userId name (view intact userId name) := by
  rcases mailboxNamed_cases db userId name with ⟨box, member, rfl, rfl, named⟩ | ⟨missing, named⟩
  · rw [view_of_mem intact member]
    refine ⟨listMessagesIn_eq intact member, fetchMessageIn_eq intact member, ?_,
      appendMessageTo_eq intact member, expungeIn_eq intact member⟩
    rw [Db.uidnextIn, named]
    rfl
  · rw [view_of_not_mem intact missing]
    refine ⟨?_, fun rowId => ?_, ?_, fun msg now => ?_, ?_⟩
    · rw [Db.listMessagesIn, named]
      rfl
    · rw [Db.fetchMessageIn, named]
      rfl
    · rw [Db.uidnextIn, named]
      rfl
    · rw [Db.appendMessageTo, named]
      rfl
    · rw [Db.expungeIn, named]
      rfl

/-- After any calls, the store answers for every place as the mailbox there does. -/
theorem answers_of_mailboxes (calls : List StoreCall) (userId : Nat) (name : String) :
    Answers (run Db.perform .empty calls) userId name
      (view (intact_run intact_empty calls) userId name) :=
  answers_of_intact (intact_run intact_empty calls) userId name

end Talk.Verif.Mailboxes
