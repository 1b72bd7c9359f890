import Talk.Lib.Removal
import Talk.Verif.SequenceNumbers

/-!
# Replaying an EXPUNGE

A client that removes a message from its list for each `EXPUNGE` response, at the place that the
response names. The server names the UIDs of the deleted messages, as they were before the first of
them was removed, so the client ends with what is left in the store only where at most one message
is deleted and no UID is missing before it.
-/

namespace Talk.Verif.ExpungeReplay

open Imap ImapSteps Mailstore Removal SelectedMailbox SequenceNumbers SequenceSets StoreSteps Text

/-! ## The client -/

/-- The messages of the selected mailbox in the order of their UIDs. -/
def mailboxRows (session : Session) (db : Db) : List MessageRow :=
  (db.messages.filter (inMailbox db session.userId session.selectedMailbox)).insertionSort
    fun left right => left.uid ≤ right.uid

/-- The number of an `EXPUNGE` response. -/
def expungeNumber : Reply → Option Nat
  | .untagged body =>
    match splitOnce ' ' body with
    | some (number, "EXPUNGE") => parseUnsigned (2 ^ 32) number
    | _ => none
  | _ => none

/-- The numbers of the `EXPUNGE` responses, in the order sent. -/
def announced (replies : List Reply) : List Nat := replies.filterMap expungeNumber

/-- The client's list ends as the messages that remain. -/
def Replays (env : Environment) (session : Session) (db : Db) (tag : String)
    (args : List String) : Prop :=
  replay (announced (handle env session db ⟨tag, "EXPUNGE", args⟩).1) (mailboxRows session db) =
    mailboxRows session (handle env session db ⟨tag, "EXPUNGE", args⟩).2.2

instance (env : Environment) (session : Session) (db : Db) (tag : String) (args : List String) :
    Decidable (Replays env session db tag args) := inferInstanceAs (Decidable (_ = _))

/-- The messages that an EXPUNGE deletes, in the order of their UIDs. -/
def deletedRows (session : Session) (db : Db) : List MessageRow :=
  (mailboxRows session db).filter isDeleted

/-- The UIDs are what the protocol wants of them: non-zero numbers of 32 bits, and no two the
same. -/
structure ProperUids (session : Session) (db : Db) : Prop where
  /-- No two messages share a UID. -/
  distinct : ((mailboxRows session db).map MessageRow.uid).Nodup
  /-- A UID is not zero. -/
  positive : ∀ row ∈ mailboxRows session db, 0 < row.uid
  /-- A UID has 32 bits. -/
  small : ∀ row ∈ mailboxRows session db, row.uid < 2 ^ 32

/-! ## Sorted rows -/

section Sorting

variable {α : Type} {key : α → Nat}

/-- What is kept of a list with a new item in its place. -/
theorem filter_orderedInsert (keeps : α → Bool) (item : α) {items : List α}
    (sorted : items.Pairwise fun left right => key left ≤ key right) :
    (items.orderedInsert (fun left right => key left ≤ key right) item).filter keeps =
      if keeps item then
        (items.filter keeps).orderedInsert (fun left right => key left ≤ key right) item
      else items.filter keeps := by
  induction items with
  | nil => cases kept : keeps item <;> simp [kept]
  | cons first rest ih =>
    have below := (List.pairwise_cons.mp sorted).1
    by_cases before : key item ≤ key first
    · have front := @List.orderedInsert_cons_of_le α (fun left right => key left ≤ key right) _
        item first rest before
      rw [front, List.filter_cons]
      congr 1
      cases kept : (first :: rest).filter keeps with
      | nil => rfl
      | cons head tail =>
        have member : head ∈ first :: rest := List.mem_of_mem_filter (kept ▸ List.mem_cons_self)
        have less : key item ≤ key head := by
          rcases List.mem_cons.mp member with rfl | inside
          · exact before
          · exact before.trans (below head inside)
        exact (@List.orderedInsert_cons_of_le α (fun left right => key left ≤ key right) _
          item head tail less).symm
    · have behind (others : List α) :=
        @List.orderedInsert_of_not_le α (fun left right => key left ≤ key right) _ item first
          others before
      rw [behind, List.filter_cons, ih (List.pairwise_cons.mp sorted).2, List.filter_cons]
      by_cases kept : keeps item = true
      · by_cases also : keeps first = true
        · simp only [kept, also, if_true]
          rw [behind]
        · simp only [kept, also, if_true, Bool.false_eq_true, if_false]
      · simp only [kept, Bool.false_eq_true, if_false]

/-- A list is sorted by its keys. -/
theorem pairwise_insertionSort_key (items : List α) :
    (items.insertionSort fun left right => key left ≤ key right).Pairwise
      fun left right => key left ≤ key right := by
  have total : Std.Total fun left right : α => key left ≤ key right :=
    ⟨fun left right => Nat.le_total (key left) (key right)⟩
  have trans : IsTrans α fun left right => key left ≤ key right :=
    ⟨fun _ _ _ first second => Nat.le_trans first second⟩
  exact List.pairwise_insertionSort _ items

/-- What is kept of a sorted list is what is kept, sorted. -/
theorem filter_insertionSort (keeps : α → Bool) (items : List α) :
    (items.insertionSort fun left right => key left ≤ key right).filter keeps =
      (items.filter keeps).insertionSort fun left right => key left ≤ key right := by
  induction items with
  | nil => rfl
  | cons item items ih =>
    rw [List.insertionSort_cons, filter_orderedInsert, ih, List.filter_cons]
    · by_cases kept : keeps item = true
      · rw [if_pos kept, if_pos kept, List.insertionSort_cons]
      · rw [if_neg kept, if_neg kept]
    · exact pairwise_insertionSort_key items

end Sorting

/-! ## What the server announces -/

/-- A response for a UID has this number. -/
theorem expungeNumber_uid (uid : UInt32) :
    expungeNumber (.untagged (toString uid ++ " EXPUNGE")) = some uid.toNat := by
  have free : ' ' ∉ (toString uid.toNat).toList := fun member =>
    absurd (isDigit_toString member) (by decide)
  have cut : splitOnce ' ' (toString uid ++ " EXPUNGE") = some (toString uid.toNat, "EXPUNGE") := by
    have joined := splitFirst_join free "EXPUNGE".toList
    have text : (toString uid ++ " EXPUNGE").toList =
        (toString uid.toNat).toList ++ ' ' :: "EXPUNGE".toList := by
      rw [String.toList_append]
      rfl
    rw [splitOnce, text, joined]
    exact congrArg (fun number => some (number, "EXPUNGE")) String.ofList_toList
  rw [expungeNumber, cut]
  exact parseUnsigned_toString uid.toNat_lt

/-- The UIDs are announced as they are. -/
theorem announced_uids (uids : List UInt32) (tag : String) (status : Status) (text : String) :
    announced (uids.map (fun uid => .untagged (toString uid ++ " EXPUNGE")) ++
      [.tagged tag status text]) = uids.map UInt32.toNat := by
  have numbers (uid : UInt32) := expungeNumber_uid uid
  rw [announced, List.filterMap_append, List.filterMap_map, ← List.filterMap_eq_map]
  simp only [Function.comp_def, numbers]
  exact List.append_nil _

section

variable (env : Environment) {session : Session} (selected : session.state = .selected) {db : Db}
  (keyed : Keyed db) (tag : String) (args : List String)
include selected keyed

/-- An EXPUNGE announces the UIDs of the deleted messages. -/
theorem announced_expunge : announced (handle env session db ⟨tag, "EXPUNGE", args⟩).1 =
    (deletedRows session db).map fun row => (UInt32.ofNat row.uid).toNat := by
  have answered : (handle env session db ⟨tag, "EXPUNGE", args⟩).1 =
      (cmdExpunge env session db tag).1 := rfl
  rw [answered, cmdExpunge, if_neg (not_not.mpr selected), Db.expungeIn, deletedRows, mailboxRows,
    filter_insertionSort]
  rcases mailboxNamed_cases keyed session.userId session.selectedMailbox with
    ⟨missing, empty⟩ | ⟨handle, named, inside⟩
  · have none : db.messages.filter (inMailbox db session.userId session.selectedMailbox) = [] :=
      List.filter_eq_nil_iff.mpr fun row _ => by rw [empty]; exact Bool.false_ne_true
    rw [missing, none]
    rfl
  · have rows : db.messages.filter (Db.expunges handle.id) =
        (db.messages.filter (inMailbox db session.userId session.selectedMailbox)).filter
          isDeleted := by
      rw [List.filter_filter]
      refine List.filter_congr fun row _ => ?_
      rw [inside, Bool.and_comm]
      rfl
    have uids := List.map_insertionSort (fun left right : MessageRow => left.uid ≤ right.uid)
      (· ≤ ·) MessageRow.uid (db.messages.filter (Db.expunges handle.id)) fun _ _ _ _ => Iff.rfl
    rw [named, ← rows]
    dsimp only
    rw [announced_uids, ← uids, List.map_map, List.map_map]
    rfl

/-- The messages that remain are those that are not deleted. -/
theorem mailboxRows_expunge :
    mailboxRows session (handle env session db ⟨tag, "EXPUNGE", args⟩).2.2 =
    (mailboxRows session db).filter fun row => !isDeleted row := by
  have answered : (handle env session db ⟨tag, "EXPUNGE", args⟩).2.2 =
      (db.expungeIn session.userId session.selectedMailbox).2 := by
    change (cmdExpunge env session db tag).2 = _
    rw [cmdExpunge, if_neg (not_not.mpr selected)]
    cases outcome : db.expungeIn session.userId session.selectedMailbox with
    | mk result after => cases result <;> rfl
  have messages := expungeIn_messages keyed session.userId session.selectedMailbox
  have boxes : (db.expungeIn session.userId session.selectedMailbox).2.mailboxes =
      db.mailboxes := by
    rw [Db.expungeIn]
    split <;> rfl
  have home : inMailbox (db.expungeIn session.userId session.selectedMailbox).2 session.userId
      session.selectedMailbox = inMailbox db session.userId session.selectedMailbox := by
    funext row
    rw [inMailbox, boxes, inMailbox]
  rw [answered, mailboxRows, messages, home, mailboxRows, filter_insertionSort, List.filter_filter,
    List.filter_filter]
  congr 1
  refine List.filter_congr fun row _ => ?_
  cases inMailbox db session.userId session.selectedMailbox row <;> cases isDeleted row <;> rfl

/-- The client ends with the messages that remain just when each number it is sent is the place of
a deleted message in the list it has by then. Where the UIDs are proper, that is so just when no
message is deleted, or one whose UID is its place. -/
theorem expunge_replays_iff :
    (Replays env session db tag args ↔
      Names isDeleted ((deletedRows session db).map fun row => (UInt32.ofNat row.uid).toNat)
        (mailboxRows session db)) ∧
    (ProperUids session db → (Replays env session db tag args ↔
      deletedRows session db = [] ∨
        ∃ row, deletedRows session db = [row] ∧
          (mailboxRows session db)[row.uid - 1]? = some row)) := by
  have replays : Replays env session db tag args ↔
      Names isDeleted ((deletedRows session db).map fun row => (UInt32.ofNat row.uid).toNat)
        (mailboxRows session db) := by
    rw [Replays, announced_expunge env selected keyed, mailboxRows_expunge env selected keyed]
    refine replay_eq_filter_iff ?_
    rw [List.length_map, deletedRows, List.countP_eq_length_filter]
  refine ⟨replays, fun proper => ?_⟩
  have same : (deletedRows session db).map (fun row => (UInt32.ofNat row.uid).toNat) =
      (deletedRows session db).map MessageRow.uid :=
    List.map_congr_left fun row member => UInt32.toNat_ofNat_of_lt'
      (proper.small row (List.mem_of_mem_filter member))
  have sorted : ((mailboxRows session db).map MessageRow.uid).Pairwise (· < ·) := by
    have rows : (mailboxRows session db).Pairwise fun left right => left.uid ≤ right.uid :=
      pairwise_insertionSort_key _
    refine (List.Pairwise.and (List.pairwise_map.mpr rows) proper.distinct).imp ?_
    exact fun both => Nat.lt_of_le_of_ne both.1 both.2
  rw [replays, same, deletedRows]
  exact names_keys_iff sorted proper.positive

end

/-! ## Two mailboxes -/

/-- A mailbox with three messages, of which the third is deleted, is replayed. -/
theorem third_message_replayed :
    Replays groupEnvironment (bobSelected inbox) threeMessages "A1" [] := by
  have placed : ∃ row ∈ mailboxRows (bobSelected inbox) threeMessages,
      deletedRows (bobSelected inbox) threeMessages = [row] ∧
        (mailboxRows (bobSelected inbox) threeMessages)[row.uid - 1]? = some row := by
    decide +kernel
  have replays :=
    @expunge_replays_iff groupEnvironment (bobSelected inbox) rfl _ keyed_threeMessages "A1" []
  exact (replays.2 ⟨by decide +kernel, by decide +kernel, by decide +kernel⟩).mpr
    (.inr (placed.imp fun _ found => found.2))

/-- Bob's store with two messages, which are both deleted. -/
def bothMarked : Db :=
  Transition.run (apply noTemplate "b.io") .empty
    [createBob, .deliver (invoice "m1") 0, .deliver (invoice "m2") 0,
      .setFlags 1 inbox 1 MessageFlags.deleted true, .setFlags 1 inbox 2 MessageFlags.deleted true]

/-- The client is told to remove the first message and then the second, and keeps the message with
UID 2, which is the first by then. -/
theorem second_expunge_misplaced :
    announced (handle groupEnvironment (bobSelected inbox) bothMarked ⟨"A1", "EXPUNGE", []⟩).1 =
        [1, 2] ∧
      (replay [1, 2] (mailboxRows (bobSelected inbox) bothMarked)).map MessageRow.uid = [2] ∧
      (handle groupEnvironment (bobSelected inbox) bothMarked ⟨"A1", "EXPUNGE", []⟩).2.2.messages =
        [] ∧
      ¬Replays groupEnvironment (bobSelected inbox) bothMarked "A1" [] := by
  decide +kernel

end Talk.Verif.ExpungeReplay
