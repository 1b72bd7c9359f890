import Talk.Verif.Inbox
import Talk.Verif.Isolation

/-!
# What the server reports as UIDVALIDITY

A mailbox is created with the validity of its UIDs, and no operation changes it. SELECT, EXAMINE and
STATUS report the validity of the first message they list, so what they report is the stored value
as long as the mailbox has a message, and 1 while it has none.
-/

namespace Talk.Verif.UidValidity

open Imap ImapSteps Isolation Mailstore StoreSteps Table Transition

/-! ## Reports -/

/-- A line of a response reports a validity of UIDs, for a SELECT or in the list of a STATUS. -/
def Announces (reply : Reply) (value : UInt32) : Prop :=
  reply = .untagged ("OK [UIDVALIDITY " ++ toString value ++ "]") ∨
    ∃ mailbox items, reply = .untagged ("STATUS \"" ++ mailbox ++ "\" (" ++ items ++
      " UIDVALIDITY " ++ toString value ++ ")")

/-- The values a response reports. -/
def Reported (replies : List Reply) (value : UInt32) : Prop :=
  ∃ reply ∈ replies, Announces reply value

/-- A completion reports nothing. -/
theorem not_announces_tagged (tag : String) (status : Status) (text : String) (value : UInt32) :
    ¬Announces (.tagged tag status text) value := by
  rintro (same | ⟨_, _, same⟩) <;> cases same

/-- A completion alone reports nothing. -/
theorem not_reported_tagged (tag : String) (status : Status) (text : String) (value : UInt32) :
    ¬Reported [.tagged tag status text] value := by
  rintro ⟨reply, member, announces⟩
  rw [List.mem_singleton.mp member] at announces
  exact not_announces_tagged tag status text value announces

/-- A line that ends with another character than the brackets reports nothing. -/
theorem not_announces_of_getLast {text : String} {last : Char}
    (ends : text.toList.getLast? = some last) (bracket : last ≠ ']') (parenthesis : last ≠ ')')
    (value : UInt32) : ¬Announces (.untagged text) value := by
  rintro (same | ⟨_, _, same⟩)
  · rw [Reply.untagged.inj same, String.toList_append, show "]".toList = [']'] from rfl,
      List.getLast?_concat] at ends
    exact bracket (Option.some.inj ends).symm
  · rw [Reply.untagged.inj same, String.toList_append, show ")".toList = [')'] from rfl,
      List.getLast?_concat] at ends
    exact parenthesis (Option.some.inj ends).symm

/-- Validities with the same digits are the same. -/
theorem value_of_digits {left right : UInt32} (same : toString left = toString right) :
    left = right := by
  have digits : toString left.toNat = toString right.toNat := same
  exact UInt32.toNat_inj.mp (Text.toString_injective digits)

/-- The response to a SELECT reports the validity it is built with. -/
theorem reported_select (count unseen uidvalidity uidnext : UInt32) (tag : String)
    (status : Status) (text : String) (value : UInt32) :
    Reported (selectResponses count unseen uidvalidity uidnext ++ [.tagged tag status text]) value ↔
      value = uidvalidity := by
  constructor
  · rintro ⟨reply, member, announces⟩
    simp only [selectResponses, List.cons_append, List.nil_append, List.mem_cons,
      List.not_mem_nil, or_false] at member
    rcases member with rfl | rfl | rfl | rfl | rfl | rfl | rfl
    · refine absurd announces (@not_announces_of_getLast _ 'S' ?_ (by decide) (by decide) _)
      rw [String.toList_append, List.getLast?_append]
      rfl
    · exact absurd announces (not_announces_of_getLast rfl (by decide) (by decide) _)
    · rcases announces with same | ⟨_, _, same⟩
      · simpa [String.ext_iff] using Reply.untagged.inj same
      · simpa [String.ext_iff] using Reply.untagged.inj same
    · rcases announces with same | ⟨_, _, same⟩
      · simpa [String.ext_iff] using Reply.untagged.inj same
      · simpa [String.ext_iff] using Reply.untagged.inj same
    · rcases announces with same | ⟨_, _, same⟩
      · have digits : toString uidvalidity = toString value := by
          simpa [String.ext_iff] using Reply.untagged.inj same
        exact (value_of_digits digits).symm
      · simpa [String.ext_iff] using Reply.untagged.inj same
    · rcases announces with same | ⟨_, _, same⟩
      · simpa [String.ext_iff] using Reply.untagged.inj same
      · simpa [String.ext_iff] using Reply.untagged.inj same
    · exact absurd announces (not_announces_tagged tag status text value)
  · rintro rfl
    exact ⟨_, by simp [selectResponses], .inl rfl⟩

/-- The number at the end of a STATUS line. -/
theorem toList_status (start : String) (value : UInt32) :
    (start ++ " UIDVALIDITY " ++ toString value ++ ")").toList =
      start.toList ++ " UIDVALIDITY".toList ++ ' ' :: ((toString value.toNat).toList ++ [')']) := by
  have digits : toString value = toString value.toNat := rfl
  simp [digits]

/-- The response to a STATUS reports the validity it is built with. -/
theorem reported_status (mailbox : String) (count unseen : Nat) (uidnext uidvalidity : UInt32)
    (tag : String) (status : Status) (text : String) (value : UInt32) :
    Reported [.untagged ("STATUS \"" ++ mailbox ++ "\" (MESSAGES " ++ toString count ++
        " RECENT 0 UNSEEN " ++ toString unseen ++ " UIDNEXT " ++ toString uidnext ++
        " UIDVALIDITY " ++ toString uidvalidity ++ ")"), .tagged tag status text] value ↔
      value = uidvalidity := by
  constructor
  · rintro ⟨reply, member, announces⟩
    rw [List.mem_pair] at member
    rcases member with rfl | rfl
    · rcases announces with same | ⟨_, _, same⟩
      · simpa [String.ext_iff] using Reply.untagged.inj same
      · have texts := congrArg String.toList (Reply.untagged.inj same)
        rw [toList_status, toList_status] at texts
        exact (UInt32.toNat_inj.mp (Text.number_at_end (by decide) texts)).symm
    · exact absurd announces (not_announces_tagged tag status text value)
  · rintro rfl
    refine ⟨_, List.mem_cons_self, .inr ⟨mailbox, "MESSAGES " ++ toString count ++
      " RECENT 0 UNSEEN " ++ toString unseen ++ " UIDNEXT " ++ toString uidnext, ?_⟩⟩
    simp [String.ext_iff]

/-! ## What a mailbox is reported with -/

/-- The command asks for the state of a mailbox. -/
structure Asks (cmd : ParsedCommand) (mailbox : String) : Prop where
  /-- It is SELECT, EXAMINE or STATUS. -/
  command : cmd.name = "SELECT" ∨ cmd.name = "EXAMINE" ∨ cmd.name = "STATUS"
  /-- It names the mailbox. -/
  named : cmd.args.head?.bind canonicalMailbox = some mailbox

/-- What the server reports for a mailbox: the stored validity, or 1 where no message is. -/
def shownValidity (db : Db) (box : MailboxRow) : UInt32 :=
  if db.rowsIn box.id = [] then 1 else box.uidvalidity

/-- The list of a mailbox shows that validity. -/
theorem listMessagesIn_validity {db : Db} (keyed : Keyed db) {box : MailboxRow}
    (member : box ∈ db.mailboxes) :
    ∃ messages, db.listMessagesIn box.userId box.name = .ok messages ∧
      uidvalidityOf messages = shownValidity db box := by
  rw [Db.listMessagesIn, mailboxNamed_of_mem keyed member]
  refine ⟨_, rfl, ?_⟩
  dsimp only
  have rows : leftJoin Db.linked (db.rowsIn box.id) db.transactions = [] ↔
      db.rowsIn box.id = [] := by
    have long := length_le_leftJoin Db.linked (db.rowsIn box.id) db.transactions
    constructor
    · intro empty
      rw [empty] at long
      exact List.length_eq_zero_iff.mp (Nat.le_zero.mp long)
    · intro empty
      rw [empty]
      rfl
  unfold uidvalidityOf shownValidity
  by_cases empty : db.rowsIn box.id = []
  · rw [if_pos empty, rows.mpr empty]
    rfl
  · rw [if_neg empty]
    cases sorted : (leftJoin Db.linked (db.rowsIn box.id) db.transactions).insertionSort
      Db.newer with
    | nil =>
      have length := List.length_insertionSort Db.newer
        (leftJoin Db.linked (db.rowsIn box.id) db.transactions)
      rw [sorted] at length
      exact absurd (rows.mp (List.length_eq_zero_iff.mp length.symm)) empty
    | cons => rfl

/-- A command that asks for a mailbox reports that validity once its session has a user, and nothing
before. -/
theorem reported_iff (env : Environment) {session : Session} {db : Db} (keyed : Keyed db)
    {box : MailboxRow} (member : box ∈ db.mailboxes) (owner : session.userId = box.userId)
    {cmd : ParsedCommand} (asks : Asks cmd box.name) (value : UInt32) :
    Reported (handle env session db cmd).1 value ↔
      session.state ≠ .notAuthenticated ∧ value = shownValidity db box := by
  obtain ⟨messages, list, shown⟩ := listMessagesIn_validity keyed member
  have select : Reported (cmdSelect env session db cmd).1 value ↔
      session.state ≠ .notAuthenticated ∧ value = shownValidity db box := by
    unfold cmdSelect
    split
    · rename_i unknown
      exact iff_of_false (not_reported_tagged _ _ _ value) fun known => known.1 unknown
    · rename_i known
      rw [asks.named, owner]
      dsimp only
      rw [list, ← shown]
      exact (reported_select ..).trans (and_iff_right known).symm
  have status : Reported (cmdStatus env session db cmd) value ↔
      session.state ≠ .notAuthenticated ∧ value = shownValidity db box := by
    unfold cmdStatus
    split
    · rename_i unknown
      exact iff_of_false (not_reported_tagged _ _ _ value) fun known => known.1 unknown
    · rename_i known
      rw [asks.named, owner]
      dsimp only
      rw [list, ← shown]
      exact (reported_status ..).trans (and_iff_right known).symm
  rcases asks.command with named | named | named
  · simpa only [handle, named] using select
  · simpa only [handle, named] using select
  · simpa only [handle, named] using status

/-! ## Over the life of a mailbox -/

/-- What happens to a server. -/
inductive Event where
  /-- One of its sessions handles a command. -/
  | command (session : Session) (cmd : ParsedCommand)
  /-- Another part of the daemon changes the store. -/
  | elsewhere (operation : Operation)

/-- The store after an event. -/
def serve (env : Environment) (template : Daemon.Template) (domain : String) (db : Db) : Event → Db
  | .command session cmd => (handle env session db cmd).2.2
  | .elsewhere operation => apply template domain db operation

/-- Whatever the event reports for a mailbox is the validity that is stored. -/
def ReportsStored (env : Environment) (box : MailboxRow) (db : Db) (event : Event) : Prop :=
  ∀ session cmd, event = .command session cmd → session.userId = box.userId → Asks cmd box.name →
    ∀ value, Reported (handle env session db cmd).1 value → value = box.uidvalidity

/-- A session with a user asks for the mailbox while it has a message only, unless the stored
validity is 1. -/
def FindsMessage (box : MailboxRow) (db : Db) (event : Event) : Prop :=
  ∀ session cmd, event = .command session cmd → session.userId = box.userId → Asks cmd box.name →
    session.state ≠ .notAuthenticated → db.rowsIn box.id ≠ [] ∨ box.uidvalidity = 1

/-- The mailbox is there, with the validity it was created with. -/
structure Stays (box : MailboxRow) (db : Db) : Prop where
  /-- The keys are unique. -/
  keyed : Keyed db
  /-- The mailbox. -/
  stored : ∃ now ∈ db.mailboxes, now.id = box.id ∧ now.userId = box.userId ∧
    now.name = box.name ∧ now.uidvalidity = box.uidvalidity

/-- The mailbox stays along changes of the store. -/
theorem stays_changes {box : MailboxRow} {db after : Db} (stays : Stays box db)
    (changes : Changes db after) : Stays box after := by
  refine ⟨keyed_changes stays.keyed changes, ?_⟩
  have stored := stays.stored
  clear stays
  induction changes with
  | refl => exact stored
  | tail _ change ih =>
    obtain ⟨now, member, id, owner, name, validity⟩ := ih
    obtain ⟨new, inside, newId, newOwner, newName, newValidity⟩ :=
      (Inbox.kept_change change).2 now member
    exact ⟨new, inside, newId.trans id, newOwner.trans owner, newName.trans name,
      newValidity.trans validity⟩

/-- The mailbox stays after every event. -/
theorem stays_serve (env : Environment) (template : Daemon.Template) (domain : String)
    {box : MailboxRow} {db : Db} (stays : Stays box db) (event : Event) :
    Stays box (serve env template domain db event) := by
  cases event with
  | elsewhere operation =>
    exact stays_changes stays (apply_changes template domain stays.keyed operation)
  | command session cmd =>
    have changes := handle_ownChanges env session db cmd
    refine ⟨keyed_ownChanges stays.keyed changes, ?_⟩
    rw [serve, (ownChanges_foreignKept changes).mailboxes]
    exact stays.stored

/-- An event reports the stored validity just when it does not find the mailbox empty. -/
theorem reportsStored_iff (env : Environment) {box : MailboxRow} {db : Db} (stays : Stays box db)
    (event : Event) : ReportsStored env box db event ↔ FindsMessage box db event := by
  obtain ⟨now, member, id, owner, name, validity⟩ := stays.stored
  refine forall₄_congr fun session cmd _ own => forall_congr' fun asks => ?_
  rw [← name] at asks
  have reported := reported_iff env stays.keyed member (own.trans owner.symm) asks
  simp only [reported, shownValidity, id, validity]
  constructor
  · intro stored known
    by_cases empty : db.rowsIn box.id = []
    · exact .inr (stored _ ⟨known, rfl⟩ ▸ if_pos empty)
    · exact .inl empty
  · rintro found value ⟨known, rfl⟩
    rcases found known with occupied | one
    · exact if_neg occupied
    · rw [one, ite_self]

/-- From every store with a mailbox, over every run of commands of any sessions and of changes of
the store: the mailbox keeps its validity, and every SELECT, EXAMINE and STATUS of it reports this
value just when none finds it empty, unless the value is 1. -/
theorem uidvalidity_constant_iff (env : Environment) (template : Daemon.Template) (domain : String)
    {db : Db} (keyed : Keyed db) {box : MailboxRow} (member : box ∈ db.mailboxes)
    (events : List Event) :
    (∃ now ∈ (run (serve env template domain) db events).mailboxes, now.id = box.id ∧
      now.userId = box.userId ∧ now.name = box.name ∧ now.uidvalidity = box.uidvalidity) ∧
    (Guarded (serve env template domain) (ReportsStored env box) db events ↔
      Guarded (serve env template domain) (FindsMessage box) db events) := by
  have start : Stays box db := ⟨keyed, box, member, rfl, rfl, rfl, rfl⟩
  have kept : ∀ db event, Stays box db → Stays box (serve env template domain db event) :=
    fun _ event stays => stays_serve env template domain stays event
  refine ⟨(run_invariant kept start events).stored, ?_⟩
  exact guarded_iff (fun db event stays _ => kept db event stays)
    (fun _ event stays => reportsStored_iff env stays event) start events

/-- Bob is created, and the validity of his mailboxes is 7. -/
def furnished : Db := (Db.empty.createUserFull "bob" "" [] none none 7).2

/-- The keys of that store are unique. -/
theorem keyed_furnished : Keyed furnished :=
  keyed_changes keyed_empty (createUserFull_changes keyed_empty ..)

/-- Bob's INBOX. -/
def bobInbox : MailboxRow := ⟨1, 1, inbox, 7, 1⟩

/-- Bob, logged in. -/
def bobSession : Session := ⟨.authenticated, "bob", 1, .localAuth, "b.io", inbox⟩

/-- Bob asks for the state of his INBOX. -/
def bobAsks : Event := .command bobSession ⟨"A1", "STATUS", ["INBOX"]⟩

/-- A message arrives and bob asks for his INBOX: its validity is reported. -/
theorem bob_asks_after_delivery :
    Guarded (serve groupEnvironment noTemplate "b.io") (ReportsStored groupEnvironment bobInbox)
      furnished [.elsewhere (.deliver (invoice "m1") 0), bobAsks] := by
  refine (uidvalidity_constant_iff groupEnvironment noTemplate "b.io" keyed_furnished
    (by decide +kernel) _).2.mpr ⟨nofun, fun _ _ _ _ _ _ => .inl ?_, trivial⟩
  decide +kernel

/-- Bob asks for his INBOX while it is empty: 1 is reported. -/
theorem empty_inbox_reported_one :
    bobInbox ∈ furnished.mailboxes ∧
      ¬ReportsStored groupEnvironment bobInbox furnished bobAsks := by
  refine ⟨by decide +kernel, fun stored => ?_⟩
  have line : Reported
      (handle groupEnvironment bobSession furnished ⟨"A1", "STATUS", ["INBOX"]⟩).1 1 :=
    ⟨.untagged "STATUS \"INBOX\" (MESSAGES 0 RECENT 0 UNSEEN 0 UIDNEXT 1 UIDVALIDITY 1)",
      by decide +kernel,
      .inr ⟨"INBOX", "MESSAGES 0 RECENT 0 UNSEEN 0 UIDNEXT 1", by decide +kernel⟩⟩
  have asks : Asks ⟨"A1", "STATUS", ["INBOX"]⟩ bobInbox.name :=
    ⟨.inr (.inr rfl), by decide +kernel⟩
  exact absurd (stored _ _ rfl rfl asks 1 line) (by decide)

end Talk.Verif.UidValidity
