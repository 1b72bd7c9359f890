import Talk.Verif.Isolation

/-!
# What a command does to each message

A command changes the flags of messages, deletes messages, or leaves the table. What becomes of each
row is a function of the session, the store and the command, and the table after every command is
the rows' fates in order. Two statements follow from it: what an EXAMINE announces holds just as
long as no command finds anything to change, and every command but one keeps to the mailbox the
session has selected.
-/

namespace Talk.Verif.SelectedMailbox

open Imap ImapSteps Isolation Mailstore StoreSteps Table Transition

/-! ## The messages of a mailbox -/

/-- A message is in the user's mailbox of this name. -/
def inMailbox (db : Db) (userId : Nat) (name : String) (row : MessageRow) : Bool :=
  db.mailboxes.any fun box =>
    decide ((box.userId, box.name) = (userId, name)) && decide (box.id = row.mailboxId)

/-- A message carries `\Deleted`. -/
def isDeleted (row : MessageRow) : Bool := row.flags.contains MessageFlags.deleted

/-- A mailbox is not found and holds nothing, or it is found and its rows are those under its
id. -/
theorem mailboxNamed_cases {db : Db} (keyed : Keyed db) (userId : Nat) (name : String) :
    (db.mailboxNamed userId name = .error .mailboxNotFound ∧
      ∀ row, inMailbox db userId name row = false) ∨
    ∃ handle, db.mailboxNamed userId name = .ok handle ∧
      ∀ row, inMailbox db userId name row = decide (row.mailboxId = handle.id) := by
  unfold Db.mailboxNamed
  cases found : db.mailboxes.find? fun box => decide ((box.userId, box.name) = (userId, name)) with
  | none =>
    refine .inl ⟨rfl, fun row => List.any_eq_false.mpr fun box member => ?_⟩
    have other := List.find?_eq_none.mp found box member
    simp only [Bool.and_eq_true, not_and]
    exact fun named => absurd named other
  | some box =>
    obtain ⟨member, named⟩ := (find_eq_some_iff keyed.mailboxNames).mp found
    refine .inr ⟨_, rfl, fun row => ?_⟩
    rw [Bool.eq_iff_iff, decide_eq_true_iff]
    constructor
    · intro inside
      obtain ⟨other, otherMember, same⟩ := List.any_eq_true.mp inside
      rw [Bool.and_eq_true, decide_eq_true_iff, decide_eq_true_iff] at same
      have one : other = box :=
        eq_of_unique keyed.mailboxNames otherMember member (same.1.trans named.symm)
      rw [← same.2, one]
    · intro home
      refine List.any_eq_true.mpr ⟨box, member, ?_⟩
      rw [Bool.and_eq_true, decide_eq_true_iff, decide_eq_true_iff]
      exact ⟨named, home.symm⟩

/-- A message is in one mailbox of a user only. -/
theorem inMailbox_unique {db : Db} (keyed : Keyed db) {userId : Nat} {first second : String}
    {row : MessageRow} (inFirst : inMailbox db userId first row = true)
    (inSecond : inMailbox db userId second row = true) : first = second := by
  obtain ⟨left, leftMember, leftNamed⟩ := List.any_eq_true.mp inFirst
  obtain ⟨right, rightMember, rightNamed⟩ := List.any_eq_true.mp inSecond
  simp only [Bool.and_eq_true, decide_eq_true_eq, Prod.mk.injEq] at leftNamed rightNamed
  have one : left = right := eq_of_unique keyed.mailboxIds leftMember rightMember
    (leftNamed.2.trans rightNamed.2.symm)
  rw [← leftNamed.1.2, ← rightNamed.1.2, one]

/-! ## Expunging -/

/-- An expunge deletes the messages of the mailbox that carry `\Deleted`. -/
theorem expungeIn_messages {db : Db} (keyed : Keyed db) (userId : Nat) (mailbox : String) :
    (db.expungeIn userId mailbox).2.messages =
      db.messages.filter fun row => !(inMailbox db userId mailbox row && isDeleted row) := by
  unfold Db.expungeIn
  rcases mailboxNamed_cases keyed userId mailbox with ⟨missing, empty⟩ | ⟨handle, named, inside⟩
  · rw [missing]
    refine (List.filter_eq_self.mpr fun row _ => ?_).symm
    rw [empty, Bool.false_and, Bool.not_false]
  · rw [named]
    refine List.filter_congr fun row _ => ?_
    rw [inside]
    rfl

/-! ## Changing flags -/

/-- Changing flags a second time changes nothing more. -/
theorem changeFlags_idempotent (mask : UInt32) (value : Bool) (row : MessageRow) :
    Db.changeFlags mask value (Db.changeFlags mask value row) = Db.changeFlags mask value row := by
  cases value with
  | false =>
    have bits : row.flags.bits &&& ~~~mask &&& ~~~mask = row.flags.bits &&& ~~~mask := by
      rw [UInt32.and_assoc, UInt32.and_self]
    simp only [Db.changeFlags, Bool.false_eq_true, if_false, bits]
  | true =>
    have bits : row.flags.bits ||| mask ||| mask = row.flags.bits ||| mask := by
      rw [UInt32.or_assoc, UInt32.or_self]
    simp only [Db.changeFlags, if_true, bits]

/-- The flags that a change leaves. -/
def changedFlags (mask : UInt32) (value : Bool) (flags : MessageFlags) : MessageFlags :=
  if value then flags.insert mask else flags.remove mask

/-- A change of flags leaves a row just when it leaves its flags. -/
theorem changeFlags_eq_self {mask : UInt32} {value : Bool} {row : MessageRow} :
    Db.changeFlags mask value row = row ↔ changedFlags mask value row.flags = row.flags := by
  have changed : (Db.changeFlags mask value row).flags = changedFlags mask value row.flags := by
    cases value <;> rfl
  constructor
  · intro same
    rw [← changed, same]
  · intro same
    rw [← changed] at same
    exact congrArg (fun flags => { row with flags := flags }) same

/-- A message of a list is one whose flags a STORE changes. -/
def listed (range : String) (count : UInt32) (messages : List MessageMeta) (row : MessageRow) :
    Bool :=
  messages.any fun info => inRange range info.uid count && decide (info.id = row.id)

/-- The messages in a sequence set change as one update of the table. -/
theorem storeMessages_messages {session : Session} {db : Db} {handle : Db.Handle}
    (named : db.mailboxNamed session.userId session.selectedMailbox = .ok handle) (range : String)
    (mask : UInt32) (value : Bool) (count : UInt32) (messages : List MessageMeta) :
    (storeMessages session range mask value count messages db).2.messages =
      update (fun row => decide (row.mailboxId = handle.id) && listed range count messages row)
        (Db.changeFlags mask value) db.messages := by
  induction messages generalizing db with
  | nil =>
    refine (update_eq_self (fun row _ => ?_) _).symm
    exact Bool.and_false _
  | cons info rest ih =>
    rw [storeMessages]
    cases covered : inRange range info.uid count with
    | false =>
      rw [if_neg Bool.false_ne_true, ih named]
      simp only [listed, List.any_cons, covered, Bool.false_and, Bool.false_or]
    | true =>
      rw [if_pos rfl, Db.setFlagsIn, named]
      dsimp only
      refine (ih ?_).trans ?_
      · exact named
      dsimp only
      rw [update_update (changeFlags_idempotent mask value) fun _ => rfl]
      congr 1
      funext row
      have split : decide ((row.mailboxId, row.id) = (handle.id, info.id)) =
          (decide (row.mailboxId = handle.id) && decide (info.id = row.id)) := by
        rw [Bool.eq_iff_iff, Bool.and_eq_true, decide_eq_true_iff, decide_eq_true_iff,
          decide_eq_true_iff, Prod.mk.injEq, @eq_comm _ info.id]
      rw [split, ← Bool.and_or_distrib_left, listed, listed, List.any_cons, covered, Bool.true_and]

/-- A listed message is the row it is listed for, and every row is listed. -/
theorem listed_iff {db : Db} (keyed : Keyed db) {userId : Nat} {mailbox : String}
    {handle : Db.Handle} (named : db.mailboxNamed userId mailbox = .ok handle)
    {messages : List MessageMeta} (list : db.listMessagesIn userId mailbox = .ok messages)
    (range : String) (count : UInt32) {row : MessageRow} (member : row ∈ db.messages)
    (home : row.mailboxId = handle.id) :
    listed range count messages row = inRange range (UInt32.ofNat row.uid) count := by
  unfold Db.listMessagesIn at list
  rw [named] at list
  have entries : ∀ info, info ∈ messages ↔ ∃ pair ∈ leftJoin Db.linked (db.rowsIn handle.id)
      db.transactions, Db.rowToMeta handle.uidvalidity pair = info := by
    intro info
    rw [← Except.ok.inj list, List.mem_map]
    simp only [List.mem_insertionSort]
  rw [Bool.eq_iff_iff, listed, List.any_eq_true]
  constructor
  · rintro ⟨info, inside, chosen⟩
    rw [Bool.and_eq_true, decide_eq_true_iff] at chosen
    obtain ⟨⟨source, linked⟩, joined, rfl⟩ := (entries info).mp inside
    have found := (List.mem_filter.mp (exists_mem_leftJoin.mp ⟨linked, joined⟩)).1
    have one : source = row := eq_of_unique keyed.rowIds found member chosen.2
    rw [← one]
    exact chosen.1
  · intro covered
    have inside : row ∈ db.rowsIn handle.id := List.mem_filter.mpr ⟨member, decide_eq_true home⟩
    obtain ⟨linked, joined⟩ := exists_mem_leftJoin.mpr inside
    refine ⟨_, (entries _).mpr ⟨_, joined, rfl⟩, ?_⟩
    rw [Bool.and_eq_true, decide_eq_true_iff]
    exact ⟨covered, rfl⟩

/-- The command is a STORE, or a UID STORE. -/
def isStore (cmd : ParsedCommand) : Bool :=
  cmd.name == "STORE" ||
    cmd.name == "UID" && cmd.args.head?.map Text.toAsciiUppercase == some "STORE"

/-- The number a sequence set's `*` stands for. -/
def messageCount (session : Session) (db : Db) : UInt32 :=
  match db.listMessagesIn session.userId session.selectedMailbox with
  | .ok messages => UInt32.ofNat messages.length
  | .error _ => 0

/-- A STORE that is understood covers a message: it is in the selected mailbox and the sequence set
has its number. -/
def covers (session : Session) (db : Db) (range : String) (row : MessageRow) : Bool :=
  inMailbox db session.userId session.selectedMailbox row &&
    inRange range (UInt32.ofNat row.uid) (messageCount session db)

/-- Whether the mode of a STORE adds the flags. -/
def adds (mode : String) : Bool := !Text.startsWith (Text.trimStart mode) "-"

/-- What a STORE leaves of a message. -/
def stored (session : Session) (db : Db) (cmd : ParsedCommand) (row : MessageRow) : MessageRow :=
  match storeArguments cmd with
  | .error _ => row
  | .ok (range, mode, flags) =>
    if covers session db range row then Db.changeFlags (parseFlags flags) (adds mode) row else row

/-- Setting or clearing no flag changes nothing. -/
theorem changeFlags_zero (value : Bool) (row : MessageRow) : Db.changeFlags 0 value row = row := by
  refine changeFlags_eq_self.mpr ?_
  cases value with
  | false => simp [changedFlags, MessageFlags.remove]
  | true => simp [changedFlags, MessageFlags.insert]

/-- A STORE in a selected mailbox changes the messages it covers. -/
theorem cmdStore_messages (env : Environment) {session : Session}
    (selected : session.state = .selected) {db : Db} (keyed : Keyed db) (cmd : ParsedCommand) :
    (cmdStore env session db cmd).2.messages = db.messages.map (stored session db cmd) := by
  have unchanged : ∀ {change : MessageRow → MessageRow}, (∀ row ∈ db.messages, change row = row) →
      db.messages = db.messages.map change := fun same =>
    ((List.map_congr_left same).trans (List.map_id _)).symm
  unfold cmdStore
  rw [if_neg (not_not.mpr selected)]
  cases arguments : storeArguments cmd with
  | error =>
    refine unchanged fun row _ => ?_
    rw [stored, arguments]
  | ok found =>
    obtain ⟨range, mode, flags⟩ := found
    have fate : ∀ row, stored session db cmd row =
        if covers session db range row then Db.changeFlags (parseFlags flags) (adds mode) row
        else row := by
      intro row
      rw [stored, arguments]
    rcases mailboxNamed_cases keyed session.userId session.selectedMailbox with
      ⟨missing, empty⟩ | ⟨handle, named, inside⟩
    · rw [Db.listMessagesIn, missing]
      refine unchanged fun row _ => ?_
      rw [fate, covers, empty, Bool.false_and, if_neg Bool.false_ne_true]
    · cases list : db.listMessagesIn session.userId session.selectedMailbox with
      | error =>
        rw [Db.listMessagesIn, named] at list
        cases list
      | ok messages =>
        dsimp only
        by_cases zero : parseFlags flags = 0
        · rw [if_pos zero]
          refine unchanged fun row _ => ?_
          rw [fate, zero, changeFlags_zero, ite_self]
        · rw [if_neg zero]
          have done := storeMessages_messages named range (parseFlags flags) (adds mode)
            (UInt32.ofNat messages.length) messages
          have rows : db.messages.map (stored session db cmd) =
              (storeMessages session range (parseFlags flags) (adds mode)
                (UInt32.ofNat messages.length) messages db).2.messages := by
            rw [done, update]
            refine List.map_congr_left fun row member => ?_
            rw [fate, covers, inside, messageCount, list]
            by_cases home : row.mailboxId = handle.id
            · rw [listed_iff keyed named list _ _ member home]
            · rw [decide_eq_false home, Bool.false_and, Bool.false_and]
          rw [rows]
          unfold adds
          split <;> rename_i outcome <;> rw [outcome]

/-! ## Every command -/

/-- What becomes of a message: it is changed, or it is deleted. -/
def fate (session : Session) (db : Db) (cmd : ParsedCommand) (row : MessageRow) :
    Option MessageRow :=
  if session.state ≠ .selected then some row
  else if isStore cmd then some (stored session db cmd row)
  else if cmd.name = "EXPUNGE" ∧ inMailbox db session.userId session.selectedMailbox row ∧
    isDeleted row then none
  else if cmd.name = "CLOSE" ∧ inMailbox db session.userId inbox row ∧ isDeleted row then none
  else some row

/-- A command that is none of the four leaves every message. -/
theorem fate_quiet {session : Session} (db : Db) {cmd : ParsedCommand}
    (quiet : isStore cmd = false ∧ cmd.name ≠ "EXPUNGE" ∧ cmd.name ≠ "CLOSE") :
    fate session db cmd = some := by
  funext row
  simp [fate, quiet]

/-- A STORE changes messages, where a mailbox is selected. -/
theorem fate_store {session : Session} (db : Db) {cmd : ParsedCommand}
    (selected : session.state = .selected) (store : isStore cmd = true) :
    fate session db cmd = fun row => some (stored session db cmd row) := by
  funext row
  simp [fate, selected, store]

/-- Without a selected mailbox every message is left. -/
theorem fate_unselected {session : Session} (db : Db) (cmd : ParsedCommand)
    (unselected : session.state ≠ .selected) : fate session db cmd = some := by
  funext row
  simp [fate, unselected]

/-- An EXPUNGE deletes from the selected mailbox, and a CLOSE from the INBOX. -/
theorem filterMap_fate_expunge {session : Session} (db : Db) {cmd : ParsedCommand}
    (selected : session.state = .selected) {mailbox : String}
    (expunges : cmd.name = "EXPUNGE" ∧ mailbox = session.selectedMailbox ∨
      cmd.name = "CLOSE" ∧ mailbox = inbox) :
    db.messages.filterMap (fate session db cmd) = db.messages.filter fun row =>
      !(inMailbox db session.userId mailbox row && isDeleted row) := by
  rw [← List.filterMap_eq_filter]
  refine List.filterMap_congr fun row _ => ?_
  have gone : fate session db cmd row =
      if inMailbox db session.userId mailbox row = true ∧ isDeleted row = true then none
      else some row := by
    rcases expunges with ⟨named, rfl⟩ | ⟨named, rfl⟩ <;> simp [fate, selected, isStore, named]
  rw [gone, Option.guard]
  cases inMailbox db session.userId mailbox row <;> cases isDeleted row <;> rfl

section

variable (env : Environment) (session : Session) {db : Db} (keyed : Keyed db) {cmd : ParsedCommand}
include keyed

/-- The messages after a STORE are what it makes of those before. -/
theorem cmdStore_fates (store : isStore cmd = true) :
    (cmdStore env session db cmd).2.messages = db.messages.filterMap (fate session db cmd) := by
  by_cases selected : session.state = .selected
  · rw [fate_store db selected store, cmdStore_messages env selected keyed, List.filterMap_eq_map']
  · rw [fate_unselected db cmd selected, List.filterMap_some, cmdStore, if_pos selected]

/-- The messages after a UID command. -/
theorem cmdUid_fates (named : cmd.name = "UID") :
    (cmdUid env session db cmd).2.messages = db.messages.filterMap (fate session db cmd) := by
  have quiet : isStore cmd = false →
      db.messages = db.messages.filterMap (fate session db cmd) := by
    intro quiet
    rw [fate_quiet db ⟨quiet, by simp [named], by simp [named]⟩, List.filterMap_some]
  unfold cmdUid
  split
  · rename_i unselected
    rw [fate_unselected db cmd unselected, List.filterMap_some]
  · split
    · rename_i none
      exact quiet (by simp [isStore, named, none])
    · rename_i sub first
      split
      · rename_i other
        exact quiet (by simp [isStore, named, first, other])
      · rename_i other
        exact cmdStore_fates env session keyed (by simp [isStore, named, first, other])
      · rename_i other
        exact quiet (by simp [isStore, named, first, other])
      · rename_i notStore _
        exact quiet (by simpa [isStore, named, first] using notStore)

/-- The messages after an EXPUNGE are what it makes of those before. -/
theorem cmdExpunge_fates (named : cmd.name = "EXPUNGE") :
    (cmdExpunge env session db cmd.tag).2.messages =
      db.messages.filterMap (fate session db cmd) := by
  by_cases selected : session.state = .selected
  · rw [filterMap_fate_expunge db selected (.inl ⟨named, rfl⟩), ← expungeIn_messages keyed,
      cmdExpunge, if_neg (not_not.mpr selected)]
    split <;> rename_i outcome <;> rw [outcome]
  · rw [fate_unselected db cmd selected, List.filterMap_some, cmdExpunge, if_pos selected]

/-- The messages after a CLOSE are what it makes of those before. -/
theorem cmdClose_fates (named : cmd.name = "CLOSE") :
    (cmdClose env session db cmd.tag).2.2.messages =
      db.messages.filterMap (fate session db cmd) := by
  by_cases selected : session.state = .selected
  · rw [filterMap_fate_expunge db selected (.inr ⟨named, rfl⟩), ← expungeIn_messages keyed,
      cmdClose, if_neg (not_not.mpr selected)]
    split <;> rename_i outcome <;> rw [outcome]
  · rw [fate_unselected db cmd selected, List.filterMap_some, cmdClose, if_pos selected]

end

/-- The messages after a command are the fates of the messages before it. -/
theorem handle_messages (env : Environment) (session : Session) {db : Db} (keyed : Keyed db)
    (cmd : ParsedCommand) :
    (handle env session db cmd).2.2.messages = db.messages.filterMap (fate session db cmd) := by
  have quiet : isStore cmd = false ∧ cmd.name ≠ "EXPUNGE" ∧ cmd.name ≠ "CLOSE" →
      db.messages = db.messages.filterMap (fate session db cmd) := by
    intro quiet
    rw [fate_quiet db quiet, List.filterMap_some]
  unfold handle
  split
  case h_12 named => exact cmdUid_fates env session keyed named
  case h_13 named => exact cmdStore_fates env session keyed (by simp [isStore, named])
  case h_15 named => exact cmdExpunge_fates env session keyed named
  case h_16 named => exact cmdClose_fates env session keyed named
  case h_18 =>
    have leaves := quiet (by simp_all [isStore])
    split <;> exact leaves
  all_goals
    rename_i named
    exact quiet (by simp [isStore, named])

/-! ## What EXAMINE announces -/

/-- A command leaves every message as it is. -/
def Preserves (env : Environment) (session : Session) (db : Db) (cmd : ParsedCommand) : Prop :=
  (handle env session db cmd).2.2.messages = db.messages

/-- A command that finds nothing to change. -/
structure Harmless (session : Session) (db : Db) (cmd : ParsedCommand) : Prop where
  /-- A STORE sets flags that every message it covers has, or clears flags that none has. -/
  store : isStore cmd = true → ∀ range mode flags, storeArguments cmd = .ok (range, mode, flags) →
    ∀ row ∈ db.messages, covers session db range row = true →
      changedFlags (parseFlags flags) (adds mode) row.flags = row.flags
  /-- An EXPUNGE finds the selected mailbox without a deleted message. -/
  expunge : cmd.name = "EXPUNGE" → ∀ row ∈ db.messages,
    inMailbox db session.userId session.selectedMailbox row = true → isDeleted row = false
  /-- A CLOSE finds the INBOX without a deleted message. -/
  close : cmd.name = "CLOSE" → ∀ row ∈ db.messages,
    inMailbox db session.userId inbox row = true → isDeleted row = false

/-- A STORE leaves a message just when it does not cover it or finds its flags as it wants them. -/
theorem stored_eq_self {session : Session} {db : Db} {cmd : ParsedCommand} {row : MessageRow} :
    stored session db cmd row = row ↔
      ∀ range mode flags, storeArguments cmd = .ok (range, mode, flags) →
        covers session db range row = true →
          changedFlags (parseFlags flags) (adds mode) row.flags = row.flags := by
  unfold stored
  cases arguments : storeArguments cmd with
  | error => simp
  | ok found =>
    obtain ⟨range, mode, flags⟩ := found
    cases covered : covers session db range row with
    | false =>
      dsimp only
      rw [covered, if_neg Bool.false_ne_true]
      refine ⟨fun _ range' _ _ same covered' => ?_, fun _ => rfl⟩
      obtain ⟨rfl, -⟩ := Prod.mk.inj (Except.ok.inj same)
      rw [covered] at covered'
      cases covered'
    | true =>
      dsimp only
      rw [covered, if_pos rfl, changeFlags_eq_self]
      constructor
      · intro kept range' mode' flags' same _
        obtain ⟨rfl, rfl, rfl⟩ : range = range' ∧ mode = mode' ∧ flags = flags' := by
          simpa using same
        exact kept
      · exact fun kept => kept range mode flags rfl covered

/-- A command other than STORE leaves a message that it does not expunge. -/
theorem fate_eq_self {session : Session} (selected : session.state = .selected) {db : Db}
    {cmd : ParsedCommand} (other : isStore cmd = false) {row : MessageRow} :
    fate session db cmd row = some row ↔
      (cmd.name = "EXPUNGE" → inMailbox db session.userId session.selectedMailbox row = true →
        isDeleted row = false) ∧
      (cmd.name = "CLOSE" → inMailbox db session.userId inbox row = true →
        isDeleted row = false) := by
  rw [fate, if_neg (not_not.mpr selected), other, if_neg Bool.false_ne_true]
  split
  · rename_i gone
    simp [gone]
  · rename_i expunge
    split
    · rename_i gone
      simp [gone]
    · rename_i close
      simp only [true_iff]
      constructor
      · exact fun named inside => Bool.eq_false_iff.mpr fun deleted =>
          expunge ⟨named, inside, deleted⟩
      · exact fun named inside => Bool.eq_false_iff.mpr fun deleted =>
          close ⟨named, inside, deleted⟩

/-- The commands that preserve the messages are those that find no mailbox selected or nothing to
change in it. -/
theorem preserves_iff_harmless (env : Environment) (session : Session) {db : Db} (keyed : Keyed db)
    (cmd : ParsedCommand) :
    Preserves env session db cmd ↔ (session.state = .selected → Harmless session db cmd) := by
  rw [Preserves, handle_messages env session keyed, filterMap_eq_self]
  by_cases selected : session.state = .selected
  · simp only [selected, true_implies]
    cases store : isStore cmd with
    | true =>
      have other : cmd.name ≠ "EXPUNGE" ∧ cmd.name ≠ "CLOSE" := by
        constructor <;> intro named <;> simp [isStore, named] at store
      rw [fate_store db selected store]
      constructor
      · intro kept
        refine ⟨fun _ range mode flags arguments row member covered => ?_,
          fun named => absurd named other.1, fun named => absurd named other.2⟩
        have same := Option.some.inj (kept row member)
        exact stored_eq_self.mp same range mode flags arguments covered
      · intro harmless row member
        refine congrArg some (stored_eq_self.mpr fun range mode flags arguments => ?_)
        exact harmless.store store range mode flags arguments row member
    | false =>
      have not : ¬isStore cmd = true := by
        rw [store]
        exact Bool.false_ne_true
      constructor
      · intro kept
        refine ⟨fun isStore => absurd isStore not, fun named row member => ?_,
          fun named row member => ?_⟩
        · exact ((fate_eq_self selected store).mp (kept row member)).1 named
        · exact ((fate_eq_self selected store).mp (kept row member)).2 named
      · intro harmless row member
        exact (fate_eq_self selected store).mpr
          ⟨fun named => harmless.expunge named row member,
            fun named => harmless.close named row member⟩
  · rw [fate_unselected db cmd selected]
    exact ⟨fun _ found => absurd found selected, fun _ _ _ => rfl⟩

/-- An EXAMINE that completes announces that the mailbox is read-only, selects it, and changes
nothing itself. -/
theorem examine_announces {env : Environment} {session : Session} {db : Db} {cmd : ParsedCommand}
    (examine : cmd.name = "EXAMINE")
    (done : (cmd.tag, Status.ok) ∈ completions (handle env session db cmd).1) :
    (handle env session db cmd).1.getLast? =
        some (.tagged cmd.tag .ok "[READ-ONLY] EXAMINE completed") ∧
      (handle env session db cmd).2.1.state = .selected ∧ (handle env session db cmd).2.2 = db := by
  have selects : handle env session db cmd =
      ((cmdSelect env session db cmd).1, (cmdSelect env session db cmd).2, db) := by
    simp only [handle, examine]
  rw [selects] at done ⊢
  dsimp only at done ⊢
  unfold cmdSelect at done ⊢
  split at done
  · simp [completions] at done
  · rename_i known
    rw [if_neg known]
    split at done
    · simp [completions] at done
    · rename_i mailbox _
      split at done
      · simp [completions, storeErr] at done
      · refine ⟨?_, rfl, rfl⟩
        rw [if_pos examine]
        exact List.getLast?_concat ..

/-- An action that preserves the messages, if it is a command. -/
def PreservesWhen (env : Environment) (state : Session × Db) (action : Action) : Prop :=
  ∀ cmd, action = .command cmd → Preserves env state.1 state.2 cmd

/-- An action that finds nothing to change in the selected mailbox, if it is a command. -/
def HarmlessWhen (state : Session × Db) (action : Action) : Prop :=
  ∀ cmd, action = .command cmd → state.1.state = .selected → Harmless state.1 state.2 cmd

/-- After every EXAMINE that completes, and so announces a read-only mailbox, the commands that
follow preserve the messages just when each finds nothing to change in the state it comes in; and
then the messages are after all of them what they were. -/
theorem examine_read_only_iff (env : Environment) (template : Daemon.Template) (domain : String)
    (session : Session) {db : Db} (keyed : Keyed db) {cmd : ParsedCommand}
    (examine : cmd.name = "EXAMINE")
    (done : (cmd.tag, Status.ok) ∈ completions (handle env session db cmd).1)
    (actions : List Action) :
    (handle env session db cmd).1.getLast? =
        some (.tagged cmd.tag .ok "[READ-ONLY] EXAMINE completed") ∧
      (Guarded (act env template domain) (PreservesWhen env) (handle env session db cmd).2 actions ↔
        Guarded (act env template domain) HarmlessWhen (handle env session db cmd).2 actions) ∧
      ((∀ action ∈ actions, ∃ next, action = .command next) →
        Guarded (act env template domain) HarmlessWhen (handle env session db cmd).2 actions →
          (run (act env template domain) (handle env session db cmd).2 actions).2.messages =
            db.messages) := by
  obtain ⟨announced, -, same⟩ := examine_announces examine done
  have start : Keyed (handle env session db cmd).2.2 := by
    rw [same]
    exact keyed
  generalize (handle env session db cmd).2 = state at start same
  have agree : ∀ state : Session × Db, ∀ action, Keyed state.2 →
      (PreservesWhen env state action ↔ HarmlessWhen state action) := fun state action keyed =>
    forall₂_congr fun next _ => preserves_iff_harmless env state.1 keyed next
  have both : Guarded (act env template domain) (PreservesWhen env) state actions ↔
      Guarded (act env template domain) HarmlessWhen state actions :=
    guarded_iff (fun _ action keyed _ => keyed_act env template domain keyed action) agree start
      actions
  refine ⟨announced, both, fun commands harmless => ?_⟩
  rw [← same]
  have preserved := both.mpr harmless
  clear harmless both agree start same announced
  induction actions generalizing state with
  | nil => rfl
  | cons action actions ih =>
    obtain ⟨⟨next, rfl⟩, rest⟩ := List.forall_mem_cons.mp commands
    rw [run_cons, ih _ rest preserved.2]
    exact preserved.1 next rfl

/-- Bob, logged in. -/
def bobSession : Session := ⟨.authenticated, "bob", 1, .localAuth, "b.io", inbox⟩

/-- Bob examines his INBOX. -/
def bobExamines : ParsedCommand := ⟨"A1", "EXAMINE", ["INBOX"]⟩

/-- Bob fetches the message and closes the mailbox. -/
def bobReadsOn : List Action :=
  [.command ⟨"A2", "FETCH", ["1", "(FLAGS UID)"]⟩, .command ⟨"A3", "CLOSE", []⟩]

/-- The messages are after it what they were. -/
theorem bob_only_reads :
    (run (act groupEnvironment noTemplate "b.io")
      (handle groupEnvironment bobSession Deletion.namesake bobExamines).2 bobReadsOn).2.messages =
        Deletion.namesake.messages := by
  refine (examine_read_only_iff groupEnvironment noTemplate "b.io" bobSession
    Deletion.keyed_namesake rfl (by decide +kernel) bobReadsOn).2.2 (by simp [bobReadsOn]) ?_
  refine ⟨fun cmd same _ => ?_, fun cmd same _ => ?_, trivial⟩
  · cases same
    exact ⟨fun store => absurd store (by decide), fun named => absurd named (by decide),
      fun named => absurd named (by decide)⟩
  · cases same
    exact ⟨fun store => absurd store (by decide), fun named => absurd named (by decide),
      fun _ => by decide +kernel⟩

/-- Bob examines his INBOX, is told it is read-only, and deletes the message in it. -/
theorem examined_message_deleted :
    (handle groupEnvironment bobSession Deletion.namesake bobExamines).1.getLast? =
        some (.tagged "A1" .ok "[READ-ONLY] EXAMINE completed") ∧
      Deletion.namesake.messages.length = 1 ∧
      (run (act groupEnvironment noTemplate "b.io")
        (handle groupEnvironment bobSession Deletion.namesake bobExamines).2
        [.command ⟨"A2", "STORE", ["1", "+FLAGS", "(\\Deleted)"]⟩,
          .command ⟨"A3", "EXPUNGE", []⟩]).2.messages = [] := by
  decide +kernel

/-! ## The selected mailbox -/

/-- A message is in a mailbox of the user that is not the selected one. -/
def isElsewhere (session : Session) (db : Db) (row : MessageRow) : Bool :=
  isOwn db session.userId row && !inMailbox db session.userId session.selectedMailbox row

/-- A command acts on the selected mailbox only. -/
structure ActsOnSelected (env : Environment) (session : Session) (db : Db) (cmd : ParsedCommand) :
    Prop where
  /-- The messages in the user's other mailbox are unchanged. -/
  others : (handle env session db cmd).2.2.messages.filter (isElsewhere session db) =
    db.messages.filter (isElsewhere session db)
  /-- EXPUNGE and CLOSE remove the deleted messages of the selected mailbox. -/
  expunged : cmd.name = "EXPUNGE" ∨ cmd.name = "CLOSE" →
    (handle env session db cmd).2.2.messages = db.messages.filter fun row =>
      !(inMailbox db session.userId session.selectedMailbox row && isDeleted row)

/-- A STORE leaves the mailbox of a message. -/
theorem stored_mailboxId (session : Session) (db : Db) (cmd : ParsedCommand) (row : MessageRow) :
    (stored session db cmd row).mailboxId = row.mailboxId := by
  unfold stored
  split
  · rfl
  · split <;> rfl

/-- A message stays in its mailbox. -/
theorem fate_mailboxId {session : Session} {db : Db} {cmd : ParsedCommand} {row after : MessageRow}
    (kept : fate session db cmd row = some after) : after.mailboxId = row.mailboxId := by
  unfold fate at kept
  split at kept
  · rw [← Option.some.inj kept]
  · split at kept
    · rw [← Option.some.inj kept, stored_mailboxId]
    · split at kept
      · cases kept
      · split at kept
        · cases kept
        · rw [← Option.some.inj kept]

/-- Where a message is depends on its mailbox only. -/
theorem isElsewhere_congr {session : Session} {db : Db} {left right : MessageRow}
    (same : left.mailboxId = right.mailboxId) :
    isElsewhere session db left = isElsewhere session db right := by
  simp only [isElsewhere, isOwn, inMailbox, same]

/-- A command that expunges no other mailbox leaves the messages there. -/
theorem others_kept (env : Environment) {session : Session} {db : Db} (keyed : Keyed db)
    {cmd : ParsedCommand} (close : ∀ row ∈ db.messages, cmd.name = "CLOSE" →
      inMailbox db session.userId inbox row = true → isDeleted row = true →
        session.selectedMailbox = inbox) :
    (handle env session db cmd).2.2.messages.filter (isElsewhere session db) =
      db.messages.filter (isElsewhere session db) := by
  rw [handle_messages env session keyed]
  refine filter_filterMap (fun row member elsewhere => ?_)
    fun row _ after kept => isElsewhere_congr (fate_mailboxId kept)
  obtain ⟨-, outside⟩ := Bool.and_eq_true_iff.mp elsewhere
  rw [Bool.not_eq_true'] at outside
  have unstored : stored session db cmd row = row := by
    refine stored_eq_self.mpr fun range _ _ _ covered => ?_
    rw [covers, outside, Bool.false_and] at covered
    cases covered
  unfold fate
  rw [unstored, outside]
  split
  · rfl
  · split
    · rfl
    · rw [if_neg (by simp), if_neg]
      rintro ⟨named, inside, deleted⟩
      rw [close row member named inside deleted] at outside
      rw [outside] at inside
      cases inside

/-- In a mailbox that is selected every command acts on it only, but a CLOSE where Sent is selected:
it does so just when neither mailbox has a deleted message. -/
theorem acts_on_selected_iff (env : Environment) {session : Session}
    (selected : session.state = .selected)
    (mailbox : session.selectedMailbox = inbox ∨ session.selectedMailbox = sent) {db : Db}
    (keyed : Keyed db) (cmd : ParsedCommand) :
    ActsOnSelected env session db cmd ↔
      (cmd.name = "CLOSE" → session.selectedMailbox = sent → ∀ row ∈ db.messages,
        isDeleted row = true → inMailbox db session.userId inbox row = false ∧
          inMailbox db session.userId sent row = false) := by
  constructor
  · intro acts named isSent row member deleted
    have outcome := acts.expunged (.inr named)
    rw [handle_messages env session keyed,
      filterMap_fate_expunge db selected (.inr ⟨named, rfl⟩), isSent] at outcome
    have same : inMailbox db session.userId inbox row = inMailbox db session.userId sent row := by
      have kept := congrArg (row ∈ ·) outcome
      rw [eq_iff_iff, List.mem_filter, List.mem_filter, and_iff_right member, and_iff_right member,
        deleted, Bool.and_true, Bool.and_true, ← Bool.eq_iff_iff] at kept
      exact Bool.not_inj kept
    cases inside : inMailbox db session.userId sent row with
    | false => exact ⟨same.trans inside, rfl⟩
    | true => exact absurd (inMailbox_unique keyed (same.trans inside) inside) (by decide)
  · intro clean
    refine ⟨others_kept env keyed fun row member named inside deleted => ?_, fun named => ?_⟩
    · rcases mailbox with isInbox | isSent
      · exact isInbox
      · rw [(clean named isSent row member deleted).1] at inside
        cases inside
    · rw [handle_messages env session keyed]
      rcases named with named | named
      · exact filterMap_fate_expunge db selected (.inl ⟨named, rfl⟩)
      · rw [filterMap_fate_expunge db selected (.inr ⟨named, rfl⟩)]
        rcases mailbox with isInbox | isSent
        · rw [isInbox]
        · rw [isSent]
          refine List.filter_congr fun row member => ?_
          cases deleted : isDeleted row with
          | false => rw [Bool.and_false, Bool.and_false]
          | true =>
            obtain ⟨notInbox, notSent⟩ := clean named isSent row member deleted
            rw [notInbox, notSent]

/-- Bob's session, with a mailbox selected. -/
def bobSelected (mailbox : String) : Session := ⟨.selected, "bob", 1, .localAuth, "b.io", mailbox⟩

/-- Bob's message carries `\Deleted`. -/
def marked : Db := (Deletion.namesake.setFlagsIn 1 inbox 1 MessageFlags.deleted true).2

/-- The keys of that store are unique. -/
theorem keyed_marked : Keyed marked :=
  keyed_changes Deletion.keyed_namesake (setFlagsIn_changes ..)

/-- Bob's store with three messages. The first one is seen, the second one has two lines, and the
third one is deleted. -/
def threeMessages : Db :=
  Transition.run (apply noTemplate "b.io") .empty
    [createBob, .deliver { invoice "m1" with body := [104, 105] } 0,
      .deliver { invoice "m2" with body := [104, 105, 10, 104, 111] } 0, .deliver (invoice "m3") 0,
      .setFlags 1 inbox 1 MessageFlags.seen true, .setFlags 1 inbox 3 MessageFlags.deleted true]

/-- The keys of that store are unique. -/
theorem keyed_threeMessages : Keyed threeMessages := by
  have kept : ∀ db operation, Keyed db → Keyed (apply noTemplate "b.io" db operation) :=
    fun _ operation keyed => keyed_apply noTemplate "b.io" keyed operation
  exact Transition.run_invariant kept keyed_empty _

/-- Bob closes his INBOX, and the message in it goes. -/
theorem bob_closes_inbox : ActsOnSelected groupEnvironment (bobSelected inbox) marked
    ⟨"A1", "CLOSE", []⟩ :=
  (acts_on_selected_iff groupEnvironment rfl (.inl rfl) keyed_marked _).mpr
    fun _ isSent => absurd isSent (by decide)

/-- Bob closes Sent, and the message in his INBOX goes. -/
theorem close_of_sent_expunges_inbox :
    ¬ActsOnSelected groupEnvironment (bobSelected sent) marked ⟨"A1", "CLOSE", []⟩ := by
  intro acts
  exact absurd acts.others (by decide +kernel)

end Talk.Verif.SelectedMailbox
