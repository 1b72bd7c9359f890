import Talk.Verif.Deletion
import Talk.Verif.ImapSteps

/-!
# IMAP sessions keep to their user

A session names its user once, at a login, and shows nothing before. Whatever it answers and
changes afterwards depends on the messages in its user's mailboxes only: two stores that differ in
other users' messages get the same answer to every command.
-/

namespace Talk.Verif.Isolation

open Imap ImapSteps Mailstore StoreSteps Table Transition

/-! ## Stores that agree for a user -/

/-- A message is in a mailbox of the user. -/
def isOwn (db : Db) (userId : Nat) (row : MessageRow) : Bool :=
  decide (row.mailboxId ∈ db.mailboxIdsOf userId)

/-- Two stores differ in the messages of other users only. -/
structure Agrees (userId : Nat) (left right : Db) : Prop where
  /-- The users. -/
  users : right.users = left.users
  /-- The keyring. -/
  keyring : right.keyring = left.keyring
  /-- The shares. -/
  shares : right.shares = left.shares
  /-- The mailboxes. -/
  mailboxes : right.mailboxes = left.mailboxes
  /-- The transactions. -/
  transactions : right.transactions = left.transactions
  /-- The user's messages. -/
  messages : right.messages.filter (isOwn left userId) = left.messages.filter (isOwn left userId)

variable {userId : Nat} {left right : Db}

/-- The user's mailbox is the same. -/
theorem Agrees.mailboxNamed (agrees : Agrees userId left right) (owner : Nat) (name : String) :
    right.mailboxNamed owner name = left.mailboxNamed owner name := by
  rw [Db.mailboxNamed, Db.mailboxNamed, agrees.mailboxes]

/-- A mailbox that was found is the user's. -/
theorem own_of_named {db : Db} {name : String} {handle : Db.Handle}
    (named : db.mailboxNamed userId name = .ok handle) : handle.id ∈ db.mailboxIdsOf userId := by
  obtain ⟨box, member, owner, -, rfl⟩ := mailboxNamed_ok named
  exact List.mem_map.mpr ⟨box, List.mem_filter.mpr ⟨member, decide_eq_true owner⟩, rfl⟩

/-- Rows selected from the user's messages are the same. -/
theorem Agrees.select (agrees : Agrees userId left right) {selects : MessageRow → Bool}
    (own : ∀ row, selects row = true → isOwn left userId row = true) :
    right.messages.filter selects = left.messages.filter selects := by
  have narrow : ∀ rows : List MessageRow,
      rows.filter selects = (rows.filter (isOwn left userId)).filter selects := by
    intro rows
    rw [List.filter_filter]
    refine List.filter_congr fun row _ => ?_
    cases chosen : selects row with
    | false => rfl
    | true => rw [own row chosen, Bool.and_self]
  rw [narrow right.messages, narrow left.messages, agrees.messages]

/-- The rows of the user's mailbox are the same. -/
theorem Agrees.rowsIn (agrees : Agrees userId left right) {mailboxId : Nat}
    (own : mailboxId ∈ left.mailboxIdsOf userId) : right.rowsIn mailboxId = left.rowsIn mailboxId :=
  agrees.select fun row selected => by
    rw [isOwn, of_decide_eq_true selected]
    exact decide_eq_true own

/-- The list of the user's mailbox is the same. -/
theorem Agrees.listMessagesIn (agrees : Agrees userId left right) (mailbox : String) :
    right.listMessagesIn userId mailbox = left.listMessagesIn userId mailbox := by
  unfold Db.listMessagesIn
  rw [agrees.mailboxNamed]
  cases named : left.mailboxNamed userId mailbox with
  | error => rfl
  | ok handle =>
    dsimp only
    rw [agrees.rowsIn (own_of_named named), agrees.transactions]

/-- The counter of the user's mailbox is the same. -/
theorem Agrees.uidnextIn (agrees : Agrees userId left right) (mailbox : String) :
    right.uidnextIn userId mailbox = left.uidnextIn userId mailbox := by
  rw [Db.uidnextIn, Db.uidnextIn, agrees.mailboxNamed]

/-- The user's message is the same. -/
theorem Agrees.fetchMessageIn (agrees : Agrees userId left right) (mailbox : String)
    (messageId : Nat) :
    right.fetchMessageIn userId mailbox messageId =
      left.fetchMessageIn userId mailbox messageId := by
  unfold Db.fetchMessageIn
  rw [agrees.mailboxNamed]
  cases named : left.mailboxNamed userId mailbox with
  | error => rfl
  | ok handle =>
    dsimp only
    rw [agrees.rowsIn (own_of_named named), agrees.transactions]

/-- What a function returns is the same, and the stores still agree. -/
def Alike (userId : Nat) {α : Type} (left right : α × Db) : Prop :=
  ∃ result first second, left = (result, first) ∧ right = (result, second) ∧
    Agrees userId first second

/-- Changing flags keeps the agreement, and ends alike. -/
theorem Agrees.setFlagsIn (agrees : Agrees userId left right) (mailbox : String) (messageId : Nat)
    (mask : UInt32) (value : Bool) :
    Alike userId (left.setFlagsIn userId mailbox messageId mask value)
      (right.setFlagsIn userId mailbox messageId mask value) := by
  unfold Db.setFlagsIn
  rw [agrees.mailboxNamed]
  cases named : left.mailboxNamed userId mailbox with
  | error => exact ⟨_, _, _, rfl, rfl, agrees⟩
  | ok handle =>
    refine ⟨_, _, _, rfl, rfl, agrees.users, agrees.keyring, agrees.shares, agrees.mailboxes,
      agrees.transactions, ?_⟩
    have same : ∀ row, isOwn left userId (Db.changeFlags mask value row) = isOwn left userId row :=
      fun _ => rfl
    exact (filter_update same _).trans
      ((congrArg _ agrees.messages).trans (filter_update same _).symm)

/-- Expunging keeps the agreement, and ends alike. -/
theorem Agrees.expungeIn (agrees : Agrees userId left right) (mailbox : String) :
    Alike userId (left.expungeIn userId mailbox) (right.expungeIn userId mailbox) := by
  unfold Db.expungeIn
  rw [agrees.mailboxNamed]
  cases named : left.mailboxNamed userId mailbox with
  | error => exact ⟨_, _, _, rfl, rfl, agrees⟩
  | ok handle =>
    have own := own_of_named named
    have same : right.messages.filter (Db.expunges handle.id) =
        left.messages.filter (Db.expunges handle.id) := by
      refine agrees.select fun row selected => ?_
      rw [Db.expunges, Bool.and_eq_true] at selected
      rw [isOwn, of_decide_eq_true selected.1]
      exact decide_eq_true own
    dsimp only
    rw [same]
    refine ⟨_, _, _, rfl, rfl, agrees.users, agrees.keyring, agrees.shares, agrees.mailboxes,
      agrees.transactions, ?_⟩
    exact (List.filter_comm _ _ _).trans
      ((congrArg _ agrees.messages).trans (List.filter_comm _ _ _))

/-! ## Commands on stores that agree -/

/-- A login reads users and shares. -/
theorem login_congr (users : right.users = left.users) (shares : right.shares = left.shares)
    (env : Environment) (session : Session) (tag username password : String) :
    login env session right tag username password =
      login env session left tag username password := by
  have getUser : right.getUser = left.getUser := funext fun name => by
    rw [Db.getUser, Db.getUser, users]
  have byShare : ∀ user, acceptsShare env right user password =
      acceptsShare env left user password := fun user => by
    rw [acceptsShare, acceptsShare, Db.getShares, Db.getShares, shares]
  have byPassword : ∀ name, acceptsPassword env session.authMode right name password =
      acceptsPassword env session.authMode left name password := fun name => by
    unfold acceptsPassword Db.passwordHash
    rw [users]
  unfold login
  simp only [getUser, byShare, byPassword]

/-- An authentication reads users and shares. -/
theorem cmdAuth_congr (users : right.users = left.users) (shares : right.shares = left.shares)
    (env : Environment) (session : Session) (cmd : ParsedCommand) :
    cmdAuth env session right cmd = cmdAuth env session left cmd := by
  simp only [cmdAuth, login_congr users shares]

variable {session : Session}

/-- A mailbox is selected alike. -/
theorem Agrees.cmdSelect (agrees : Agrees session.userId left right) (env : Environment)
    (cmd : ParsedCommand) : cmdSelect env session right cmd = cmdSelect env session left cmd := by
  simp only [Imap.cmdSelect, agrees.listMessagesIn, agrees.uidnextIn]

/-- A status is the same. -/
theorem Agrees.cmdStatus (agrees : Agrees session.userId left right) (env : Environment)
    (cmd : ParsedCommand) : cmdStatus env session right cmd = cmdStatus env session left cmd := by
  simp only [Imap.cmdStatus, agrees.listMessagesIn, agrees.uidnextIn]

/-- A search finds the same. -/
theorem Agrees.cmdSearch (agrees : Agrees session.userId left right) (env : Environment)
    (cmd : ParsedCommand) : cmdSearch env session right cmd = cmdSearch env session left cmd := by
  simp only [Imap.cmdSearch, agrees.listMessagesIn]

/-- The responses for messages are the same. -/
theorem Agrees.fetchMessages (agrees : Agrees session.userId left right) (env : Environment)
    (range : String) (req : FetchRequest) (count : UInt32) (messages : List MessageMeta) :
    fetchMessages env session right range req count messages =
      fetchMessages env session left range req count messages := by
  induction messages with
  | nil => rfl
  | cons info rest ih => simp only [Imap.fetchMessages, agrees.fetchMessageIn, ih]

/-- A fetch returns the same. -/
theorem Agrees.cmdFetch (agrees : Agrees session.userId left right) (env : Environment)
    (cmd : ParsedCommand) : cmdFetch env session right cmd = cmdFetch env session left cmd := by
  simp only [Imap.cmdFetch, agrees.listMessagesIn, agrees.fetchMessages]

/-- Flags are changed alike. -/
theorem Agrees.storeMessages (agrees : Agrees session.userId left right) (range : String)
    (mask : UInt32) (value : Bool) (count : UInt32) (messages : List MessageMeta) :
    Alike session.userId (storeMessages session range mask value count messages left)
      (storeMessages session range mask value count messages right) := by
  induction messages generalizing left right with
  | nil => exact ⟨_, _, _, rfl, rfl, agrees⟩
  | cons info rest ih =>
    rw [Imap.storeMessages, Imap.storeMessages]
    split
    · obtain ⟨result, first, second, leftDone, rightDone, still⟩ :=
        agrees.setFlagsIn session.selectedMailbox info.id mask value
      rw [leftDone, rightDone]
      cases result with
      | error => exact ⟨_, _, _, rfl, rfl, still⟩
      | ok =>
        obtain ⟨more, leftAfter, rightAfter, leftMore, rightMore, after⟩ := ih still
        dsimp only
        rw [leftMore, rightMore]
        exact ⟨_, _, _, rfl, rfl, after⟩
    · exact ih agrees

/-- A store command is done alike. -/
theorem Agrees.cmdStore (agrees : Agrees session.userId left right) (env : Environment)
    (cmd : ParsedCommand) :
    Alike session.userId (cmdStore env session left cmd) (cmdStore env session right cmd) := by
  simp only [Imap.cmdStore, agrees.listMessagesIn]
  split
  · exact ⟨_, _, _, rfl, rfl, agrees⟩
  · split
    · exact ⟨_, _, _, rfl, rfl, agrees⟩
    · rename_i range mode flags _
      split
      · exact ⟨_, _, _, rfl, rfl, agrees⟩
      · rename_i messages _
        split
        · exact ⟨_, _, _, rfl, rfl, agrees⟩
        · obtain ⟨result, first, second, leftDone, rightDone, still⟩ :=
            agrees.storeMessages range (parseFlags flags)
              (!Text.startsWith (Text.trimStart mode) "-") (UInt32.ofNat messages.length) messages
          rw [leftDone, rightDone]
          cases result with
          | error => exact ⟨_, _, _, rfl, rfl, still⟩
          | ok => exact ⟨_, _, _, rfl, rfl, still⟩

/-- A UID command is done alike. -/
theorem Agrees.cmdUid (agrees : Agrees session.userId left right) (env : Environment)
    (cmd : ParsedCommand) :
    Alike session.userId (cmdUid env session left cmd) (cmdUid env session right cmd) := by
  simp only [Imap.cmdUid, agrees.cmdFetch, agrees.cmdSearch]
  split
  · exact ⟨_, _, _, rfl, rfl, agrees⟩
  · split
    · exact ⟨_, _, _, rfl, rfl, agrees⟩
    · split
      · exact ⟨_, _, _, rfl, rfl, agrees⟩
      · exact agrees.cmdStore env cmd
      · exact ⟨_, _, _, rfl, rfl, agrees⟩
      · exact ⟨_, _, _, rfl, rfl, agrees⟩

/-- The mailbox is expunged alike. -/
theorem Agrees.cmdExpunge (agrees : Agrees session.userId left right) (env : Environment)
    (tag : String) :
    Alike session.userId (cmdExpunge env session left tag) (cmdExpunge env session right tag) := by
  unfold Imap.cmdExpunge
  obtain ⟨result, first, second, leftDone, rightDone, still⟩ :=
    agrees.expungeIn session.selectedMailbox
  rw [leftDone, rightDone]
  split
  · exact ⟨_, _, _, rfl, rfl, agrees⟩
  · cases result with
    | error => exact ⟨_, _, _, rfl, rfl, still⟩
    | ok => exact ⟨_, _, _, rfl, rfl, still⟩

/-- Two outcomes of a command with the same answer and session, on stores that still agree. -/
def SameOutcome (userId : Nat) (left right : List Reply × Session × Db) : Prop :=
  right.1 = left.1 ∧ Alike userId left.2 right.2

/-- The mailbox is left alike. -/
theorem Agrees.cmdClose (agrees : Agrees session.userId left right) (env : Environment)
    (tag : String) :
    SameOutcome session.userId (cmdClose env session left tag)
      (cmdClose env session right tag) := by
  unfold Imap.cmdClose
  obtain ⟨result, first, second, leftDone, rightDone, still⟩ := agrees.expungeIn inbox
  rw [leftDone, rightDone]
  split
  · exact ⟨rfl, _, _, _, rfl, rfl, agrees⟩
  · cases result with
    | error => exact ⟨rfl, _, _, _, rfl, rfl, still⟩
    | ok => exact ⟨rfl, _, _, _, rfl, rfl, still⟩

/-- A command that does not change the session has the same outcome when it is done alike. -/
theorem sameOutcome_of_alike {userId : Nat} {first second : List Reply × Db}
    (alike : Alike userId first second) (session : Session) :
    SameOutcome userId (first.1, session, first.2) (second.1, session, second.2) := by
  obtain ⟨replies, left, right, rfl, rfl, still⟩ := alike
  exact ⟨rfl, _, _, _, rfl, rfl, still⟩

/-- Every command answers alike on stores that differ in other users' messages, and leaves stores
that differ in them only. -/
theorem Agrees.handle (agrees : Agrees session.userId left right) (env : Environment)
    (cmd : ParsedCommand) :
    SameOutcome session.userId (handle env session left cmd) (handle env session right cmd) := by
  have same : ∀ (replies : List Reply) (after : Session),
      SameOutcome session.userId (replies, after, left) (replies, after, right) :=
    fun _ _ => ⟨rfl, _, _, _, rfl, rfl, agrees⟩
  simp only [Imap.handle, cmdAuth_congr agrees.users agrees.shares, agrees.cmdSelect,
    agrees.cmdStatus, agrees.cmdFetch, agrees.cmdSearch]
  split
  case h_12 => exact sameOutcome_of_alike (agrees.cmdUid env cmd) session
  case h_13 => exact sameOutcome_of_alike (agrees.cmdStore env cmd) session
  case h_15 => exact sameOutcome_of_alike (agrees.cmdExpunge env cmd.tag) session
  case h_16 => exact agrees.cmdClose env cmd.tag
  case h_18 => split <;> exact same ..
  all_goals exact same ..

/-! ## What other users keep -/

/-- Nothing but the user's own messages is changed. -/
structure ForeignKept (userId : Nat) (before after : Db) : Prop where
  /-- The users. -/
  users : after.users = before.users
  /-- The keyring. -/
  keyring : after.keyring = before.keyring
  /-- The shares. -/
  shares : after.shares = before.shares
  /-- The mailboxes. -/
  mailboxes : after.mailboxes = before.mailboxes
  /-- The transactions. -/
  transactions : after.transactions = before.transactions
  /-- The messages that are not the user's. -/
  messages : after.messages.filter (fun row => !isOwn before userId row) =
    before.messages.filter fun row => !isOwn before userId row

/-- A store keeps what is foreign in it. -/
theorem foreignKept_refl (userId : Nat) (db : Db) : ForeignKept userId db db :=
  ⟨rfl, rfl, rfl, rfl, rfl, rfl⟩

/-- What is foreign is kept by one change after the other. -/
theorem ForeignKept.trans {userId : Nat} {before middle after : Db}
    (first : ForeignKept userId before middle) (second : ForeignKept userId middle after) :
    ForeignKept userId before after := by
  refine ⟨second.users.trans first.users, second.keyring.trans first.keyring,
    second.shares.trans first.shares, second.mailboxes.trans first.mailboxes,
    second.transactions.trans first.transactions, ?_⟩
  have same : isOwn middle userId = isOwn before userId := by
    funext row
    rw [isOwn, isOwn, Db.mailboxIdsOf, Db.mailboxIdsOf, first.mailboxes]
  have later := second.messages
  rw [same] at later
  exact later.trans first.messages

/-- The messages of every other user are kept. -/
theorem ForeignKept.others {userId : Nat} {before after : Db} (keyed : Keyed before)
    (kept : ForeignKept userId before after) {other : Nat} (differs : other ≠ userId) :
    after.messages.filter (isOwn before other) = before.messages.filter (isOwn before other) := by
  have foreign : ∀ row, isOwn before other row = true → (!isOwn before userId row) = true := by
    intro row theirs
    have not := Deletion.mailboxIdsOf_disjoint keyed differs (of_decide_eq_true theirs)
    rw [isOwn, decide_eq_false not, Bool.not_false]
  rw [← Deletion.filter_filter_keeps _ _ after.messages fun row _ => foreign row, kept.messages,
    Deletion.filter_filter_keeps _ _ before.messages fun row _ => foreign row]

/-- A change of the user's messages keeps the others. -/
theorem ownChange_foreignKept {userId : Nat} {before after : Db}
    (change : OwnChange userId before after) : ForeignKept userId before after := by
  cases change with
  | flags mailbox messageId mask value =>
    unfold Db.setFlagsIn
    cases named : before.mailboxNamed userId mailbox with
    | error => exact foreignKept_refl userId before
    | ok handle =>
      refine ⟨rfl, rfl, rfl, rfl, rfl, ?_⟩
      refine (filter_update ?_ _).trans (update_eq_self (fun row member => ?_) _)
      · exact fun _ => rfl
      · have foreign := (List.mem_filter.mp member).2
        refine decide_eq_false fun same => ?_
        have home : row.mailboxId = handle.id := congrArg Prod.fst same
        rw [isOwn, home, decide_eq_true (own_of_named named)] at foreign
        cases foreign
  | expunge mailbox =>
    unfold Db.expungeIn
    cases named : before.mailboxNamed userId mailbox with
    | error => exact foreignKept_refl userId before
    | ok handle =>
      refine ⟨rfl, rfl, rfl, rfl, rfl, ?_⟩
      refine Deletion.filter_filter_keeps _ _ _ fun row _ foreign => ?_
      have other : row.mailboxId ≠ handle.id := by
        intro same
        rw [isOwn, same, decide_eq_true (own_of_named named)] at foreign
        cases foreign
      simp [Db.expunges, other]

/-- A change of the user's messages is one of the store's changes. -/
theorem ownChange_changes {userId : Nat} {before after : Db}
    (change : OwnChange userId before after) : Changes before after := by
  cases change with
  | flags => exact setFlagsIn_changes ..
  | expunge mailbox =>
    rcases expungeIn_cases before userId mailbox with kept | ⟨handle, -, deleted⟩
    · rw [kept]
    · rw [deleted]
      exact .single (.delete _)

/-- Changes of the user's messages keep the others. -/
theorem ownChanges_foreignKept {userId : Nat} {before after : Db}
    (changes : OwnChanges userId before after) : ForeignKept userId before after := by
  induction changes with
  | refl => exact foreignKept_refl userId before
  | tail _ change ih => exact ih.trans (ownChange_foreignKept change)

/-- Changes of the user's messages keep the keys. -/
theorem keyed_ownChanges {userId : Nat} {before after : Db} (keyed : Keyed before)
    (changes : OwnChanges userId before after) : Keyed after := by
  induction changes with
  | refl => exact keyed
  | tail _ change ih => exact keyed_changes ih (ownChange_changes change)

/-- A command changes its user's messages and nothing else. -/
theorem handle_ownChanges (env : Environment) (session : Session) (db : Db) (cmd : ParsedCommand) :
    OwnChanges session.userId db (handle env session db cmd).2.2 := by
  have effect := handle_effect env session db cmd
  generalize handle env session db cmd = result at effect
  cases effect with
  | refused _ _ _ _ _ changes => exact changes
  | served _ _ _ _ changes => exact changes
  | close _ _ _ _ changes => exact changes
  | anyone | login | select | idle => exact .refl

/-! ## Gates -/

/-- The commands on the messages of a selected mailbox. -/
def mailboxCommands : List String := ["FETCH", "STORE", "SEARCH", "UID", "EXPUNGE", "CLOSE"]

/-- The commands on messages are refused where no mailbox is selected. -/
theorem handle_unselected (env : Environment) {session : Session} (db : Db) {cmd : ParsedCommand}
    (named : cmd.name ∈ mailboxCommands) (unselected : session.state ≠ .selected) :
    handle env session db cmd =
      ([.tagged cmd.tag .bad "No mailbox selected"], session, db) := by
  simp only [mailboxCommands, List.mem_cons, List.not_mem_nil, or_false] at named
  rcases named with named | named | named | named | named | named <;>
    simp [handle, named, cmdFetch, cmdStore, cmdSearch, cmdUid, cmdExpunge, cmdClose, unselected]

/-- Before a login a command reads users and shares only, and changes nothing. -/
theorem handle_unauthenticated (env : Environment) {session : Session}
    (fresh : session.state = .notAuthenticated) {left right : Db}
    (users : right.users = left.users) (shares : right.shares = left.shares) (cmd : ParsedCommand) :
    (handle env session right cmd).1 = (handle env session left cmd).1 ∧
      (handle env session right cmd).2.1 = (handle env session left cmd).2.1 ∧
      (handle env session left cmd).2.2 = left := by
  simp only [handle, cmdAuth_congr users shares, cmdSelect, cmdStatus, cmdFetch, cmdSearch, cmdUid,
    cmdStore, cmdExpunge, cmdClose, fresh, if_true, ne_eq, reduceCtorEq, not_false_eq_true]
  split
  all_goals try exact ⟨rfl, rfl, rfl⟩
  split <;> exact ⟨rfl, rfl, rfl⟩

/-! ## Runs -/

/-- What happens while a session is open. -/
inductive Action where
  /-- The session handles a command. -/
  | command (cmd : ParsedCommand)
  /-- Another part of the daemon changes the store. -/
  | elsewhere (operation : Operation)

/-- The session and the store after an action. -/
def act (env : Environment) (template : Daemon.Template) (domain : String)
    (state : Session × Db) : Action → Session × Db
  | .command cmd => (handle env state.1 state.2 cmd).2
  | .elsewhere operation => (state.1, apply template domain state.2 operation)

/-- A command that is gated by the session's state and isolated to its user. -/
structure Respects (env : Environment) (session : Session) (db : Db) (cmd : ParsedCommand) :
    Prop where
  /-- A session with a user keeps it. -/
  fixed : session.state ≠ .notAuthenticated →
    (handle env session db cmd).2.1.userId = session.userId ∧
      (handle env session db cmd).2.1.username = session.username ∧
      (handle env session db cmd).2.1.state ≠ .notAuthenticated
  /-- A session without one gets it by a login that succeeds. -/
  named : session.state = .notAuthenticated → (handle env session db cmd).2.1 = session ∨
    ((cmd.name = "LOGIN" ∨ cmd.name = "AUTHENTICATE") ∧
      completions (handle env session db cmd).1 = [(cmd.tag, .ok)])
  /-- Until then nothing else is done but what needs no user. -/
  closed : session.state = .notAuthenticated →
    (cmd.tag, Status.ok) ∈ completions (handle env session db cmd).1 →
    cmd.name ∈ ["CAPABILITY", "NOOP", "LOGOUT"] ∨
      (handle env session db cmd).2.1.state = .authenticated
  /-- Until then messages are neither read nor changed. -/
  unread : session.state = .notAuthenticated → (handle env session db cmd).2.2 = db ∧
    ∀ other : Db, other.users = db.users → other.shares = db.shares →
      (handle env session other cmd).1 = (handle env session db cmd).1 ∧
        (handle env session other cmd).2.1 = (handle env session db cmd).2.1
  /-- The commands on messages need a selected mailbox. -/
  unselected : cmd.name ∈ mailboxCommands → session.state ≠ .selected →
    handle env session db cmd = ([.tagged cmd.tag .bad "No mailbox selected"], session, db)
  /-- No message of another user is changed. -/
  unchanged : ∀ other, other ≠ session.userId →
    (handle env session db cmd).2.2.messages.filter (isOwn db other) =
      db.messages.filter (isOwn db other)
  /-- No message of another user is shown. -/
  unseen : ∀ other, Agrees session.userId db other →
    (handle env session other cmd).1 = (handle env session db cmd).1
  /-- A command that is refused leaves the session. -/
  refused : ∀ status, status ≠ .ok →
    (cmd.tag, status) ∈ completions (handle env session db cmd).1 →
      (handle env session db cmd).2.1 = session

/-- A session that has authenticated stays so, as the same user. -/
theorem handle_authenticated (env : Environment) {session : Session} (db : Db)
    (cmd : ParsedCommand) (known : session.state ≠ .notAuthenticated) :
    (handle env session db cmd).2.1.userId = session.userId ∧
      (handle env session db cmd).2.1.username = session.username ∧
      (handle env session db cmd).2.1.state ≠ .notAuthenticated := by
  have effect := handle_effect env session db cmd
  generalize handle env session db cmd = result at effect
  cases effect with
  | login name user replies named fresh => exact absurd fresh known
  | select => exact ⟨rfl, rfl, nofun⟩
  | close => exact ⟨rfl, rfl, nofun⟩
  | refused | anyone | served | idle => exact ⟨rfl, rfl, known⟩

/-- A session that has not authenticated changes by an accepted login only. -/
theorem handle_login (env : Environment) {session : Session} (db : Db) (cmd : ParsedCommand)
    (fresh : session.state = .notAuthenticated) :
    (handle env session db cmd).2.1 = session ∨
      ((cmd.name = "LOGIN" ∨ cmd.name = "AUTHENTICATE") ∧
        completions (handle env session db cmd).1 = [(cmd.tag, .ok)]) := by
  have effect := handle_effect env session db cmd
  generalize handle env session db cmd = result at effect
  cases effect with
  | login name user replies named _ _ completes => exact .inr ⟨named, completes.completions⟩
  | select _ _ known => exact absurd fresh known
  | close _ _ selected =>
    rw [selected] at fresh
    cases fresh
  | refused | anyone | served | idle => exact .inl rfl

/-- The status a command is completed with is the only one. -/
theorem status_of_completes {tag : String} {status other : Status} {replies : List Reply}
    (completes : Completes tag status replies) (answered : (tag, other) ∈ completions replies) :
    other = status := by
  rw [completes.completions] at answered
  simpa using answered

/-- What a session that has not authenticated is answered OK to. -/
theorem handle_accepted (env : Environment) {session : Session} (db : Db) (cmd : ParsedCommand)
    (fresh : session.state = .notAuthenticated)
    (answered : (cmd.tag, Status.ok) ∈ completions (handle env session db cmd).1) :
    cmd.name ∈ ["CAPABILITY", "NOOP", "LOGOUT"] ∨
      (handle env session db cmd).2.1.state = .authenticated := by
  have effect := handle_effect env session db cmd
  generalize handle env session db cmd = result at effect answered
  cases effect with
  | refused status _ _ notOk completes =>
    exact absurd (status_of_completes completes answered).symm notOk
  | anyone _ named => exact .inl named
  | login => exact .inr rfl
  | served _ _ known => exact absurd fresh known
  | select _ _ known => exact absurd fresh known
  | close _ _ selected =>
    rw [selected] at fresh
    cases fresh
  | idle _ selected =>
    rw [selected] at fresh
    cases fresh

/-- A command that is refused leaves the session. -/
theorem handle_refused (env : Environment) (session : Session) (db : Db) (cmd : ParsedCommand)
    {status : Status} (notOk : status ≠ .ok)
    (answered : (cmd.tag, status) ∈ completions (handle env session db cmd).1) :
    (handle env session db cmd).2.1 = session := by
  have effect := handle_effect env session db cmd
  generalize handle env session db cmd = result at effect answered
  cases effect with
  | login _ _ _ _ _ _ completes => exact absurd (status_of_completes completes answered) notOk
  | select _ _ _ completes => exact absurd (status_of_completes completes answered) notOk
  | close _ _ _ completes => exact absurd (status_of_completes completes answered) notOk
  | refused | anyone | served | idle => rfl

/-- Every command is gated and isolated. -/
theorem respects (env : Environment) (session : Session) {db : Db} (keyed : Keyed db)
    (cmd : ParsedCommand) : Respects env session db cmd := by
  have kept := ownChanges_foreignKept (handle_ownChanges env session db cmd)
  refine ⟨handle_authenticated env db cmd, handle_login env db cmd, handle_accepted env db cmd,
    fun fresh => ⟨?_, fun other users shares => ?_⟩,
    fun mailbox state => handle_unselected env db mailbox state,
    fun other differs => kept.others keyed differs, fun other agrees => (agrees.handle env cmd).1,
    fun status notOk answered => handle_refused env session db cmd notOk answered⟩
  · exact (@handle_unauthenticated env session fresh db db rfl rfl cmd).2.2
  · obtain ⟨replies, after, -⟩ := handle_unauthenticated env fresh users shares cmd
    exact ⟨replies, after⟩

/-- The keys stay unique while a session is open. -/
theorem keyed_act (env : Environment) (template : Daemon.Template) (domain : String)
    {state : Session × Db} (keyed : Keyed state.2) (action : Action) :
    Keyed (act env template domain state action).2 := by
  cases action with
  | elsewhere operation => exact keyed_apply template domain keyed operation
  | command cmd => exact keyed_ownChanges keyed (handle_ownChanges env state.1 state.2 cmd)

/-- Every command of every session, whatever else happens to the store meanwhile, is gated by the
session's state and isolated to its user. -/
theorem sessions_gated_and_isolated (env : Environment) (template : Daemon.Template)
    (authMode : AuthMode) (domain : String) {db : Db} (keyed : Keyed db) (actions : List Action) :
    Guarded (act env template domain)
      (fun state action => ∀ cmd, action = .command cmd → Respects env state.1 state.2 cmd)
      (newSession authMode domain, db) actions := by
  have kept : ∀ state action, Keyed (Prod.snd state) →
      Keyed (act env template domain state action).2 :=
    fun _ action keyed => keyed_act env template domain keyed action
  refine guarded_of_invariant kept (fun state action keyed cmd _ => ?_) keyed actions
  exact respects env state.1 keyed cmd

/-- Bob logs in and opens his INBOX while a second message arrives. -/
def bobReads : List Action :=
  [.command ⟨"A1", "LOGIN", ["bob@b.io", ""]⟩, .elsewhere (.deliver (invoice "m2") 0),
    .command ⟨"A2", "SELECT", ["inbox"]⟩, .command ⟨"A3", "FETCH", ["1:2", "(FLAGS UID)"]⟩]

/-- Bob's session. -/
theorem bob_session_isolated :
    (run (act groupEnvironment noTemplate "b.io")
      (newSession .localAuth "b.io", Deletion.namesake) bobReads).1 =
        ⟨.selected, "bob", 1, .localAuth, "b.io", inbox⟩ ∧
    Guarded (act groupEnvironment noTemplate "b.io")
      (fun state action => ∀ cmd, action = .command cmd →
        Respects groupEnvironment state.1 state.2 cmd)
      (newSession .localAuth "b.io", Deletion.namesake) bobReads :=
  ⟨by decide +kernel, sessions_gated_and_isolated groupEnvironment noTemplate .localAuth "b.io"
    Deletion.keyed_namesake bobReads⟩

end Talk.Verif.Isolation
