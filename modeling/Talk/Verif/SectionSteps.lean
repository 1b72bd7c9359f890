import Talk.Imap.Sections
import Talk.Verif.Isolation
import Talk.Verif.ParallelDeliveries

/-!
# The sections a session may take

Before a login a session takes sections that read users and shares. With a user it looks mailboxes
of this user up, and what it then lists, fetches, flags or expunges is in a mailbox it has looked
up: for as long as no user goes this is the user's, whatever else happens between its sections.
-/

namespace Talk.Verif.SectionSteps

open Imap Isolation Mailstore Program Table
open ParallelDeliveries (placeOf)

/-! ## What is allowed -/

/-- The sections a session may take. -/
def Allowed (session : Session) (db : Db) : Section → Prop
  | .getUser _ | .passwordHash _ | .getShares _ => True
  | .mailboxNamed userId _ => session.state ≠ .notAuthenticated ∧ userId = session.userId
  | .listRows handle | .fetchRow handle _ | .changeRow handle _ _ _ | .expungeRows handle =>
    session.state ≠ .notAuthenticated ∧ handle.id ∈ db.mailboxIdsOf session.userId

/-- Nobody removes mailboxes: there may be new ones, and counters change. -/
def rules : Rules Db where
  sound db := Unique MailboxRow.id db.mailboxes
  later before after := before.mailboxes.map placeOf <+: after.mailboxes.map placeOf
  refl _ := List.prefix_refl _
  trans first second := first.trans second

/-- No section of a session touches a mailbox. -/
theorem exec_mailboxes (op : Section) (db : Db) :
    (op.exec db).2.mailboxes = db.mailboxes := by
  cases op with
  | _ => rfl

/-- What a session may do keeps the rules. -/
theorem lawful (session : Session) : rules.Lawful Section.exec (Allowed session) where
  sound {state op} sound _ := by
    have same := exec_mailboxes op state
    exact (congrArg (Unique MailboxRow.id) same).mpr sound
  later {state op} _ _ := by
    have same := exec_mailboxes op state
    exact (congrArg (fun rows => state.mailboxes.map placeOf <+: rows.map placeOf) same).mpr
      (List.prefix_refl _)

/-- The ids of a user's mailboxes do not depend on the counters. -/
theorem mailboxIdsOf_eq (db : Db) (userId : Nat) :
    db.mailboxIdsOf userId =
      ((db.mailboxes.map placeOf).filter fun box => decide (box.userId = userId)).map
        MailboxRow.id := by
  rw [Db.mailboxIdsOf, List.filter_map, List.map_map]
  rfl

/-- A mailbox of a user stays one. -/
theorem owned_later {before after : Db} (later : rules.later before after) {userId : Nat} :
    before.mailboxIdsOf userId ⊆ after.mailboxIdsOf userId := by
  rw [mailboxIdsOf_eq, mailboxIdsOf_eq]
  exact ((later.sublist.filter _).map _).subset

/-- Users share no mailbox. -/
theorem owned_once {db : Db} (sound : rules.sound db) {userId otherId mailboxId : Nat}
    (own : mailboxId ∈ db.mailboxIdsOf userId) (others : mailboxId ∈ db.mailboxIdsOf otherId) :
    otherId = userId := by
  obtain ⟨box, member, rfl⟩ := List.mem_map.mp own
  obtain ⟨same, inside, id⟩ := List.mem_map.mp others
  obtain ⟨member, owner⟩ := List.mem_filter.mp member
  obtain ⟨inside, sameOwner⟩ := List.mem_filter.mp inside
  rw [eq_of_unique sound inside member id] at sameOwner
  exact (of_decide_eq_true sameOwner).symm.trans (of_decide_eq_true owner)

/-! ## What a section does -/

variable {session : Session} {db : Db} {op : Section}

/-- Without a user a session changes nothing. -/
theorem exec_unauthenticated (allowed : Allowed session db op)
    (unknown : session.state = .notAuthenticated) : (op.exec db).2 = db := by
  cases op with
  | changeRow | expungeRows => exact absurd unknown allowed.1
  | _ => rfl

/-- A session changes messages of its own user only. -/
theorem exec_foreignKept (allowed : Allowed session db op) :
    ForeignKept session.userId db (op.exec db).2 := by
  have foreign {handle : Db.Handle} (own : handle.id ∈ db.mailboxIdsOf session.userId)
      {row : MessageRow} (others : (!isOwn db session.userId row) = true) :
      row.mailboxId ≠ handle.id := by
    intro same
    rw [isOwn, same, decide_eq_true own] at others
    cases others
  cases op with
  | changeRow handle messageId mask value =>
    refine ⟨rfl, rfl, rfl, rfl, rfl, ?_⟩
    refine (filter_update ?_ _).trans (update_eq_self (fun row member => ?_) _)
    · exact fun _ => rfl
    · exact decide_eq_false fun same =>
        foreign allowed.2 (List.mem_filter.mp member).2 (congrArg Prod.fst same)
  | expungeRows handle =>
    refine ⟨rfl, rfl, rfl, rfl, rfl, ?_⟩
    refine Deletion.filter_filter_keeps _ _ _ fun row _ others => ?_
    simp [Db.expunges, foreign allowed.2 others]
  | _ => exact foreignKept_refl _ _

/-! ## What a section sees -/

/-- Two stores look the same to a user: others may have other messages, mailboxes and transactions
there. -/
structure SameView (userId : Nat) (left right : Db) : Prop where
  /-- The users. -/
  users : right.users = left.users
  /-- The shares. -/
  shares : right.shares = left.shares
  /-- The user's mailboxes. -/
  mailboxes : (right.mailboxes.filter fun box => decide (box.userId = userId)) =
    left.mailboxes.filter fun box => decide (box.userId = userId)
  /-- The user's messages. -/
  messages : right.messages.filter (isOwn left userId) = left.messages.filter (isOwn left userId)
  /-- The transactions that are linked to them. -/
  transactions : ∀ row, isOwn left userId row = true → row ∈ left.messages →
    right.transactions.filter (Db.linked row) = left.transactions.filter (Db.linked row)

instance (userId : Nat) (left right : Db) : Decidable (SameView userId left right) :=
  decidable_of_iff
    (right.users = left.users ∧ right.shares = left.shares ∧
      (right.mailboxes.filter fun box => decide (box.userId = userId)) =
        (left.mailboxes.filter fun box => decide (box.userId = userId)) ∧
      right.messages.filter (isOwn left userId) = left.messages.filter (isOwn left userId) ∧
      ∀ row ∈ left.messages, isOwn left userId row = true →
        right.transactions.filter (Db.linked row) = left.transactions.filter (Db.linked row))
    ⟨fun same => ⟨same.1, same.2.1, same.2.2.1, same.2.2.2.1,
        fun row own member => same.2.2.2.2 row member own⟩,
      fun same => ⟨same.users, same.shares, same.mailboxes, same.messages,
        fun row member own => same.transactions row own member⟩⟩

variable {userId : Nat} {left right : Db}

/-- The user's mailbox is the same. -/
theorem SameView.mailboxNamed (same : SameView userId left right) (name : String) :
    right.mailboxNamed userId name = left.mailboxNamed userId name := by
  have narrow (db : Db) :
      (db.mailboxes.find? fun box => decide ((box.userId, box.name) = (userId, name))) =
        (db.mailboxes.filter fun box => decide (box.userId = userId)).find?
          fun box => decide ((box.userId, box.name) = (userId, name)) := by
    rw [List.find?_filter]
    congr 1
    funext box
    simp
  rw [Db.mailboxNamed, Db.mailboxNamed, narrow right, narrow left, same.mailboxes]

/-- Rows selected from the user's messages are the same. -/
theorem SameView.select (same : SameView userId left right) {selects : MessageRow → Bool}
    (own : ∀ row, selects row = true → isOwn left userId row = true) :
    right.messages.filter selects = left.messages.filter selects := by
  rw [← Deletion.filter_filter_keeps _ _ right.messages fun row _ => own row, same.messages,
    Deletion.filter_filter_keeps _ _ left.messages fun row _ => own row]

/-- The rows of the user's mailbox are the same, and so is what they are listed with. -/
theorem SameView.leftJoin (same : SameView userId left right) {mailboxId : Nat}
    (own : mailboxId ∈ left.mailboxIdsOf userId) (keeps : MessageRow → Bool) :
    Table.leftJoin Db.linked ((right.rowsIn mailboxId).filter keeps) right.transactions =
      Table.leftJoin Db.linked ((left.rowsIn mailboxId).filter keeps) left.transactions := by
  have inside : ∀ row : MessageRow, decide (row.mailboxId = mailboxId) = true →
      isOwn left userId row = true := fun row here => by
    rw [isOwn, of_decide_eq_true here]
    exact decide_eq_true own
  have rows : right.rowsIn mailboxId = left.rowsIn mailboxId := same.select inside
  rw [rows, Table.leftJoin, Table.leftJoin]
  refine List.flatMap_congr fun row member => ?_
  obtain ⟨stored, here⟩ := List.mem_filter.mp (List.mem_of_mem_filter member)
  rw [same.transactions row (inside row here) stored]

/-- A session sees messages of its own user only: from two stores that look the same to it a
section returns the same, and it leaves stores that do. Before a login nobody is its user. -/
theorem blind (own : session.state ≠ .notAuthenticated → session.userId = userId) :
    Blind Section.exec rules.sound (Allowed session) (SameView userId) := by
  intro left right op _ allowed same
  cases op with
  | getUser username =>
    refine ⟨?_, same⟩
    rw [Section.exec, Section.exec, Db.getUser, Db.getUser, same.users]
  | passwordHash username =>
    refine ⟨?_, same⟩
    rw [Section.exec, Section.exec, Db.passwordHash, Db.passwordHash, same.users]
  | getShares owner =>
    refine ⟨?_, same⟩
    rw [Section.exec, Section.exec, Db.getShares, Db.getShares, same.shares]
  | mailboxNamed owner name =>
    obtain ⟨known, rfl⟩ := allowed
    rw [own known]
    exact ⟨same.mailboxNamed name, same⟩
  | listRows handle =>
    obtain ⟨known, inside⟩ := allowed
    rw [own known] at inside
    have joined := same.leftJoin inside fun _ => true
    rw [List.filter_true, List.filter_true] at joined
    refine ⟨?_, same⟩
    rw [Section.exec, Section.exec, Db.listRows, Db.listRows, joined]
  | fetchRow handle messageId =>
    obtain ⟨known, inside⟩ := allowed
    rw [own known] at inside
    refine ⟨?_, same⟩
    rw [Section.exec, Section.exec, Db.fetchRow, Db.fetchRow, same.leftJoin inside]
  | changeRow handle messageId mask value =>
    have kept : ∀ row, isOwn left userId (Db.changeFlags mask value row) =
        isOwn left userId row := fun _ => rfl
    refine ⟨rfl, same.users, same.shares, same.mailboxes, ?_, fun row here member => ?_⟩
    · exact (filter_update kept _).trans
        ((congrArg _ same.messages).trans (filter_update kept _).symm)
    · obtain ⟨old, found, changed⟩ := mem_update.mp member
      have id : row.id = old.id ∧ row.mailboxId = old.mailboxId := by
        rw [changed]
        split
        · exact ⟨rfl, rfl⟩
        · exact ⟨rfl, rfl⟩
      have linked : Db.linked row = Db.linked old := by
        funext tx
        rw [Db.linked, Db.linked, id.1]
      have home : isOwn left userId old = true := by
        rw [isOwn, ← id.2]
        exact here
      have ledger := same.transactions old home found
      rw [← linked] at ledger
      exact ledger
  | expungeRows handle =>
    obtain ⟨known, inside⟩ := allowed
    rw [own known] at inside
    have expunged : right.messages.filter (Db.expunges handle.id) =
        left.messages.filter (Db.expunges handle.id) := by
      refine same.select fun row selected => ?_
      rw [Db.expunges, Bool.and_eq_true] at selected
      rw [isOwn, of_decide_eq_true selected.1]
      exact decide_eq_true inside
    refine ⟨?_, same.users, same.shares, same.mailboxes, ?_, fun row here member =>
      same.transactions row here (List.mem_of_mem_filter member)⟩
    · rw [Section.exec, Section.exec, Db.expungeRows, Db.expungeRows, expunged]
    · exact (List.filter_comm _ _ _).trans
        ((congrArg _ same.messages).trans (List.filter_comm _ _ _))

/-! ## Programs -/

/-- A program takes sections the session may take, and its result is as promised. -/
structure Safe {α : Type} (session : Session) (promise : α → Prop)
    (program : Mailstore.Sections α) : Prop where
  /-- From every sound store. -/
  keeps : ∀ db, rules.sound db →
    program.Keeps Section.exec rules (Allowed session) (fun value _ => promise value) db

variable {α β : Type} {promise : α → Prop}

/-- A result that is as promised. -/
theorem safe_pure {value : α} (met : promise value) :
    Safe session promise (pure value : Mailstore.Sections α) :=
  ⟨fun _ _ => keeps_pure fun _ _ _ => met⟩

/-- One program after the other, whatever the first one returns. -/
theorem Safe.bind {program : Mailstore.Sections α} {more : α → Mailstore.Sections β}
    {last : β → Prop} (first : Safe session promise program)
    (second : ∀ value, promise value → Safe session last (more value)) :
    Safe session last (program >>= more) :=
  ⟨fun db sound => (first.keeps db sound).bind (lawful session) sound fun value after sound met =>
    (second value met).keeps after sound⟩

/-- A safe program is safe with its result changed. -/
theorem Safe.map {program : Mailstore.Sections α} {last : β → Prop}
    (first : Safe session promise program) {change : α → β}
    (changes : ∀ value, promise value → last (change value)) :
    Safe session last (change <$> program) :=
  first.bind fun value met => safe_pure (changes value met)

/-- Nothing is promised. -/
abbrev Anything (_ : α) : Prop := True

/-- A section that reads users or shares. -/
theorem safe_enter (op : Section) (reads : ∀ db, Allowed session db op) :
    Safe session Anything (Sections.enter op) :=
  ⟨fun _ _ => keeps_one fun after _ _ => ⟨reads after, fun _ _ _ => trivial⟩⟩

/-- A mailbox of the user is looked up, and it is the user's in what follows. -/
theorem safe_inMailbox (known : session.state ≠ .notAuthenticated) (mailbox : String)
    {next : Db.Handle → Mailstore.Sections α}
    (each : ∀ handle db, rules.sound db → handle.id ∈ db.mailboxIdsOf session.userId →
      (next handle).Keeps Section.exec rules (Allowed session) (fun _ _ => True) db) :
    Safe session Anything (Sections.inMailbox session.userId mailbox next) := by
  refine ⟨fun db sound => ?_⟩
  have named : (Sections.mailboxNamed session.userId mailbox).Keeps Section.exec rules
      (Allowed session) (fun answer after => ∀ handle, answer = .ok handle →
        handle.id ∈ after.mailboxIdsOf session.userId) db := by
    refine keeps_one fun after _ _ => ⟨⟨known, rfl⟩, fun last later _ handle answered => ?_⟩
    exact owned_later later (own_of_named answered)
  refine named.bind (lawful session) sound fun answer after soundAfter owned => ?_
  cases answer with
  | error error => exact keeps_pure fun _ _ _ => trivial
  | ok handle =>
    exact (each handle after soundAfter (owned handle rfl)).bind (lawful session) soundAfter
      fun value last _ _ => keeps_pure fun _ _ _ => trivial

/-- A section on a mailbox of the user. -/
theorem keeps_inside (known : session.state ≠ .notAuthenticated) {op : Section}
    {handle : Db.Handle} {db : Db} (own : handle.id ∈ db.mailboxIdsOf session.userId)
    (inside : ∀ after, Allowed session after op ↔
      session.state ≠ .notAuthenticated ∧ handle.id ∈ after.mailboxIdsOf session.userId) :
    (Sections.enter op).Keeps Section.exec rules (Allowed session) (fun _ _ => True) db :=
  keeps_one fun after later _ =>
    ⟨(inside after).mpr ⟨known, owned_later later own⟩, fun _ _ _ => trivial⟩

/-! ## The functions of the store -/

/-- A listing of a mailbox of the user. -/
theorem safe_listMessagesIn (known : session.state ≠ .notAuthenticated) (mailbox : String) :
    Safe session Anything (Sections.listMessagesIn session.userId mailbox) :=
  safe_inMailbox known mailbox fun _ _ _ own => keeps_inside known own fun _ => Iff.rfl

/-- The counter of a mailbox of the user. -/
theorem safe_uidnextIn (known : session.state ≠ .notAuthenticated) (mailbox : String) :
    Safe session Anything (Sections.uidnextIn session.userId mailbox) :=
  safe_inMailbox known mailbox fun _ _ _ _ => keeps_pure fun _ _ _ => trivial

/-- A message of a mailbox of the user. -/
theorem safe_fetchMessageIn (known : session.state ≠ .notAuthenticated) (mailbox : String)
    (messageId : Nat) :
    Safe session Anything (Sections.fetchMessageIn session.userId mailbox messageId) := by
  refine Safe.bind (safe_inMailbox known mailbox fun _ _ _ own =>
    keeps_inside known own fun _ => Iff.rfl) fun found _ => ?_
  cases found with
  | error error => exact safe_pure trivial
  | ok found => exact safe_pure trivial

/-- Flags of a message in a mailbox of the user. -/
theorem safe_setFlagsIn (known : session.state ≠ .notAuthenticated) (mailbox : String)
    (messageId : Nat) (mask : UInt32) (value : Bool) :
    Safe session Anything (Sections.setFlagsIn session.userId mailbox messageId mask value) :=
  safe_inMailbox known mailbox fun _ _ _ own => keeps_inside known own fun _ => Iff.rfl

/-- An expunge of a mailbox of the user. -/
theorem safe_expungeIn (known : session.state ≠ .notAuthenticated) (mailbox : String) :
    Safe session Anything (Sections.expungeIn session.userId mailbox) :=
  safe_inMailbox known mailbox fun _ _ _ own => keeps_inside known own fun _ => Iff.rfl

/-! ## Commands -/

variable (env : Environment) (cmd : ParsedCommand)

/-- What a command does to its session: a user is kept, and comes with a login that is answered
OK. -/
structure Follows (session : Session) (cmd : ParsedCommand) (result : List Reply × Session) :
    Prop where
  /-- A user is kept. -/
  kept : session.state ≠ .notAuthenticated →
    result.2.state ≠ .notAuthenticated ∧ result.2.userId = session.userId
  /-- It comes with a login. -/
  login : session.state = .notAuthenticated → result.2.state ≠ .notAuthenticated →
    cmd.name ∈ ["LOGIN", "AUTHENTICATE"] ∧ ∃ text, result.1 = [.tagged cmd.tag .ok text]

/-- A session that is left as it is. -/
theorem follows_same (replies : List Reply) : Follows session cmd (replies, session) :=
  ⟨fun known => ⟨known, rfl⟩, fun unknown known => absurd unknown known⟩

/-- An app password is looked up among the shares. -/
theorem safe_acceptsShare (user : User) (password : String) :
    Safe session Anything (Sections.acceptsShare env user password) := by
  unfold Sections.acceptsShare
  split
  · exact safe_pure trivial
  · split
    · exact Safe.map (safe_enter (.getShares user.id) fun _ => trivial) fun _ _ => trivial
    · exact safe_pure trivial

/-- A password is looked up among the users. -/
theorem safe_acceptsPassword (authMode : AuthMode) (name password : String) :
    Safe session Anything (Sections.acceptsPassword env authMode name password) := by
  cases authMode with
  | localAuth => exact safe_pure trivial
  | database =>
    refine Safe.bind (safe_enter (.passwordHash name) fun _ => trivial) fun found _ => ?_
    cases found with
    | none => exact safe_pure trivial
    | some hash => exact safe_pure trivial

/-- A login reads users and shares. -/
theorem safe_login (named : cmd.name ∈ ["LOGIN", "AUTHENTICATE"])
    (unknown : session.state = .notAuthenticated) (username password : String) :
    Safe session (Follows session cmd) (Sections.login env session cmd.tag username password) := by
  have entered (user : User) (text : String) :
      Follows session cmd ([.tagged cmd.tag .ok text], session.loggedIn user) :=
    ⟨fun known => absurd unknown known, fun _ _ => ⟨named, text, rfl⟩⟩
  unfold Sections.login
  split
  · exact safe_pure (follows_same cmd _)
  · refine Safe.bind (safe_enter (.getUser _) fun _ => trivial) fun found _ => ?_
    cases found with
    | none => exact safe_pure (follows_same cmd _)
    | some user =>
      dsimp only
      split
      · refine Safe.bind (safe_acceptsShare env user password) fun accepted _ => ?_
        split
        · exact safe_pure (entered user _)
        · exact safe_pure (follows_same cmd _)
      · refine Safe.bind (safe_acceptsPassword env _ _ password) fun accepted _ => ?_
        split
        · exact safe_pure (entered user _)
        · exact safe_pure (follows_same cmd _)

/-- An authentication reads users and shares. -/
theorem safe_cmdAuth (named : cmd.name ∈ ["LOGIN", "AUTHENTICATE"]) :
    Safe session (Follows session cmd) (Sections.cmdAuth env session cmd) := by
  unfold Sections.cmdAuth
  split
  · exact safe_pure (follows_same cmd _)
  · rename_i unknown
    have fresh : session.state = .notAuthenticated := Decidable.of_not_not unknown
    have login (username password : String) : Safe session (Follows session cmd)
        (Sections.login env session cmd.tag username password) :=
      safe_login env cmd named fresh username password
    have refused (text : String) : Safe session (Follows session cmd)
        (pure ([.tagged cmd.tag .bad text], session)) := safe_pure (follows_same cmd _)
    split
    · rcases cmd.args with _ | ⟨mechanism, _ | ⟨token, _ | ⟨more, rest⟩⟩⟩
      · exact refused _
      · exact refused _
      · dsimp only
        split
        · cases Base64.decode token with
          | none => exact refused _
          | some token =>
            dsimp only
            rcases token.splitOn 0 with
              _ | ⟨name, _ | ⟨username, _ | ⟨password, _ | ⟨more, rest⟩⟩⟩⟩
            · exact refused _
            · exact refused _
            · exact refused _
            · exact login _ _
            · exact refused _
        · exact refused _
      · exact refused _
    · rcases cmd.args with _ | ⟨username, _ | ⟨password, _ | ⟨more, rest⟩⟩⟩
      · exact refused _
      · exact refused _
      · exact login _ _
      · exact refused _

/-- A selection reads a mailbox of the user. -/
theorem safe_cmdSelect :
    Safe session (Follows session cmd) (Sections.cmdSelect env session cmd) := by
  unfold Sections.cmdSelect
  split
  · exact safe_pure (follows_same cmd _)
  · rename_i known
    split
    · exact safe_pure (follows_same cmd _)
    · refine Safe.bind (safe_listMessagesIn known _) fun listed _ => ?_
      cases listed with
      | error error => exact safe_pure (follows_same cmd _)
      | ok messages =>
        refine Safe.bind (safe_uidnextIn known _) fun uidnext _ => safe_pure ?_
        exact ⟨fun _ => ⟨nofun, rfl⟩, fun unknown => absurd unknown known⟩

/-- A status reads a mailbox of the user. -/
theorem safe_cmdStatus : Safe session Anything (Sections.cmdStatus env session cmd) := by
  unfold Sections.cmdStatus
  split
  · exact safe_pure trivial
  · rename_i known
    split
    · exact safe_pure trivial
    · refine Safe.bind (safe_listMessagesIn known _) fun listed _ => ?_
      cases listed with
      | error error => exact safe_pure trivial
      | ok messages => exact Safe.bind (safe_uidnextIn known _) fun _ _ => safe_pure trivial

/-- The responses for messages read messages of the user. -/
theorem safe_fetchMessages (known : session.state ≠ .notAuthenticated) (range : String)
    (req : FetchRequest) (count : UInt32) (messages : List MessageMeta) :
    Safe session Anything (Sections.fetchMessages env session range req count messages) := by
  induction messages with
  | nil => exact safe_pure trivial
  | cons info rest ih =>
    rw [Sections.fetchMessages]
    split
    · have body : Safe session Anything (Sections.neededBody session req info.id) := by
        unfold Sections.neededBody
        split
        · exact Safe.map (safe_fetchMessageIn known _ _) fun _ _ => trivial
        · exact safe_pure trivial
      refine body.bind fun found _ => ?_
      cases found with
      | error error => exact safe_pure trivial
      | ok body => exact ih.map fun _ _ => trivial
    · exact ih

/-- A session with a mailbox has a user. -/
theorem known_of_selected (selected : ¬ session.state ≠ .selected) :
    session.state ≠ .notAuthenticated := by
  rw [Decidable.of_not_not selected]
  exact nofun

/-- A fetch reads messages of the user. -/
theorem safe_cmdFetch : Safe session Anything (Sections.cmdFetch env session cmd) := by
  unfold Sections.cmdFetch
  split
  · exact safe_pure trivial
  · rename_i selected
    have known := known_of_selected selected
    split
    · exact safe_pure trivial
    · refine Safe.bind (safe_listMessagesIn known _) fun listed _ => ?_
      cases listed with
      | error error => exact safe_pure trivial
      | ok messages =>
        refine Safe.bind (safe_fetchMessages env known _ _ _ _) fun fetched _ => ?_
        cases fetched with
        | error error => exact safe_pure trivial
        | ok replies => exact safe_pure trivial

/-- Changes of flags are made to messages of the user. -/
theorem safe_storeMessages (known : session.state ≠ .notAuthenticated) (range : String)
    (mask : UInt32) (value : Bool) (count : UInt32) (messages : List MessageMeta) :
    Safe session Anything (Sections.storeMessages session range mask value count messages) := by
  induction messages with
  | nil => exact safe_pure trivial
  | cons info rest ih =>
    rw [Sections.storeMessages]
    split
    · refine Safe.bind (safe_setFlagsIn known _ _ _ _) fun changed _ => ?_
      cases changed with
      | error error => exact safe_pure trivial
      | ok => exact ih.map fun _ _ => trivial
    · exact ih

/-- A store command reads and changes messages of the user. -/
theorem safe_cmdStore : Safe session Anything (Sections.cmdStore env session cmd) := by
  unfold Sections.cmdStore
  split
  · exact safe_pure trivial
  · rename_i selected
    have known := known_of_selected selected
    split
    · exact safe_pure trivial
    · refine Safe.bind (safe_listMessagesIn known _) fun listed _ => ?_
      cases listed with
      | error error => exact safe_pure trivial
      | ok messages =>
        dsimp only
        split
        · exact safe_pure trivial
        · refine Safe.bind (safe_storeMessages known _ _ _ _ _) fun changed _ => ?_
          cases changed with
          | error error => exact safe_pure trivial
          | ok replies => exact safe_pure trivial

/-- A search reads messages of the user. -/
theorem safe_cmdSearch : Safe session Anything (Sections.cmdSearch env session cmd) := by
  unfold Sections.cmdSearch
  split
  · exact safe_pure trivial
  · rename_i selected
    refine Safe.bind (safe_listMessagesIn (known_of_selected selected) _) fun listed _ => ?_
    cases listed with
    | error error => exact safe_pure trivial
    | ok messages => exact safe_pure trivial

/-- A UID command reads and changes messages of the user. -/
theorem safe_cmdUid : Safe session Anything (Sections.cmdUid env session cmd) := by
  unfold Sections.cmdUid
  split
  · exact safe_pure trivial
  · split
    · exact safe_pure trivial
    · split
      · exact safe_cmdFetch env cmd
      · exact safe_cmdStore env cmd
      · exact safe_cmdSearch env cmd
      · exact safe_pure trivial

/-- An expunge is of messages of the user. -/
theorem safe_cmdExpunge (tag : String) :
    Safe session Anything (Sections.cmdExpunge env session tag) := by
  unfold Sections.cmdExpunge
  split
  · exact safe_pure trivial
  · rename_i selected
    refine Safe.bind (safe_expungeIn (known_of_selected selected) _) fun done _ => ?_
    cases done with
    | error error => exact safe_pure trivial
    | ok uids => exact safe_pure trivial

/-- A close expunges messages of the user. -/
theorem safe_cmdClose (tag : String) :
    Safe session (Follows session cmd) (Sections.cmdClose env session tag) := by
  unfold Sections.cmdClose
  split
  · exact safe_pure (follows_same cmd _)
  · rename_i selected
    have known := known_of_selected selected
    refine Safe.bind (safe_expungeIn known _) fun done _ => ?_
    cases done with
    | error error => exact safe_pure (follows_same cmd _)
    | ok uids =>
      exact safe_pure ⟨fun _ => ⟨nofun, rfl⟩, fun unknown => absurd unknown known⟩

/-- A command that leaves the session. -/
theorem safe_staying {replies : Mailstore.Sections (List Reply)}
    (safe : Safe session Anything replies) :
    Safe session (Follows session cmd) (Sections.staying session replies) :=
  safe.map fun _ _ => follows_same cmd _

/-- Every command takes sections that its session may take. -/
theorem safe_handle : Safe session (Follows session cmd) (Sections.handle env session cmd) := by
  unfold Sections.handle
  split
  case h_4 named => exact safe_cmdAuth env cmd (by rw [named]; exact List.mem_cons_self)
  case h_5 named =>
    exact safe_cmdAuth env cmd (by rw [named]; exact List.mem_cons_of_mem _ List.mem_cons_self)
  case h_6 => exact safe_cmdSelect env cmd
  case h_7 => exact safe_cmdSelect env cmd
  case h_10 => exact safe_staying cmd (safe_cmdStatus env cmd)
  case h_11 => exact safe_staying cmd (safe_cmdFetch env cmd)
  case h_12 => exact safe_staying cmd (safe_cmdUid env cmd)
  case h_13 => exact safe_staying cmd (safe_cmdStore env cmd)
  case h_14 => exact safe_staying cmd (safe_cmdSearch env cmd)
  case h_15 => exact safe_staying cmd (safe_cmdExpunge env cmd.tag)
  case h_16 => exact safe_cmdClose env cmd cmd.tag
  case h_18 =>
    split
    · exact safe_pure (follows_same cmd _)
    · exact safe_pure (follows_same cmd _)
  all_goals exact safe_pure (follows_same cmd _)

end Talk.Verif.SectionSteps
