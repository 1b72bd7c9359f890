import Talk.Daemon.Parties
import Talk.Verif.SectionSteps
import Talk.Verif.StoreCalls

/-!
# IMAP sessions at once

Connections, deliveries and administration take their sections in any order. A connection takes none
that its session may not take, whatever the others do between its own: so the messages of a user
stay until a connection has logged in as this user, and what a connection is told depends on its
own user's messages at its own turns.
-/

namespace Talk.Verif.ParallelSessions

open Daemon Imap Interleaving Isolation Mailstore SectionSteps StoreCalls StoreSteps Table
open Transition
open ImapSteps (groupEnvironment)
open ParallelDeliveries (placeOf)

/-! ## What the others do -/

/-- Messages and mailboxes are added. -/
structure Extends (before after : Db) : Prop where
  /-- Messages. -/
  messages : before.messages <+: after.messages
  /-- Mailboxes. -/
  later : rules.later before after
  /-- Their ids are unique. -/
  sound : rules.sound before → rules.sound after

/-- A change of other tables extends the store. -/
theorem extends_of_eq {before after : Db} (messages : after.messages = before.messages)
    (mailboxes : after.mailboxes = before.mailboxes) : Extends before after := by
  refine ⟨?_, ?_, fun sound => ?_⟩
  · rw [messages]
  · exact (congrArg (fun rows => before.mailboxes.map placeOf <+: rows.map placeOf)
      mailboxes).mpr (List.prefix_refl _)
  · exact (congrArg (Unique MailboxRow.id) mailboxes).mpr sound

/-- A store extends itself. -/
theorem extends_refl (db : Db) : Extends db db := extends_of_eq rfl rfl

/-- A message that is added extends the store. -/
theorem extends_inserted (db : Db) (handle : Db.Handle) (msg : NewMessage) (now : Int64) :
    Extends db (db.inserted handle msg now) := by
  have counted : ∀ box : MailboxRow,
      placeOf { box with uidnext := box.uidnext + 1 } = placeOf box := fun _ => rfl
  have places : (db.inserted handle msg now).mailboxes.map placeOf = db.mailboxes.map placeOf :=
    map_update counted _ _
  refine ⟨List.prefix_append _ _, ?_, fun sound => unique_update sound _ fun _ => rfl⟩
  exact (congrArg (db.mailboxes.map placeOf <+: ·) places).mpr (List.prefix_refl _)

/-- A mailbox that is added extends the store. -/
theorem extends_insertMailbox (db : Db) (userId : Nat) (name : String) (uidvalidity : UInt32) :
    Extends db (db.insertMailbox userId name uidvalidity) := by
  refine ⟨List.prefix_refl _, ?_, fun sound => unique_insert sound (nextId_fresh _ _)⟩
  exact (List.prefix_append db.mailboxes _).map placeOf

/-- One extension after the other is one. -/
theorem Extends.trans {before middle after : Db} (first : Extends before middle)
    (second : Extends middle after) : Extends before after :=
  ⟨first.messages.trans second.messages, rules.trans first.later second.later,
    fun sound => second.sound (first.sound sound)⟩

/-- A message is added, or refused. -/
theorem extends_insertMessage (db : Db) (handle : Db.Handle) (msg : NewMessage) (now : Int64) :
    Extends db (db.insertMessage handle msg now).2 := by
  rcases insertMessage_cases db handle msg now with ⟨-, same⟩ | ⟨-, -, same⟩ | ⟨-, -, stored⟩
  · rw [same]
    exact extends_refl db
  · rw [same]
    exact extends_refl db
  · rw [stored]
    exact extends_inserted db handle msg now

/-- A transaction is added, or refused. -/
theorem extends_txCreate (db : Db) (new : NewTransaction) (now : Int64) :
    Extends db (db.txCreate new now).2 := by
  rcases txCreate_cases db new now with ⟨-, same⟩ | ⟨-, created⟩
  · rw [same]
    exact extends_refl db
  · rw [created]
    exact extends_of_eq rfl rfl

/-- A section of a delivery adds a message at most. -/
theorem delivery_extends (job : Job) (db : Db) (phase : Phase) :
    Extends db (job.next db phase).1 := by
  cases phase with
  | start =>
    rw [Job.next]
    split
    · exact extends_refl db
    · exact extends_refl db
  | found user => exact extends_refl db
  | labelled user trust =>
    rw [Job.next]
    split
    · exact extends_refl db
    · exact extends_refl db
  | named handle trust =>
    have inserted := extends_insertMessage db handle (job.message trust) job.now
    rw [Job.next]
    generalize db.insertMessage handle (job.message trust) job.now = result at inserted
    obtain ⟨answer, after⟩ := result
    cases answer with
    | ok info => exact inserted
    | error error =>
      cases error with
      | _ => exact inserted
  | stored info =>
    have created := extends_txCreate db
      (inboundTx job.sender job.recipient job.amount job.messageId) job.now
    rw [Job.next]
    generalize db.txCreate (inboundTx job.sender job.recipient job.amount job.messageId)
      job.now = result at created
    obtain ⟨answer, after⟩ := result
    cases answer with
    | ok tx => exact created
    | error error => exact created
  | created info tx => exact extends_of_eq rfl rfl
  | done outcome => exact extends_refl db

/-- A change of a user's row. -/
theorem extends_updateUser (db : Db) (username : String) (change : UserRow → UserRow) :
    Extends db (db.updateUser username change).2 := by
  unfold Db.updateUser
  dsimp only
  split
  · exact extends_of_eq rfl rfl
  · exact extends_refl db

/-- A change of a transaction extends the store. -/
theorem extends_txUpdateFound (db : Db) (id : Nat) (change : Transaction → Transaction) :
    Extends db (db.txUpdateFound id change).2 := by
  rw [txUpdateFound_snd]
  exact extends_of_eq rfl rfl

/-- A new user, with its mailboxes. -/
theorem extends_createUserFull (db : Db) (username passwordHash : String)
    (masterPubkey : List UInt8) (ivkCommitment registrationAttestation : Option String)
    (now : Int64) :
    Extends db (db.createUserFull username passwordHash masterPubkey ivkCommitment
      registrationAttestation now).2 := by
  unfold Db.createUserFull
  split
  · exact extends_refl db
  · dsimp only
    refine Extends.trans ?_ (extends_insertMailbox _ _ _ _)
    refine Extends.trans ?_ (extends_insertMailbox _ _ _ _)
    exact extends_of_eq rfl rfl

/-- Administration adds users, their mailboxes and messages at most. -/
theorem administration_extends (db : Db) (administration : Administration) :
    Extends db (administration.apply db) := by
  obtain ⟨call, harmless⟩ := administration
  rw [Administration.apply]
  cases call with
  | deleteUser | setFlagsIn | expungeIn => cases harmless
  | createUserFull => exact extends_createUserFull ..
  | setPassword => exact extends_updateUser ..
  | setIvk => exact extends_updateUser ..
  | txCreate => exact extends_txCreate ..
  | txLinkMessage => exact extends_of_eq rfl rfl
  | txTransition => exact extends_txUpdateFound ..
  | txSetBinding => exact extends_txUpdateFound ..
  | keyringSetTrusted =>
    rw [Db.perform, Db.keyringSetTrusted]
    split
    · exact extends_of_eq rfl rfl
    · split
      · exact extends_of_eq rfl rfl
      · exact extends_refl db
  | unpinKeyring =>
    rw [Db.perform, Db.unpinKeyring]
    dsimp only
    split
    · exact extends_of_eq rfl rfl
    · exact extends_refl db
  | appendMessageTo =>
    rw [Db.perform, Db.appendMessageTo]
    split
    · exact extends_refl db
    · exact extends_insertMessage ..
  | addShare =>
    rw [Db.perform, Db.addShare]
    split
    · exact extends_refl db
    · split
      · exact extends_of_eq rfl rfl
      · exact extends_refl db
  | revokeShare =>
    rw [Db.perform, Db.revokeShare]
    split
    · exact extends_of_eq rfl rfl
    · exact extends_refl db

/-! ## Connections -/

/-- A session has logged in, and the connection has been told so. -/
def Welcomed (client : Client) : Prop :=
  client.session.state ≠ .notAuthenticated → ∃ cmd text,
    (cmd, [Reply.tagged cmd.tag .ok text]) ∈ client.answered ∧
      cmd.name ∈ ["LOGIN", "AUTHENTICATE"]

/-- What is left of a command takes sections its session may take. -/
def Runs (db : Db) (client : Client) : Prop :=
  ∀ cmd program, client.running = some (cmd, program) →
    program.Keeps Section.exec rules (Allowed client.session)
      (fun result _ => Follows client.session cmd result) db

/-- What holds of a party. -/
def Good (db : Db) : Party → Prop
  | .client client => Runs db client ∧ Welcomed client
  | .delivery _ => True

/-- A connection takes a section that its session may take, or none. -/
theorem client_step_cases (env : Environment) {db : Db} (sound : rules.sound db) {client : Client}
    (runs : Runs db client) :
    (client.step env db).1 = db ∨ ∃ op, Allowed client.session db op ∧
      (client.step env db).1 = (op.exec db).2 := by
  unfold Client.step
  cases running : client.running with
  | none =>
    cases client.waiting with
    | nil => exact .inl rfl
    | cons cmd waiting => exact .inl rfl
  | some current =>
    obtain ⟨cmd, program⟩ := current
    cases program with
    | done result => exact .inl rfl
    | ask op next => exact .inr ⟨op, (runs cmd _ running db (rules.refl db) sound).1, rfl⟩

/-- A connection keeps its user, once it has one. -/
theorem client_step_user (env : Environment) {db : Db} (sound : rules.sound db) {client : Client}
    (runs : Runs db client) (known : client.session.state ≠ .notAuthenticated) :
    (client.step env db).2.session.state ≠ .notAuthenticated ∧
      (client.step env db).2.session.userId = client.session.userId := by
  unfold Client.step
  cases running : client.running with
  | none =>
    cases client.waiting with
    | nil => exact ⟨known, rfl⟩
    | cons cmd waiting => exact ⟨known, rfl⟩
  | some current =>
    obtain ⟨cmd, program⟩ := current
    cases program with
    | done result => exact (runs cmd _ running db (rules.refl db) sound).kept known
    | ask op next => exact ⟨known, rfl⟩

/-- A connection goes on as its session may, and is told when it has logged in. -/
theorem client_step_good (env : Environment) {db : Db} (sound : rules.sound db) {client : Client}
    (runs : Runs db client) (welcomed : Welcomed client) :
    Runs (client.step env db).1 (client.step env db).2 ∧ Welcomed (client.step env db).2 := by
  unfold Client.step
  cases running : client.running with
  | none =>
    cases client.waiting with
    | nil => exact ⟨runs, welcomed⟩
    | cons cmd waiting =>
      refine ⟨fun other program same => ?_, welcomed⟩
      obtain ⟨rfl, rfl⟩ := Prod.mk.inj (Option.some.inj same)
      exact (safe_handle env cmd).keeps db sound
  | some current =>
    obtain ⟨cmd, program⟩ := current
    have kept := runs cmd _ running
    cases program with
    | ask op next =>
      refine ⟨fun other program same => ?_, welcomed⟩
      obtain ⟨rfl, rfl⟩ := Prod.mk.inj (Option.some.inj same)
      exact (kept db (rules.refl db) sound).2
    | done result =>
      have follows : Follows client.session cmd result := kept db (rules.refl db) sound
      refine ⟨fun other program same => (by cases same), fun known => ?_⟩
      by_cases unknown : client.session.state = .notAuthenticated
      · obtain ⟨named, text, replies⟩ := follows.login unknown known
        refine ⟨cmd, text, List.mem_append_right _ ?_, named⟩
        rw [← replies]
        exact List.mem_singleton_self _
      · obtain ⟨other, text, answered, named⟩ := welcomed unknown
        exact ⟨other, text, List.mem_append_left _ answered, named⟩

/-- What parties may do, they may do whatever the others do. -/
theorem discipline (env : Environment) :
    Discipline (Party.step env) Administration.apply rules.sound rules.later Good where
  stepped {state place} sound good := by
    cases place with
    | delivery thread =>
      have added := delivery_extends thread.job state thread.phase
      exact ⟨added.sound sound, added.later, trivial⟩
    | client client =>
      have next := client_step_good env sound good.1 good.2
      rcases client_step_cases env sound good.1 with same | ⟨op, allowed, done⟩
      · have still : (Party.step env state (.client client)).1 = state := same
        rw [still]
        rw [same] at next
        exact ⟨sound, rules.refl state, next⟩
      · have after : (Party.step env state (.client client)).1 = (op.exec state).2 := done
        rw [after]
        rw [done] at next
        exact ⟨(lawful client.session).sound sound allowed,
          (lawful client.session).later sound allowed, next⟩
  disturbed {state} administration sound := by
    have added := administration_extends state administration
    exact ⟨added.sound sound, added.later⟩
  stable {state after place} later good := by
    cases place with
    | delivery thread => trivial
    | client client =>
      exact ⟨fun cmd program running => (good.1 cmd program running).stable later, good.2⟩

/-- Parties that arrive at a store whose mailboxes are told apart. -/
theorem arrived_good {db : Db} (sound : rules.sound db) (visitors : List Visitor)
    (jobs : List Job) : (arrived db visitors jobs).Good rules.sound Good := by
  refine ⟨sound, fun place member => ?_⟩
  rcases List.mem_append.mp member with connects | delivers
  · obtain ⟨visitor, -, rfl⟩ := List.mem_map.mp connects
    exact ⟨fun cmd program running => (by cases running), fun known => absurd rfl known⟩
  · obtain ⟨job, -, rfl⟩ := List.mem_map.mp delivers
    trivial

/-! ## The messages of a user -/

/-- The messages in some mailboxes. -/
def messagesIn (mailboxIds : List Nat) (db : Db) : List MessageRow :=
  db.messages.filter fun row => decide (row.mailboxId ∈ mailboxIds)

/-- A connection has logged in as a user. -/
def IsUser (userId : Nat) : Party → Prop
  | .client client => client.session.state ≠ .notAuthenticated ∧ client.session.userId = userId
  | .delivery _ => False

/-- A party that is not the user's adds to its messages at most. -/
theorem party_step_adds (env : Environment) {db : Db} (sound : rules.sound db) {party : Party}
    (good : Good db party) {userId : Nat} (stranger : ¬ IsUser userId party)
    {mailboxIds : List Nat} (own : mailboxIds ⊆ db.mailboxIdsOf userId) :
    messagesIn mailboxIds db <+: messagesIn mailboxIds (party.step env db).1 := by
  cases party with
  | delivery thread => exact (delivery_extends thread.job db thread.phase).messages.filter _
  | client client =>
    rcases client_step_cases env sound good.1 with same | ⟨op, allowed, done⟩
    · have still : (Party.step env db (.client client)).1 = db := same
      rw [still]
    · have after : (Party.step env db (.client client)).1 = (op.exec db).2 := done
      rw [after]
      by_cases unknown : client.session.state = .notAuthenticated
      · rw [exec_unauthenticated allowed unknown]
      · have foreign : ∀ row : MessageRow, decide (row.mailboxId ∈ mailboxIds) = true →
            (!isOwn db client.session.userId row) = true := by
          intro row inside
          have theirs := own (of_decide_eq_true inside)
          have other : row.mailboxId ∉ db.mailboxIdsOf client.session.userId := fun shared =>
            stranger ⟨unknown, owned_once sound theirs shared⟩
          rw [isOwn, decide_eq_false other, Bool.not_false]
        have kept := (exec_foreignKept allowed).messages
        rw [messagesIn, messagesIn,
          ← Deletion.filter_filter_keeps _ _ (op.exec db).2.messages fun row _ => foreign row, kept,
          Deletion.filter_filter_keeps _ _ db.messages fun row _ => foreign row]

/-- A connection that has logged in as a user stays with it. -/
theorem isUser_step (env : Environment) {db : Db} (sound : rules.sound db) {party : Party}
    (good : Good db party) {userId : Nat} (user : IsUser userId party) :
    IsUser userId (party.step env db).2 := by
  cases party with
  | delivery thread => exact user
  | client client =>
    obtain ⟨known, same⟩ := client_step_user env sound good.1 user.1
    exact ⟨known, same.trans user.2⟩

variable {env : Environment}

/-- Connections of a user stay so, in an event. -/
theorem take_users {pool : Pool Db Party} (known : pool.Good rules.sound Good)
    (event : Event Administration) {userId : Nat}
    (strangers : ∀ party ∈ (pool.take (Party.step env) Administration.apply event).threads,
      ¬ IsUser userId party) : ∀ party ∈ pool.threads, ¬ IsUser userId party := by
  intro party member user
  obtain ⟨thread, there⟩ := List.mem_iff_getElem?.mp member
  rcases take_thread (Party.step env) Administration.apply there event with
    ⟨-, after⟩ | ⟨-, after⟩
  · exact strangers _ (List.mem_of_getElem? after)
      (isUser_step env known.1 (known.2 party member) user)
  · exact strangers party (List.mem_of_getElem? after) user

/-- An event among parties that are not a user's adds to its messages at most, and leaves its
mailboxes. -/
theorem take_adds {pool : Pool Db Party} (known : pool.Good rules.sound Good)
    (event : Event Administration) {userId : Nat}
    (strangers : ∀ party ∈ pool.threads, ¬ IsUser userId party)
    {mailboxIds : List Nat} (own : mailboxIds ⊆ pool.shared.mailboxIdsOf userId) :
    messagesIn mailboxIds pool.shared <+:
        messagesIn mailboxIds (pool.take (Party.step env) Administration.apply event).shared ∧
      mailboxIds ⊆
        (pool.take (Party.step env) Administration.apply event).shared.mailboxIdsOf userId := by
  rcases take_cases (Party.step env) Administration.apply pool event with
    ⟨thread, party, there, -, after⟩ | ⟨administration, -, after⟩ | after
  · have member := List.mem_of_getElem? there
    rw [after]
    have kept := (discipline env).stepped known.1 (known.2 party member)
    exact ⟨party_step_adds env known.1 (known.2 party member) (strangers party member) own,
      List.Subset.trans own (owned_later kept.2.1)⟩
  · rw [after]
    have added := administration_extends pool.shared administration
    exact ⟨added.messages.filter _, List.Subset.trans own (owned_later added.later)⟩
  · rw [after]
    exact ⟨List.prefix_refl _, own⟩

/-- Connections that are not a user's in the end never were. -/
theorem runParties_users {pool : Pool Db Party} (known : pool.Good rules.sound Good)
    (events : List (Event Administration)) {userId : Nat}
    (strangers : ∀ party ∈ (runParties env pool events).threads, ¬ IsUser userId party) :
    ∀ party ∈ pool.threads, ¬ IsUser userId party := by
  induction events generalizing pool with
  | nil => exact strangers
  | cons event events ih =>
    exact take_users known event (ih ((discipline env).take known event) strangers)

/-- Events among parties that are not a user's add to its messages at most. -/
theorem runParties_adds {pool : Pool Db Party} (known : pool.Good rules.sound Good)
    (events : List (Event Administration)) {userId : Nat}
    (strangers : ∀ party ∈ (runParties env pool events).threads, ¬ IsUser userId party)
    {mailboxIds : List Nat} (own : mailboxIds ⊆ pool.shared.mailboxIdsOf userId) :
    messagesIn mailboxIds pool.shared <+:
      messagesIn mailboxIds (runParties env pool events).shared := by
  induction events generalizing pool with
  | nil => exact List.prefix_refl _
  | cons event events ih =>
    have kept := (discipline env).take known event
    have before := take_users known event (runParties_users kept events strangers)
    obtain ⟨added, still⟩ := take_adds known event before own
    exact added.trans (ih kept strangers still)

/-- The messages of a user stay as they are, and new ones come behind them, unless a connection has
been told that it has logged in as this user: however the sections of connections and deliveries
interleave, and whatever is administered between them. -/
theorem messages_stay_or_user_came (env : Environment) (calls : List StoreCall)
    (visitors : List Visitor) (jobs : List Job) (events : List (Event Administration))
    (userId : Nat) :
    let start := run Db.perform .empty calls
    let pool := runParties env (arrived start visitors jobs) events
    messagesIn (start.mailboxIdsOf userId) start <+:
        messagesIn (start.mailboxIdsOf userId) pool.shared ∨
      ∃ client, .client client ∈ pool.threads ∧ client.session.userId = userId ∧
        ∃ cmd text, (cmd, [Reply.tagged cmd.tag .ok text]) ∈ client.answered ∧
          cmd.name ∈ ["LOGIN", "AUTHENTICATE"] := by
  have sound : rules.sound (run Db.perform .empty calls) :=
    (intact_run intact_empty calls).keyed.mailboxIds
  have known := arrived_good sound visitors jobs
  dsimp only
  by_cases strangers : ∀ party ∈ (runParties env (arrived (run Db.perform .empty calls) visitors
      jobs) events).threads, ¬ IsUser userId party
  · exact .inl (runParties_adds known events strangers (List.Subset.refl _))
  · obtain ⟨party, member, user⟩ := by simpa using strangers
    have good := ((discipline env).run known events).2 party member
    cases party with
    | delivery thread => exact user.elim
    | client client =>
      obtain ⟨cmd, text, answered, named⟩ := good.2 user.1
      exact .inr ⟨client, member, user.2, cmd, text, answered, named⟩

/-! ## What a connection is told -/

/-- At a store that looks the same to its user a connection goes on the same way. -/
theorem client_step_alike (env : Environment) {left right : Db} (sound : rules.sound left)
    {client : Client} (runs : Runs left client) {userId : Nat}
    (own : client.session.state ≠ .notAuthenticated → client.session.userId = userId)
    (same : SameView userId left right) :
    (client.step env right).2 = (client.step env left).2 := by
  unfold Client.step
  cases running : client.running with
  | none =>
    cases client.waiting with
    | nil => rfl
    | cons cmd waiting => rfl
  | some current =>
    obtain ⟨cmd, program⟩ := current
    cases program with
    | done result => rfl
    | ask op next =>
      have alike := (runs cmd _ running).step_alike (blind own) sound same
      exact congrArg (fun program : Mailstore.Sections (List Reply × Session) =>
        { client with running := some (cmd, program) }) alike

/-- A party that has gone on at some stores. -/
def turns (env : Environment) (party : Party) (stores : List Db) : Party :=
  run (fun party db => (party.step env db).2) party stores

/-- A connection stays a connection. -/
theorem turns_client (env : Environment) (client : Client) (stores : List Db) :
    ∃ last, turns env (.client client) stores = .client last := by
  induction stores generalizing client with
  | nil => exact ⟨client, rfl⟩
  | cons db stores ih => exact ih (client.step env db).2

/-- A connection that takes its turns where it may has kept its user, once it had one. -/
theorem turns_user (env : Environment) {client last : Client} {stores : List Db}
    (met : Met (Party.step env) rules.sound Good (.client client) stores)
    (ends : turns env (.client client) stores = .client last)
    (known : client.session.state ≠ .notAuthenticated) :
    last.session.state ≠ .notAuthenticated ∧ last.session.userId = client.session.userId := by
  induction stores generalizing client with
  | nil =>
    obtain rfl : client = last := Party.client.inj ends
    exact ⟨known, rfl⟩
  | cons db stores ih =>
    obtain ⟨sound, good, rest⟩ := met
    obtain ⟨still, same⟩ := client_step_user env sound good.1 known
    obtain ⟨later, user⟩ := ih rest ends still
    exact ⟨later, user.trans same⟩

/-- At stores that look the same to its user a connection goes on the same way. -/
theorem turns_alike (env : Environment) {client last : Client} {lefts rights : List Db}
    (met : Met (Party.step env) rules.sound Good (.client client) lefts)
    (ends : turns env (.client client) lefts = .client last) {userId : Nat}
    (own : last.session.state ≠ .notAuthenticated → last.session.userId = userId)
    (agree : List.Forall₂ (SameView userId) lefts rights) :
    turns env (.client client) rights = .client last := by
  induction agree generalizing client with
  | nil => exact ends
  | @cons left right lefts rights looks _ ih =>
    have here : client.session.state ≠ .notAuthenticated → client.session.userId = userId := by
      intro known
      obtain ⟨later, user⟩ := turns_user env met ends known
      exact user.symm.trans (own later)
    obtain ⟨sound, good, rest⟩ := met
    have same := client_step_alike env sound good.1 here looks
    have next := ih rest ends
    rw [← same] at next
    exact next

/-- Where a connection is when it arrives. -/
theorem arrived_client (db : Db) {visitors : List Visitor} (jobs : List Job) {index : Nat}
    {visitor : Visitor} (given : visitors[index]? = some visitor) :
    (arrived db visitors jobs).threads[index]? = some (.client visitor.client) := by
  have inside : index < (visitors.map fun visitor => Party.client visitor.client).length := by
    rw [List.length_map]
    exact (List.getElem?_eq_some_iff.mp given).1
  rw [arrived, List.getElem?_append_left inside, List.getElem?_map, given]
  rfl

/-- The stores at the turns of a party. -/
def storesAt (env : Environment) (index : Nat) (pool : Pool Db Party)
    (events : List (Event Administration)) : List Db :=
  statesAt (Party.step env) Administration.apply index pool events

/-- What a connection is told, and where it is, follows from its own user's messages at its own
turns: in two runs of two servers, whoever else is there, a connection that is sent the same
commands ends the same way if the stores look the same to its user whenever it takes a turn. -/
theorem told_by_own_messages (env : Environment) (calls others : List StoreCall)
    {visitors guests : List Visitor} (jobs tasks : List Job) {index : Nat} {visitor : Visitor}
    (here : visitors[index]? = some visitor) (there : guests[index]? = some visitor)
    (events happenings : List (Event Administration)) {last : Client} {userId : Nat}
    (ends : (runParties env (arrived (run Db.perform .empty calls) visitors jobs)
      events).threads[index]? = some (.client last))
    (own : last.session.state ≠ .notAuthenticated → last.session.userId = userId)
    (agree : List.Forall₂ (SameView userId)
      (storesAt env index (arrived (run Db.perform .empty calls) visitors jobs) events)
      (storesAt env index (arrived (run Db.perform .empty others) guests tasks) happenings)) :
    (runParties env (arrived (run Db.perform .empty others) guests tasks)
      happenings).threads[index]? = some (.client last) := by
  have sound : rules.sound (run Db.perform .empty calls) :=
    (intact_run intact_empty calls).keyed.mailboxIds
  have known := arrived_good sound visitors jobs
  have first := arrived_client (run Db.perform .empty calls) jobs here
  have second := arrived_client (run Db.perform .empty others) tasks there
  have reached : turns env (.client visitor.client) (storesAt env index
      (arrived (run Db.perform .empty calls) visitors jobs) events) = .client last :=
    Option.some.inj
      ((run_thread (Party.step env) Administration.apply first events).symm.trans ends)
  have met := (discipline env).met known first events
  exact (run_thread (Party.step env) Administration.apply second happenings).trans
    (congrArg some (turns_alike env met reached own agree))

/-- Bob has a message, and alice has none. -/
def bobsMessage : List StoreCall :=
  [.createUserFull "bob" "" [] none none 0, .createUserFull "alice" "" [] none none 0,
    .appendMessageTo 1 "INBOX" ⟨"m1", "Hi", [], ⟨0⟩, "carol", ""⟩ 0]

/-- Bob logs in and reads his INBOX. -/
def bobVisits : Visitor :=
  ⟨.localAuth, "b.io", [⟨"A1", "LOGIN", ["bob@b.io", ""]⟩, ⟨"A2", "SELECT", ["inbox"]⟩,
    ⟨"A3", "FETCH", ["1:*", "(FLAGS UID)"]⟩]⟩

/-- A delivery to alice. -/
def toAlice : Job := ⟨"alice", "carol@c.io", "", "m2", "Hi", [], 0⟩

/-- Bob's turns. -/
def bobsTurns : List (Event Administration) := List.replicate 12 (.turn 0)

/-- Bob's turns, with those of the delivery between them. -/
def allTurns : List (Event Administration) := bobsTurns.flatMap fun turn => [turn, .turn 1]

/-- Whose connection it is. -/
def partyUser : Party → Option Nat
  | .client client => some client.session.userId
  | .delivery _ => none

/-- Bob is told the same whether alice gets a message between his sections or not. -/
theorem bob_is_told_the_same :
    (runParties groupEnvironment (arrived (run Db.perform .empty bobsMessage) [bobVisits] [toAlice])
      allTurns).threads[0]? =
    (runParties groupEnvironment (arrived (run Db.perform .empty bobsMessage) [bobVisits] [])
      bobsTurns).threads[0]? := by
  have first : (arrived (run Db.perform .empty bobsMessage) [bobVisits] []).threads[0]? =
      some (.client bobVisits.client) := rfl
  obtain ⟨last, alone⟩ := turns_client groupEnvironment bobVisits.client
    (storesAt groupEnvironment 0 (arrived (run Db.perform .empty bobsMessage) [bobVisits] [])
      bobsTurns)
  have ends := (run_thread (Party.step groupEnvironment) Administration.apply first bobsTurns).trans
    (congrArg some alone)
  have user : (runParties groupEnvironment
      (arrived (run Db.perform .empty bobsMessage) [bobVisits] []) bobsTurns).threads[0]?.bind
        partyUser = some 1 := by
    decide +kernel
  rw [runParties, ends] at user
  have here : [bobVisits][0]? = some bobVisits := rfl
  have told := told_by_own_messages groupEnvironment bobsMessage bobsMessage [] [toAlice] here here
    bobsTurns allTurns ends (fun _ => Option.some.inj user) (by decide +kernel)
  exact told.trans ends.symm

end Talk.Verif.ParallelSessions
