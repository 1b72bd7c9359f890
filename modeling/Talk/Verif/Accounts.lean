import Talk.Verif.Inbox
import Talk.Verif.Isolation
import Talk.Wallet.Resolver

/-!
# Accounts and their row ids

A registration makes an account. Sessions and wallets know it by its row id, and SQLite gives the
id of a deleted user to the next one when it was the largest. Registrations are counted here, so
that an account can be told from another one with the same row id.
-/

namespace Talk.Verif.Accounts

open Imap ImapSteps Isolation Mailstore StoreSteps Table Transition Wallet

/-- The daemon with its open sessions, and what has happened to it. -/
structure World where
  /-- The store. -/
  db : Db
  /-- The sessions. -/
  sessions : Nat → Session
  /-- The account that a user row belongs to now. -/
  accountOf : Nat → Option Nat
  /-- The account that a session has logged in to. -/
  loggedInto : Nat → Option Nat
  /-- The number of registrations. -/
  registrations : Nat
  /-- The wallets that were resolved, and for which accounts. -/
  resolved : List (List String × Option Nat)

/-- What happens to it. -/
inductive Event where
  /-- A session handles a command. -/
  | command (index : Nat) (cmd : ParsedCommand)
  /-- A session ends, after LOGOUT or with its connection, and another one takes its place. -/
  | disconnect (index : Nat)
  /-- The store is changed; a user may be created. -/
  | store (operation : Operation)
  /-- A user is deleted. -/
  | deleteUser (username : String)
  /-- A wallet is resolved. -/
  | resolve (username : String)

/-- The store has a user with the row id. -/
def hasUser (db : Db) (userId : Nat) : Bool := db.users.any fun row => decide (row.id = userId)

/-- The world after an event. -/
def step (env : Environment) (template : Daemon.Template) (domain : String)
    (walletDir : List String) (world : World) : Event → World
  | .command index cmd =>
    let session := world.sessions index
    let after := (handle env session world.db cmd).2.1
    { world with
      db := (handle env session world.db cmd).2.2
      sessions := Function.update world.sessions index after
      loggedInto :=
        if session.state = .notAuthenticated ∧ after.state ≠ .notAuthenticated then
          Function.update world.loggedInto index (world.accountOf after.userId)
        else world.loggedInto }
  | .disconnect index =>
    let session := world.sessions index
    { world with
      sessions := Function.update world.sessions index
        (newSession session.authMode session.domain)
      loggedInto := Function.update world.loggedInto index none }
  | .store operation =>
    let db := apply template domain world.db operation
    let userId := nextId UserRow.id world.db.users
    if hasUser db userId then
      { world with
        db := db
        accountOf := Function.update world.accountOf userId (some world.registrations)
        registrations := world.registrations + 1 }
    else { world with db := db }
  | .deleteUser username =>
    match world.db.getUser username with
    | none => world
    | some user =>
      { world with
        db := (world.db.deleteUser username).2
        accountOf := Function.update world.accountOf user.id none }
  | .resolve username =>
    match world.db.getUser username, resolve walletDir world.db username with
    | some user, some binding =>
      { world with
        resolved := (binding.walletDbPath, world.accountOf user.id) :: world.resolved }
    | _, _ => world

/-- The daemon when it starts. -/
def start (authMode : AuthMode) (domain : String) : World :=
  ⟨.empty, fun _ => newSession authMode domain, fun _ => none, fun _ => none, 0, []⟩

/-- A message belongs to an account. -/
def belongs (world : World) (account : Nat) (row : MessageRow) : Bool :=
  decide (row.mailboxId ∈ (world.db.mailboxes.filter fun box =>
    decide (world.accountOf box.userId = some account)).map MailboxRow.id)

/-- Two stores differ in messages that are not shown only. -/
structure AgreesOn (shown : MessageRow → Bool) (left right : Db) : Prop where
  /-- The users. -/
  users : right.users = left.users
  /-- The keyring. -/
  keyring : right.keyring = left.keyring
  /-- The shares. -/
  shares : right.shares = left.shares
  /-- The mailboxes. -/
  mailboxes : right.mailboxes = left.mailboxes
  /-- The transactions. -/
  transactions : right.transactions = left.transactions
  /-- The messages. -/
  messages : right.messages.filter shown = left.messages.filter shown

/-- A command reads and changes messages of the account only. -/
structure Confined (env : Environment) (world : World) (session : Session) (account : Nat)
    (cmd : ParsedCommand) : Prop where
  /-- The answer does not depend on other messages. -/
  reads : ∀ other, AgreesOn (belongs world account) world.db other →
    (handle env session other cmd).1 = (handle env session world.db cmd).1
  /-- Other messages are as they were. -/
  changes : (handle env session world.db cmd).2.2.messages.filter
      (fun row => !belongs world account row) =
    world.db.messages.filter fun row => !belongs world account row

/-- A session keeps to the account it has logged in to, and a wallet to the account it was first
resolved for. -/
def KeepsAccounts (env : Environment) (walletDir : List String) (world : World) : Event → Prop
  | .command index cmd => (world.sessions index).state ≠ .notAuthenticated →
      ∃ account, world.loggedInto index = some account ∧
        Confined env world (world.sessions index) account cmd
  | .resolve username => ∀ user binding, world.db.getUser username = some user →
      resolve walletDir world.db username = some binding →
        ∀ entry ∈ world.resolved, entry.1 = binding.walletDbPath →
          entry.2 = world.accountOf user.id
  | _ => True

/-- A user that is created gets a row id that no logged-in session has, and that no resolved wallet
is named by. -/
def FreshId (walletDir : List String) (world : World) : Event → Prop
  | .store (.createUser username _ _ _ _ _) =>
    (∀ row ∈ world.db.users, row.username ≠ username) →
      (∀ index, (world.sessions index).state ≠ .notAuthenticated →
        (world.sessions index).userId ≠ nextId UserRow.id world.db.users) ∧
      ∀ entry ∈ world.resolved,
        entry.1 ≠ walletDbPath walletDir (nextId UserRow.id world.db.users)
  | _ => True

/-- Accounts, rows, sessions and wallets fit together. -/
structure Consistent (walletDir : List String) (world : World) : Prop where
  /-- The keys of the store. -/
  keyed : Keyed world.db
  /-- An account has a user row exactly while it lives. -/
  alive : ∀ userId, (world.accountOf userId).isSome = hasUser world.db userId
  /-- Accounts have different rows. -/
  single : ∀ left right account, world.accountOf left = some account →
    world.accountOf right = some account → left = right
  /-- Accounts are numbered as they are registered. -/
  numbered : ∀ userId account, world.accountOf userId = some account → account < world.registrations
  /-- A session with a user has logged in to an account. -/
  logged : ∀ index, (world.sessions index).state ≠ .notAuthenticated →
    (world.loggedInto index).isSome = true
  /-- A session's row belongs to its account, or to none. -/
  sessions : ∀ index account, world.loggedInto index = some account →
    (world.sessions index).state ≠ .notAuthenticated ∧
      (world.accountOf (world.sessions index).userId = some account ∨
        world.accountOf (world.sessions index).userId = none)
  /-- A wallet's row belongs to the account it was resolved for, or to none. -/
  wallets : ∀ entry ∈ world.resolved, ∃ userId, entry.1 = walletDbPath walletDir userId ∧
    (world.accountOf userId = entry.2 ∨ world.accountOf userId = none)

variable {walletDir : List String} {world : World}

/-- A user that is found has a row. -/
theorem hasUser_of_getUser {db : Db} {username : String} {user : User}
    (found : db.getUser username = some user) : hasUser db user.id = true := by
  obtain ⟨row, member, rfl⟩ := Option.map_eq_some_iff.mp found
  exact List.any_eq_true.mpr ⟨row, List.mem_of_find?_eq_some member, decide_eq_true rfl⟩

/-- The daemon starts with everything fitting together. -/
theorem consistent_start (walletDir : List String) (authMode : AuthMode) (domain : String) :
    Consistent walletDir (start authMode domain) :=
  ⟨keyed_empty, fun _ => rfl, nofun, nofun, fun _ known => absurd rfl known, nofun, nofun⟩

/-! ## Commands -/

/-- Where a user row is the account's, its messages are the account's. -/
theorem belongs_eq_isOwn (consistent : Consistent walletDir world) {userId account : Nat}
    (owner : world.accountOf userId = some account) :
    belongs world account = isOwn world.db userId := by
  have boxes : (world.db.mailboxes.filter fun box =>
      decide (world.accountOf box.userId = some account)) =
        world.db.mailboxes.filter fun box => decide (box.userId = userId) := by
    refine List.filter_congr fun box _ => decide_eq_decide.mpr ⟨fun same => ?_, fun same => ?_⟩
    · exact consistent.single _ _ _ same owner
    · rw [same, owner]
  funext row
  rw [belongs, boxes]
  rfl

/-- A row id without an account has no messages. -/
theorem isOwn_of_dead (consistent : Consistent walletDir world) {userId : Nat}
    (dead : world.accountOf userId = none) : isOwn world.db userId = fun _ => false := by
  have missing : hasUser world.db userId = false := by rw [← consistent.alive, dead]; rfl
  have boxes : world.db.mailboxIdsOf userId = [] := by
    refine List.map_eq_nil_iff.mpr (List.filter_eq_nil_iff.mpr fun box member owner => ?_)
    obtain ⟨row, inside, same⟩ := consistent.keyed.owners box member
    have found : hasUser world.db userId = true :=
      List.any_eq_true.mpr ⟨row, inside, decide_eq_true (same.trans (of_decide_eq_true owner))⟩
    rw [missing] at found
    cases found
  funext row
  rw [isOwn, boxes]
  rfl

/-- A session keeps to its account. -/
theorem confined (consistent : Consistent walletDir world) (env : Environment) {index account : Nat}
    (logged : world.loggedInto index = some account) (cmd : ParsedCommand) :
    Confined env world (world.sessions index) account cmd := by
  obtain ⟨-, owner⟩ := consistent.sessions index account logged
  have kept := (ownChanges_foreignKept
    (handle_ownChanges env (world.sessions index) world.db cmd)).messages
  rcases owner with own | dead
  · have same := belongs_eq_isOwn consistent own
    refine ⟨fun other agrees => ?_, ?_⟩
    · have messages := agrees.messages
      rw [same] at messages
      exact (Agrees.handle ⟨agrees.users, agrees.keyring, agrees.shares, agrees.mailboxes,
        agrees.transactions, messages⟩ env cmd).1
    · rw [same]
      exact kept
  · have none := isOwn_of_dead consistent dead
    refine ⟨fun other agrees => ?_, ?_⟩
    · refine (Agrees.handle ⟨agrees.users, agrees.keyring, agrees.shares, agrees.mailboxes,
        agrees.transactions, ?_⟩ env cmd).1
      rw [none, List.filter_false, List.filter_false]
    · simp only [none, Bool.not_false, List.filter_true] at kept
      rw [kept]

/-- A session gets its user from the store. -/
theorem handle_names_user (env : Environment) {session : Session}
    (fresh : session.state = .notAuthenticated) (db : Db) (cmd : ParsedCommand)
    (known : (handle env session db cmd).2.1.state ≠ .notAuthenticated) :
    hasUser db (handle env session db cmd).2.1.userId = true := by
  have effect := handle_effect env session db cmd
  generalize handle env session db cmd = result at effect known
  cases effect with
  | login name user _ _ _ found => exact hasUser_of_getUser found
  | select _ _ other => exact absurd fresh other
  | close _ _ selected =>
    rw [selected] at fresh
    cases fresh
  | refused | anyone | served | idle => exact absurd fresh known

/-- A command keeps everything fitting together. -/
theorem consistent_command (consistent : Consistent walletDir world) (env : Environment)
    (template : Daemon.Template) (domain : String) (index : Nat) (cmd : ParsedCommand) :
    Consistent walletDir (step env template domain walletDir world (.command index cmd)) := by
  have changes := handle_ownChanges env (world.sessions index) world.db cmd
  have users := (ownChanges_foreignKept changes).users
  refine ⟨keyed_ownChanges consistent.keyed changes, fun userId => ?_, consistent.single,
    consistent.numbered, fun other known => ?_, fun other account logged => ?_,
    consistent.wallets⟩
  · exact (consistent.alive userId).trans (by rw [step, hasUser, hasUser, users])
  · simp only [step] at known ⊢
    by_cases same : other = index
    · subst same
      rw [Function.update_self] at known
      split
      · rename_i login
        rw [Function.update_self, consistent.alive]
        exact handle_names_user env login.1 world.db cmd known
      · rename_i before
        exact consistent.logged other fun fresh => before ⟨fresh, known⟩
    · rw [Function.update_of_ne same] at known
      split
      · rw [Function.update_of_ne same]
        exact consistent.logged other known
      · exact consistent.logged other known
  · simp only [step] at logged ⊢
    by_cases same : other = index
    · subst same
      rw [Function.update_self]
      split at logged
      · rename_i login
        rw [Function.update_self] at logged
        exact ⟨login.2, .inl logged⟩
      · obtain ⟨known, owner⟩ := consistent.sessions other account logged
        obtain ⟨userId, -, still⟩ :=
          (respects env (world.sessions other) consistent.keyed cmd).fixed known
        rw [userId]
        exact ⟨still, owner⟩
    · rw [Function.update_of_ne same]
      split at logged
      · rw [Function.update_of_ne same] at logged
        exact consistent.sessions other account logged
      · exact consistent.sessions other account logged

/-- The end of a session keeps everything fitting together. -/
theorem consistent_disconnect (consistent : Consistent walletDir world) (env : Environment)
    (template : Daemon.Template) (domain : String) (index : Nat) :
    Consistent walletDir (step env template domain walletDir world (.disconnect index)) := by
  refine ⟨consistent.keyed, consistent.alive, consistent.single, consistent.numbered,
    fun other known => ?_, fun other account logged => ?_, consistent.wallets⟩
  · simp only [step] at known ⊢
    by_cases same : other = index
    · rw [same, Function.update_self] at known
      exact absurd rfl known
    · rw [Function.update_of_ne same] at known ⊢
      exact consistent.logged other known
  · simp only [step] at logged ⊢
    by_cases same : other = index
    · rw [same, Function.update_self] at logged
      cases logged
    · rw [Function.update_of_ne same] at logged ⊢
      exact consistent.sessions other account logged

/-! ## Users -/

/-- An operation that adds no user keeps everything fitting together. -/
theorem consistent_same_users (consistent : Consistent walletDir world) {db : Db}
    (keyed : Keyed db) (users : db.users = world.db.users) :
    Consistent walletDir { world with db := db } :=
  ⟨keyed, fun userId => (consistent.alive userId).trans (by rw [hasUser, hasUser, users]),
    consistent.single, consistent.numbered, consistent.logged, consistent.sessions,
    consistent.wallets⟩

/-- A new user with a fresh row id keeps everything fitting together. -/
theorem consistent_register (consistent : Consistent walletDir world) {db : Db} (keyed : Keyed db)
    {row : UserRow} (id : row.id = nextId UserRow.id world.db.users)
    (users : db.users = world.db.users ++ [row])
    (sessions : ∀ index, (world.sessions index).state ≠ .notAuthenticated →
      (world.sessions index).userId ≠ nextId UserRow.id world.db.users)
    (wallets : ∀ entry ∈ world.resolved,
      entry.1 ≠ walletDbPath walletDir (nextId UserRow.id world.db.users)) :
    Consistent walletDir { world with
      db := db
      accountOf := Function.update world.accountOf (nextId UserRow.id world.db.users)
        (some world.registrations)
      registrations := world.registrations + 1 } := by
  refine ⟨keyed, fun userId => ?_, fun left right account first second => ?_,
    fun userId account owner => ?_, consistent.logged, fun index account logged => ?_,
    fun entry member => ?_⟩
  · dsimp only
    by_cases same : userId = nextId UserRow.id world.db.users
    · subst same
      rw [Function.update_self]
      refine (List.any_eq_true.mpr ⟨row, ?_, decide_eq_true id⟩).symm
      exact users ▸ List.mem_append_right _ (List.mem_singleton_self row)
    · have other : row.id ≠ userId := fun equal => same (equal.symm.trans id)
      rw [Function.update_of_ne same, consistent.alive, hasUser, hasUser, users]
      simp [other]
  · simp only [Function.update_apply] at first second
    split at first <;> split at second
    · rename_i leftNew rightNew
      exact leftNew.trans rightNew.symm
    · have bound := consistent.numbered right account second
      rw [Option.some.inj first] at bound
      exact absurd bound (Nat.lt_irrefl _)
    · have bound := consistent.numbered left account first
      rw [Option.some.inj second] at bound
      exact absurd bound (Nat.lt_irrefl _)
    · exact consistent.single left right account first second
  · simp only [Function.update_apply] at owner
    split at owner
    · rw [← Option.some.inj owner]
      exact Nat.lt_succ_self _
    · exact Nat.lt_succ_of_lt (consistent.numbered userId account owner)
  · obtain ⟨known, owner⟩ := consistent.sessions index account logged
    refine ⟨known, ?_⟩
    dsimp only
    rw [Function.update_of_ne (sessions index known)]
    exact owner
  · obtain ⟨userId, path, owner⟩ := consistent.wallets entry member
    refine ⟨userId, path, ?_⟩
    have other : userId ≠ nextId UserRow.id world.db.users := fun same =>
      wallets entry member (same ▸ path)
    dsimp only
    rw [Function.update_of_ne other]
    exact owner

/-- A change of the store keeps everything fitting together, when a new user gets a fresh id. -/
theorem consistent_store (consistent : Consistent walletDir world) (env : Environment)
    (template : Daemon.Template) (domain : String) (operation : Operation)
    (fresh : FreshId walletDir world (.store operation)) :
    Consistent walletDir (step env template domain walletDir world (.store operation)) := by
  have keyed := keyed_apply template domain consistent.keyed operation
  have unchanged : (apply template domain world.db operation).users = world.db.users →
      Consistent walletDir (step env template domain walletDir world (.store operation)) := by
    intro users
    have missing : ¬ hasUser (apply template domain world.db operation)
        (nextId UserRow.id world.db.users) = true := by
      rw [hasUser, users]
      intro found
      obtain ⟨row, member, same⟩ := List.any_eq_true.mp found
      exact nextId_fresh UserRow.id world.db.users row member (of_decide_eq_true same)
    rw [step, if_neg missing]
    exact consistent_same_users consistent keyed users
  rcases Inbox.apply_users template domain world.db operation with
    users | ⟨username, passwordHash, masterPubkey, ivkCommitment, attestation, now, rfl⟩
  · exact unchanged users
  · by_cases taken : ∃ row ∈ world.db.users, row.username = username
    · refine unchanged ?_
      rw [apply, createUserFull_taken taken]
    · rcases createUserFull_cases world.db username passwordHash masterPubkey ivkCommitment
        attestation now with same | ⟨row, inboxRow, sentRow, id, -, -, created⟩
      · refine unchanged ?_
        rw [apply, same]
      · obtain ⟨sessions, wallets⟩ := fresh fun row member same => taken ⟨row, member, same⟩
        have users : (apply template domain world.db (.createUser username passwordHash masterPubkey
            ivkCommitment attestation now)).users = world.db.users ++ [row] := by
          rw [apply, created]
        have found : hasUser (apply template domain world.db (.createUser username passwordHash
            masterPubkey ivkCommitment attestation now)) (nextId UserRow.id world.db.users) =
              true := by
          refine List.any_eq_true.mpr ⟨row, ?_, decide_eq_true id⟩
          rw [users]
          exact List.mem_append_right _ (List.mem_singleton_self row)
        rw [step, if_pos found]
        exact consistent_register consistent keyed id users sessions wallets

/-- Deleting a user keeps everything fitting together. -/
theorem consistent_deleteUser (consistent : Consistent walletDir world) (env : Environment)
    (template : Daemon.Template) (domain username : String) :
    Consistent walletDir (step env template domain walletDir world (.deleteUser username)) := by
  rw [step]
  cases found : world.db.getUser username with
  | none => exact consistent
  | some user =>
    dsimp only
    have forgets : ∀ userId, Function.update world.accountOf user.id none userId = none ∨
        Function.update world.accountOf user.id none userId = world.accountOf userId := by
      intro userId
      rw [Function.update_apply]
      split
      · exact .inl rfl
      · exact .inr rfl
    have keeps : ∀ userId account, Function.update world.accountOf user.id none userId =
        some account → world.accountOf userId = some account := by
      intro userId account owner
      rcases forgets userId with gone | same
      · rw [gone] at owner
        cases owner
      · exact same ▸ owner
    refine ⟨Deletion.keyed_deleteUser consistent.keyed username, fun userId => ?_,
      fun left right account first second => ?_, fun userId account owner => ?_,
      consistent.logged, fun index account logged => ?_, fun entry member => ?_⟩
    · rw [Deletion.deleteUser_tables found, hasUser, List.any_filter]
      dsimp only
      by_cases same : userId = user.id
      · subst same
        rw [Function.update_self]
        simp
      · rw [Function.update_of_ne same, consistent.alive, hasUser]
        congr 1
        funext row
        by_cases equal : row.id = userId
        · simp [equal, same]
        · simp [equal]
    · exact consistent.single left right account (keeps left account first)
        (keeps right account second)
    · exact consistent.numbered userId account (keeps userId account owner)
    · obtain ⟨known, owner⟩ := consistent.sessions index account logged
      refine ⟨known, ?_⟩
      rcases forgets (world.sessions index).userId with gone | same
      · exact .inr gone
      · dsimp only
        rwa [same]
    · obtain ⟨userId, path, owner⟩ := consistent.wallets entry member
      refine ⟨userId, path, ?_⟩
      rcases forgets userId with gone | same
      · exact .inr gone
      · dsimp only
        rwa [same]

/-- Resolving a wallet keeps everything fitting together. -/
theorem consistent_resolve (consistent : Consistent walletDir world) (env : Environment)
    (template : Daemon.Template) (domain username : String) :
    Consistent walletDir (step env template domain walletDir world (.resolve username)) := by
  rw [step]
  cases found : world.db.getUser username with
  | none => exact consistent
  | some user =>
    rw [resolve, found]
    refine ⟨consistent.keyed, consistent.alive, consistent.single, consistent.numbered,
      consistent.logged, consistent.sessions, fun entry member => ?_⟩
    rcases List.mem_cons.mp member with rfl | old
    · exact ⟨user.id, rfl, .inl rfl⟩
    · exact consistent.wallets entry old

/-! ## Runs -/

/-- Every event keeps everything fitting together, when new users get fresh ids. -/
theorem consistent_step (consistent : Consistent walletDir world) (env : Environment)
    (template : Daemon.Template) (domain : String) (event : Event)
    (fresh : FreshId walletDir world event) :
    Consistent walletDir (step env template domain walletDir world event) := by
  cases event with
  | command index cmd => exact consistent_command consistent env template domain index cmd
  | disconnect index => exact consistent_disconnect consistent env template domain index
  | store operation => exact consistent_store consistent env template domain operation fresh
  | deleteUser username => exact consistent_deleteUser consistent env template domain username
  | resolve username => exact consistent_resolve consistent env template domain username

/-- Where everything fits together, sessions and wallets keep to their accounts. -/
theorem keepsAccounts_of_consistent (consistent : Consistent walletDir world) (env : Environment)
    (event : Event) : KeepsAccounts env walletDir world event := by
  cases event with
  | command index cmd =>
    intro known
    obtain ⟨account, logged⟩ := Option.isSome_iff_exists.mp (consistent.logged index known)
    exact ⟨account, logged, confined consistent env logged cmd⟩
  | resolve username =>
    intro user binding found resolved entry member same
    rw [resolve, found] at resolved
    rw [← Option.some.inj resolved] at same
    obtain ⟨userId, path, owner⟩ := consistent.wallets entry member
    obtain rfl : userId = user.id := walletDbPath_injective (path.symm.trans same)
    rcases owner with account | dead
    · exact account.symm
    · have alive := consistent.alive user.id
      rw [dead, hasUser_of_getUser found] at alive
      cases alive
  | disconnect => trivial
  | store => trivial
  | deleteUser => trivial

/-- In every run in which a created user gets a row id that no logged-in session has and no
resolved wallet is named by, every session reads and changes messages of the account it has logged
in to only, and no wallet is resolved for two accounts. -/
theorem accounts_kept_of_fresh_ids (env : Environment) (template : Daemon.Template)
    (authMode : AuthMode) (domain : String) (walletDir : List String) (events : List Event)
    (fresh : Guarded (step env template domain walletDir) (FreshId walletDir)
      (start authMode domain) events) :
    Guarded (step env template domain walletDir) (KeepsAccounts env walletDir)
      (start authMode domain) events := by
  have kept : ∀ world event, Consistent walletDir world → FreshId walletDir world event →
      Consistent walletDir (step env template domain walletDir world event) :=
    fun _ event consistent fresh => consistent_step consistent env template domain event fresh
  refine guarded_implies kept ?_ (consistent_start walletDir authMode domain) fresh
  exact fun _ event consistent _ => keepsAccounts_of_consistent consistent env event

/-! ## A deleted user's row id -/

/-- Bob logs in and is deleted, carol is registered and gets mail, and bob's session searches. -/
def reused : List Event :=
  [.store createBob, .command 0 ⟨"A1", "LOGIN", ["bob", ""]⟩, .deleteUser "bob",
    .store (.createUser "carol" "" [] none none 0),
    .store (.deliver ⟨"alice@a.io", "m1", "carol@b.io", .sealed, []⟩ 0),
    .command 0 ⟨"A2", "SELECT", ["INBOX"]⟩]

/-- The daemon after that. -/
def recycled : World :=
  run (step groupEnvironment noTemplate "b.io" ["wallets"]) (start .localAuth "b.io") reused

/-- The same without carol's message. -/
def emptied : Db := { recycled.db with messages := [] }

/-- The session that has logged in to bob's account sees carol's message. -/
theorem session_reads_other_account :
    recycled.loggedInto 0 = some 0 ∧ recycled.accountOf 1 = some 1 ∧
      ¬ KeepsAccounts groupEnvironment ["wallets"] recycled
        (.command 0 ⟨"A3", "SEARCH", ["ALL"]⟩) := by
  refine ⟨by decide +kernel, by decide +kernel, fun keeps => ?_⟩
  obtain ⟨account, logged, confined⟩ := keeps (by decide +kernel)
  obtain rfl : 0 = account :=
    Option.some.inj ((show recycled.loggedInto 0 = some 0 by decide +kernel).symm.trans logged)
  have agrees : AgreesOn (belongs recycled 0) recycled.db emptied :=
    ⟨rfl, rfl, rfl, rfl, rfl, by decide +kernel⟩
  exact absurd (confined.reads emptied agrees) (by decide +kernel)

/-- Bob logs in, and a wallet is resolved for him. Carol logs in, her connection ends, she is
deleted, and dan, who gets her row id, takes her place. -/
def undisturbed : List Event :=
  [.store createBob, .command 0 ⟨"A1", "LOGIN", ["bob", ""]⟩, .resolve "bob",
    .store (.createUser "carol" "" [] none none 0), .command 1 ⟨"B1", "LOGIN", ["carol", ""]⟩,
    .disconnect 1, .deleteUser "carol", .store (.createUser "dan" "" [] none none 0),
    .command 1 ⟨"C1", "LOGIN", ["dan", ""]⟩, .command 0 ⟨"A2", "SELECT", ["INBOX"]⟩,
    .command 0 ⟨"A3", "SEARCH", ["ALL"]⟩, .command 1 ⟨"C2", "SELECT", ["INBOX"]⟩,
    .command 1 ⟨"C3", "SEARCH", ["ALL"]⟩]

/-- The sessions of bob and dan, and bob's wallet, keep to their accounts. -/
theorem undisturbed_accounts_kept :
    Guarded (step groupEnvironment noTemplate "b.io" ["wallets"])
      (KeepsAccounts groupEnvironment ["wallets"]) (start .localAuth "b.io") undisturbed := by
  refine accounts_kept_of_fresh_ids groupEnvironment noTemplate .localAuth "b.io" ["wallets"]
    undisturbed ⟨fun _ => ⟨fun index known => absurd rfl known, nofun⟩, trivial, trivial,
      fun _ => ⟨fun index known => ?_, ?_⟩, trivial, trivial, trivial,
      fun _ => ⟨fun index known => ?_, ?_⟩, trivial, trivial, trivial, trivial, trivial, trivial⟩
  · cases index with
    | zero => decide +kernel
    | succ other => exact absurd rfl known
  · decide +kernel
  · cases index with
    | zero => decide +kernel
    | succ other =>
      -- Carol's session has ended, and no other one has begun.
      cases other with
      | zero => exact absurd rfl known
      | succ => exact absurd rfl known
  · decide +kernel

end Talk.Verif.Accounts
