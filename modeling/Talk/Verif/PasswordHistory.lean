import Talk.Imap.Session
import Talk.Verif.CommandSteps
import Talk.Verif.Deletion
import Talk.Verif.StoreCalls

/-!
# Passwords

What the store knows of passwords is a book that has a hash for each name: a new user enters one, a
change replaces it, a deletion strikes it out, and no other call touches it. So whether a login with
a password succeeds depends on this history and on nothing else.
-/

namespace Talk.Verif.PasswordHistory

open Imap Mailstore StoreCalls StoreSteps Table Transition

variable {db : Db}

/-! ## The book -/

/-- A hash for each name. -/
abbrev Book := String → Option String

/-- The book after a call. -/
def recorded (book : Book) : StoreCall → Book
  | .createUserFull username passwordHash _ _ _ _ =>
    if book username = none then Function.update book username (some passwordHash) else book
  | .setPassword username passwordHash =>
    if book username = none then book else Function.update book username (some passwordHash)
  | .deleteUser username => Function.update book username none
  | _ => book

/-! ## One call -/

/-- The hash of a name is that of its row. -/
theorem passwordHash_eq_some_iff (names : Unique UserRow.username db.users)
    {name hash : String} :
    db.passwordHash name = some hash ↔
      ∃ row ∈ db.users, row.username = name ∧ row.passwordHash = hash := by
  rw [Db.passwordHash, Option.map_eq_some_iff]
  constructor
  · rintro ⟨row, found, same⟩
    obtain ⟨member, named⟩ := (find_eq_some_iff names).mp found
    exact ⟨row, member, named, same⟩
  · rintro ⟨row, member, named, same⟩
    exact ⟨row, (find_eq_some_iff names).mpr ⟨member, named⟩, same⟩

/-- A name without a row has no hash. -/
theorem passwordHash_eq_none_iff {name : String} :
    db.passwordHash name = none ↔ ∀ row ∈ db.users, row.username ≠ name := by
  rw [Db.passwordHash, Option.map_eq_none_iff, List.find?_eq_none]
  simp

/-- Stores with the same users have the same hashes. -/
theorem passwordHash_congr {after : Db} (users : after.users = db.users) :
    after.passwordHash = db.passwordHash := by
  funext name
  rw [Db.passwordHash, users]
  rfl

/-- A registration enters the hash of a free name. -/
theorem passwordHash_create (username passwordHash : String) (masterPubkey : List UInt8)
    (ivkCommitment registrationAttestation : Option String) (now : Int64) :
    (db.createUserFull username passwordHash masterPubkey ivkCommitment registrationAttestation
      now).2.passwordHash =
      if db.passwordHash username = none then
        Function.update db.passwordHash username (some passwordHash)
      else db.passwordHash := by
  unfold Db.createUserFull
  by_cases unused : ∀ row ∈ db.users, row.username ≠ username
  · have free : ¬ db.users.any (·.username == username) = true := by
      simpa using unused
    rw [if_neg free, if_pos (passwordHash_eq_none_iff.mpr unused)]
    funext name
    dsimp only [Db.insertMailbox, Db.passwordHash]
    rw [List.find?_append]
    by_cases same : name = username
    · obtain rfl := same
      have none' : (db.users.find? fun row => decide (row.username = name)) = none := by
        simpa using unused
      rw [none', Function.update_self]
      simp
    · rw [Function.update_of_ne same]
      have other : ¬ username = name := fun equal => same equal.symm
      simp [other, Db.passwordHash]
  · have taken : db.users.any (·.username == username) = true := by
      simpa using unused
    rw [if_pos taken, if_neg (mt passwordHash_eq_none_iff.mp unused)]

/-- A row of a user is changed. -/
theorem passwordHash_update (username name : String) {change : UserRow → UserRow}
    (named : ∀ row, (change row).username = row.username) :
    (db.updateUser username change).2.passwordHash name =
      (db.users.find? fun row => decide (row.username = name)).map fun row =>
        (if row.username = username then change row else row).passwordHash := by
  rw [Db.passwordHash, CommandSteps.users_updateUser, update, List.find?_map, Option.map_map]
  have kept : ((fun row : UserRow => decide (row.username = name)) ∘ fun row : UserRow =>
      if decide (row.username = username) = true then change row else row) =
        fun row => decide (row.username = name) := by
    funext row
    dsimp only [Function.comp]
    split
    · rw [named]
    · rfl
  rw [kept]
  congr 1
  funext row
  simp only [Function.comp, decide_eq_true_eq]

/-- A new password replaces the hash of a name that has one. -/
theorem passwordHash_set (username passwordHash : String) :
    (db.setPassword username passwordHash).2.passwordHash =
      if db.passwordHash username = none then db.passwordHash
      else Function.update db.passwordHash username (some passwordHash) := by
  funext name
  refine (passwordHash_update username name fun _ => ?_).trans ?_
  · rfl
  cases found : db.users.find? fun row => decide (row.username = name) with
  | none =>
    have missing : db.passwordHash name = none := by
      rw [Db.passwordHash, found]
      rfl
    split
    · exact missing.symm
    · rename_i known
      have other : name ≠ username := fun same => known (same ▸ missing)
      rw [Function.update_of_ne other]
      exact missing.symm
  | some row =>
    have named : row.username = name := by
      simpa using List.find?_some found
    have present : db.passwordHash name = some row.passwordHash := by
      rw [Db.passwordHash, found]
      rfl
    by_cases same : name = username
    · obtain rfl := same
      rw [present, if_neg (Option.some_ne_none _), Function.update_self, Option.map_some,
        if_pos named]
    · have other : row.username ≠ username := fun equal => same (named.symm.trans equal)
      rw [Option.map_some, if_neg other]
      split
      · exact present.symm
      · rw [Function.update_of_ne same]
        exact present.symm

/-- An IVK is set, and every hash is kept. -/
theorem passwordHash_setIvk (username : String) (ivkCommitment : Option String) :
    (db.setIvk username ivkCommitment).2.passwordHash = db.passwordHash := by
  funext name
  refine (passwordHash_update username name fun _ => ?_).trans ?_
  · rfl
  rw [Db.passwordHash]
  congr 1
  funext row
  split
  · rfl
  · rfl

/-- A deletion strikes out the hash of a name. -/
theorem passwordHash_delete (intact : Intact db) (username : String) :
    (db.deleteUser username).2.passwordHash = Function.update db.passwordHash username none := by
  have after := intact_deleteUser intact username
  cases found : db.getUser username with
  | none =>
    have missing : db.passwordHash username = none := by
      rw [Db.getUser, Option.map_eq_none_iff] at found
      rw [Db.passwordHash, found]
      rfl
    have same : (db.deleteUser username).2 = db := by
      rw [Db.deleteUser, found]
    rw [same, ← missing, Function.update_eq_self]
  | some user =>
    have tables := Deletion.deleteUser_tables found
    obtain ⟨gone, isGone, same⟩ := Option.map_eq_some_iff.mp found
    obtain ⟨member, named⟩ := (find_eq_some_iff intact.keyed.usernames).mp isGone
    have id : user.id = gone.id := congrArg User.id same.symm
    funext name
    refine Option.ext fun hash => ?_
    rw [passwordHash_eq_some_iff after.keyed.usernames, tables]
    by_cases equal : name = username
    · obtain rfl := equal
      rw [Function.update_self]
      refine iff_of_false ?_ (Option.some_ne_none hash).symm
      rintro ⟨row, kept, here, -⟩
      obtain ⟨old, other⟩ := List.mem_filter.mp kept
      have whole : row = gone :=
        eq_of_unique intact.keyed.usernames old member (here.trans named.symm)
      exact of_decide_eq_true other ((congrArg UserRow.id whole).trans id.symm)
    · rw [Function.update_of_ne equal, passwordHash_eq_some_iff intact.keyed.usernames]
      constructor
      · rintro ⟨row, kept, here, there⟩
        exact ⟨row, List.mem_of_mem_filter kept, here, there⟩
      · rintro ⟨row, old, here, there⟩
        refine ⟨row, List.mem_filter.mpr ⟨old, decide_eq_true fun same => ?_⟩, here, there⟩
        have whole : row = gone := eq_of_unique intact.keyed.userIds old member (same.trans id)
        exact equal (here.symm.trans ((congrArg UserRow.username whole).trans named))

/-- A call that leaves the users. -/
def leavesUsers : StoreCall → Bool
  | .createUserFull _ _ _ _ _ _ | .setPassword _ _ | .setIvk _ _ | .deleteUser _ => false
  | _ => true

/-- A call that touches no user leaves the users. -/
theorem users_perform {call : StoreCall} (leaves : leavesUsers call = true) :
    (db.perform call).users = db.users := by
  cases call with
  | createUserFull | setPassword | setIvk | deleteUser => cases leaves
  | txLinkMessage => rfl
  | txCreate new now =>
    rw [Db.perform, Db.txCreate]
    split
    · rfl
    · rfl
  | txTransition id state now =>
    rw [Db.perform, Db.txTransition, Db.txUpdateFound]
    split
    · rfl
    · rfl
  | txSetBinding id binding now =>
    rw [Db.perform, Db.txSetBinding, Db.txUpdateFound]
    split
    · rfl
    · rfl
  | keyringSetTrusted userId senderMailbox senderPubkey attestation now =>
    rw [Db.perform, Db.keyringSetTrusted]
    split
    · rfl
    · split
      · rfl
      · rfl
  | unpinKeyring userId senderMailbox =>
    rw [Db.perform, Db.unpinKeyring]
    dsimp only
    split
    · rfl
    · rfl
  | appendMessageTo userId mailbox msg now =>
    rcases appendMessageTo_cases db userId mailbox msg now with
      ⟨-, stored⟩ | ⟨handle, -, ⟨-, stored⟩ | ⟨-, stored⟩⟩
    · rw [Db.perform, stored]
    · rw [Db.perform, stored]
    · rw [Db.perform, stored]
      rfl
  | addShare userId shareId wrappedDk =>
    rw [Db.perform, Db.addShare]
    split
    · rfl
    · split
      · rfl
      · rfl
  | revokeShare userId shareId =>
    rw [Db.perform, CommandSteps.revokeShare_snd]
  | setFlagsIn userId mailbox messageId mask value =>
    rw [Db.perform, Db.setFlagsIn]
    split
    · rfl
    · rfl
  | expungeIn userId mailbox =>
    rw [Db.perform, Db.expungeIn]
    split
    · rfl
    · rfl

/-- A call changes the hashes as it changes the book. -/
theorem passwordHash_perform (intact : Intact db) (call : StoreCall) :
    (db.perform call).passwordHash = recorded db.passwordHash call := by
  cases call with
  | createUserFull username passwordHash masterPubkey ivkCommitment attestation now =>
    exact passwordHash_create username passwordHash masterPubkey ivkCommitment attestation now
  | setPassword username passwordHash => exact passwordHash_set username passwordHash
  | setIvk username ivkCommitment => exact passwordHash_setIvk username ivkCommitment
  | deleteUser username => exact passwordHash_delete intact username
  | _ => exact passwordHash_congr (users_perform rfl)

/-! ## Runs -/

/-- What is in the book after calls. -/
def history (calls : List StoreCall) : Book := run recorded (fun _ => none) calls

/-- After any calls the hashes are those of the book. -/
theorem passwordHash_run (calls : List StoreCall) :
    (run Db.perform .empty calls).passwordHash = history calls := by
  have kept : ∀ (db : Db) (book : Book), Intact db → db.passwordHash = book →
      (run Db.perform db calls).passwordHash = run recorded book calls := by
    induction calls with
    | nil => exact fun db book intact same => same
    | cons call calls ih =>
      intro db book intact same
      refine ih _ _ (intact_perform intact call) ?_
      rw [passwordHash_perform intact, same]
  exact kept .empty _ intact_empty rfl

/-- A user has a hash exactly if there is one. -/
theorem getUser_isSome (name : String) :
    (db.getUser name).isSome = (db.passwordHash name).isSome := by
  rw [Db.getUser, Db.passwordHash, Option.isSome_map, Option.isSome_map]

/-- After any calls of the store a login with a password, on a server that keeps passwords, succeeds
exactly if the book has a hash for its name that the password verifies against. -/
theorem login_iff_history (env : Environment) (calls : List StoreCall) (session : Session)
    (tag username password : String) (keeps : session.authMode = .database)
    (plain : (loginName username).2 = false) :
    (∃ text, (login env session (run Db.perform .empty calls) tag username password).1 =
        [.tagged tag .ok text]) ↔
      ∃ name hash, localUsername (loginName username).1 session.domain = some name ∧
        history calls name = some hash ∧ env.verifyPassword password hash = true := by
  have refused : ¬ ∃ text, [Reply.tagged tag .no "Authentication failed"] =
      [Reply.tagged tag .ok text] := by
    rintro ⟨text, same⟩
    cases same
  have book := passwordHash_run calls
  generalize run Db.perform .empty calls = db at book ⊢
  rw [← book]
  unfold login
  cases named : localUsername (loginName username).1 session.domain with
  | none =>
    refine iff_of_false refused ?_
    rintro ⟨name, hash, known, -⟩
    cases known
  | some name =>
    dsimp only
    have either := @getUser_isSome db name
    cases found : db.getUser name with
    | none =>
      have missing : db.passwordHash name = none := by
        rw [found] at either
        exact Option.isNone_iff_eq_none.mp (Option.isSome_eq_false_iff.mp either.symm)
      refine iff_of_false refused ?_
      rintro ⟨other, hash, known, entered, -⟩
      obtain rfl := Option.some.inj known
      rw [missing] at entered
      cases entered
    | some user =>
      obtain ⟨hash, entered⟩ : ∃ hash, db.passwordHash name = some hash := by
        rw [found] at either
        exact Option.isSome_iff_exists.mp either.symm
      have decides : acceptsPassword env session.authMode db name password =
          env.verifyPassword password hash := by
        rw [keeps, acceptsPassword, entered]
      dsimp only
      rw [plain, if_neg Bool.false_ne_true, decides]
      by_cases right : env.verifyPassword password hash = true
      · rw [if_pos right]
        exact iff_of_true ⟨_, rfl⟩ ⟨name, hash, rfl, entered, right⟩
      · rw [if_neg right]
        refine iff_of_false refused ?_
        rintro ⟨other, wrong, known, kept, verified⟩
        obtain rfl := Option.some.inj known
        obtain rfl := Option.some.inj (entered.symm.trans kept)
        exact right verified

/-- A server whose hashes show their passwords. -/
def showing : Environment :=
  ⟨fun password hash => decide (hash = "hash of " ++ password), fun _ _ _ => none, none,
    fun _ => "", fun _ => "", ""⟩

/-- Bob is registered, somebody else comes and goes, and bob changes his password. -/
def bobsPasswords : List StoreCall :=
  [.createUserFull "bob" "hash of one" [] none none 0,
    .createUserFull "eve" "hash of one" [] none none 0, .setPassword "bob" "hash of two",
    .createUserFull "bob" "hash of three" [] none none 0, .deleteUser "eve"]

/-- Bob logs in with his new password and not with the old one, and eve, who is gone, not at all. -/
theorem bob_logs_in :
    (∃ text, (login showing (newSession .database "b.io") (run Db.perform .empty bobsPasswords)
        "A1" "bob@b.io" "two").1 = [.tagged "A1" .ok text]) ∧
      (¬ ∃ text, (login showing (newSession .database "b.io")
        (run Db.perform .empty bobsPasswords) "A1" "bob" "one").1 = [.tagged "A1" .ok text]) ∧
      ¬ ∃ text, (login showing (newSession .database "b.io")
        (run Db.perform .empty bobsPasswords) "A1" "eve" "one").1 = [.tagged "A1" .ok text] := by
  have decided (username password : String) (plain : (loginName username).2 = false) :=
    login_iff_history showing bobsPasswords (newSession .database "b.io") "A1" username password
      rfl plain
  refine ⟨(decided "bob@b.io" "two" (by decide)).mpr ⟨"bob", "hash of two", by decide +kernel,
    by decide +kernel, by decide +kernel⟩, ?_, ?_⟩
  · rw [decided "bob" "one" (by decide)]
    rintro ⟨name, hash, known, entered, verified⟩
    have named : localUsername (loginName "bob").1 "b.io" = some "bob" := by decide +kernel
    obtain rfl := Option.some.inj (named.symm.trans known)
    have book : history bobsPasswords "bob" = some "hash of two" := by decide +kernel
    obtain rfl := Option.some.inj (book.symm.trans entered)
    exact absurd verified (by decide +kernel)
  · rw [decided "eve" "one" (by decide)]
    rintro ⟨name, hash, known, entered, verified⟩
    have named : localUsername (loginName "eve").1 "b.io" = some "eve" := by decide +kernel
    obtain rfl := Option.some.inj (named.symm.trans known)
    have book : history bobsPasswords "eve" = none := by decide +kernel
    rw [book] at entered
    cases entered

end Talk.Verif.PasswordHistory
