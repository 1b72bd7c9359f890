import Talk.Verif.CommandSteps
import Talk.Verif.Names

/-!
# Qualified names

The commands of `talkctl` take a user's name alone or with the domain, and resolve it first. Those
that read, and those that go on with the id of the user they have found, do the same for both. Those
that change a row of the users go on with the name as it was given, and a deletion does not even
resolve it.
-/

namespace Talk.Verif.QualifiedNames

open Mailstore Table Ctl Protocol Daemon Text StoreSteps CommandSteps

variable {crypto : Crypto}

/-! ## The subcommands -/

/-- The subcommands on a user that exists, its shares and its keyring. -/
inductive Subcommand where
  /-- `user show`. -/
  | userShow
  /-- `user delete`. -/
  | userDelete
  /-- `user passwd`. -/
  | userPasswd (password : String)
  /-- `user set-ivk`. -/
  | userSetIvk (ivk : String)
  /-- `user unset-ivk`. -/
  | userUnsetIvk
  /-- `share list`. -/
  | shareList
  /-- `share init`. -/
  | shareInit (dk : Keys.SecretKey) (draws : List Keys.Draw)
  /-- `share revoke`. -/
  | shareRevoke (shareId : String)
  /-- `keyring pin`. -/
  | keyringPin (sender : String) (pubkey : Option String) (now : Int64)
  /-- `keyring list`. -/
  | keyringList
  /-- `keyring unpin`. -/
  | keyringUnpin (sender : String)

/-- What a subcommand prints, apart from the name it was given. -/
inductive Printed where
  /-- That it is done. -/
  | done
  /-- A user. -/
  | user (shown : Shown)
  /-- Shares. -/
  | shares (entries : List ShareEntry)
  /-- A keyring. -/
  | keyring (entries : List KeyringEntry)
  deriving DecidableEq

/-- A subcommand that prints that it is done. -/
def confirmed (outcome : Except UserError Unit × Db) : Except UserError Printed × Db :=
  (outcome.1.map fun _ => .done, outcome.2)

/-- A subcommand that prints what it has read. -/
def printed {α : Type} (print : α → Printed) (result : Except UserError α) (db : Db) :
    Except UserError Printed × Db :=
  (result.map print, db)

/-- A subcommand with a username: its result and the store it leaves. -/
def Subcommand.run (registrar : Registrar crypto) (aead : Keys.Aead) (db : Db) (username : String) :
    Subcommand → Except UserError Printed × Db
  | userShow => printed .user (Ctl.userShow registrar.domain db username) db
  | userDelete => confirmed (Ctl.userDelete db username)
  | userPasswd password => confirmed (Ctl.userPasswd registrar db username password)
  | userSetIvk ivk => confirmed (Ctl.userSetIvk registrar.domain db username ivk)
  | userUnsetIvk => confirmed (Ctl.userUnsetIvk registrar.domain db username)
  | shareList => printed .shares (Ctl.shareList registrar.domain db username) db
  | shareInit dk draws => confirmed (Ctl.shareInit aead registrar.domain db username dk draws)
  | shareRevoke shareId => confirmed (Ctl.shareRevoke registrar.domain db username shareId)
  | keyringPin sender pubkey now =>
    confirmed (Ctl.keyringPin registrar.domain db username sender pubkey now)
  | keyringList => printed .keyring (Ctl.keyringList registrar.domain db username) db
  | keyringUnpin sender => confirmed (Ctl.keyringUnpin registrar.domain db username sender)

/-- A user's name alone and with the domain are the same to a subcommand: the same result, and the
same store. -/
def Interchangeable (registrar : Registrar crypto) (aead : Keys.Aead) (db : Db)
    (username domain : String) (command : Subcommand) : Prop :=
  command.run registrar aead db username =
    command.run registrar aead db (username ++ "@" ++ domain)

/-! ## The condition -/

/-- There is a user of the second name as well, and the rows of both names are already as a change
leaves them. -/
def Settled (db : Db) (bare qualified : String) (already : UserRow → Prop) : Prop :=
  (∃ row ∈ db.users, row.username = qualified) ∧
    ∀ row ∈ db.users, row.username = bare ∨ row.username = qualified → already row

/-- The user has pinned the sender. -/
def HasPinned (db : Db) (user : User) (sender : String) : Prop :=
  ∃ row ∈ db.keyring, Db.pinKey row = (user.id, sender)

/-- Once the names are resolved to two users, which for a plain name are one, a subcommand does the
same for both. -/
def Alike (registrar : Registrar crypto) (db : Db) (bare qualified : String) (left right : User) :
    Subcommand → Prop
  | .userShow => left = right
  | .userDelete => False
  | .userPasswd password =>
    ∀ hash, registrar.hashPassword password = .ok hash →
      Settled db bare qualified fun row => row.passwordHash = hash
  | .userSetIvk ivk =>
    (Hex.decodeBlock 32 ivk).isSome →
      Settled db bare qualified fun row => row.ivkCommitment = some ivk
  | .userUnsetIvk => Settled db bare qualified fun row => row.ivkCommitment = none
  | .shareList => db.listShares left.id = db.listShares right.id
  | .shareInit _ draws =>
    left.id = right.id ∨ ∀ draw ∈ draws.head?,
      Taken db left.id (Hex.encode draw.shareId.val) ∧
        Taken db right.id (Hex.encode draw.shareId.val)
  | .shareRevoke shareId =>
    left.id = right.id ∨ (Taken db left.id shareId ↔ Taken db right.id shareId) ∧
      ∀ row ∈ db.shares, Db.shareKey row = (left.id, shareId) ∨
        Db.shareKey row = (right.id, shareId) → row.revoked = true
  | .keyringPin sender pubkey _ =>
    left.id = right.id ∨ (HasPinned db left sender ∧ HasPinned db right sender) ∧
      ∀ row ∈ db.keyring, Db.pinKey row = (left.id, sender) ∨ Db.pinKey row = (right.id, sender) →
        row.senderPubkey = pubkey.getD "" ∧ row.attestation = [] ∧ row.state = "trusted"
  | .keyringList => db.listKeyring left.id = db.listKeyring right.id
  | .keyringUnpin sender =>
    left.id = right.id ∨ ¬HasPinned db left sender ∧ ¬HasPinned db right sender

/-- Both names are resolved, to users for which the subcommand does the same. -/
def Resolved (registrar : Registrar crypto) (db : Db) (username domain : String)
    (command : Subcommand) : Prop :=
  ∃ left right, requireUser registrar.domain db username = .ok left ∧
    requireUser registrar.domain db (username ++ "@" ++ domain) = .ok right ∧
    Alike registrar db username (username ++ "@" ++ domain) left right command

/-! ## Subcommands that resolve the name -/

/-- A subcommand that resolves the name first. -/
def onUser (domain : String) (db : Db) (username : String)
    (act : User → Except UserError Printed × Db) : Except UserError Printed × Db :=
  match requireUser domain db username with
  | .error error => (.error error, db)
  | .ok user => act user

/-- What a subcommand does to the user it has found, with the name it was given. -/
def Subcommand.act (registrar : Registrar crypto) (aead : Keys.Aead) (db : Db) (username : String)
    (user : User) : Subcommand → Except UserError Printed × Db
  | userShow => (.ok (.user ⟨user, (db.listShares user.id).length,
      ((db.listShares user.id).filter fun share => !share.revoked).length,
      (db.listKeyring user.id).length⟩), db)
  | userDelete => confirmed (Ctl.userDelete db username)
  | userPasswd password =>
    match registrar.hashPassword password with
    | .error error => (.error (.message ("password hash failed: " ++ error)), db)
    | .ok hash => confirmed (stored (db.setPassword username hash))
  | userSetIvk ivk =>
    match Hex.decodeBlock 32 ivk with
    | none => (.error (.message "ivk must be 32 bytes of hex"), db)
    | some _ => confirmed (stored (db.setIvk username (some ivk)))
  | userUnsetIvk => confirmed (stored (db.setIvk username none))
  | shareList => (.ok (.shares (db.listShares user.id)), db)
  | shareInit dk draws =>
    if draws = [] then (.error (.message "--shares must be >= 1"), db)
    else confirmed (stored (initShares aead db user.id dk draws))
  | shareRevoke shareId => confirmed (stored (db.revokeShare user.id shareId))
  | keyringPin sender pubkey now =>
    confirmed (stored (db.keyringSetTrusted user.id sender (pubkey.getD "") [] now))
  | keyringList => (.ok (.keyring (db.listKeyring user.id)), db)
  | keyringUnpin sender => confirmed (stored (db.unpinKeyring user.id sender))

/-- A subcommand other than `delete` resolves the name first. -/
theorem run_eq_onUser (registrar : Registrar crypto) (aead : Keys.Aead) (db : Db)
    (username : String) {command : Subcommand} (other : command ≠ .userDelete) :
    command.run registrar aead db username =
      onUser registrar.domain db username fun user =>
        command.act registrar aead db username user := by
  unfold onUser
  cases command with
  | userDelete => exact absurd rfl other
  | userPasswd password =>
    simp only [Subcommand.run, Subcommand.act, Ctl.userPasswd]
    cases requireUser registrar.domain db username with
    | error error => rfl
    | ok user => cases registrar.hashPassword password with
      | error error => rfl
      | ok hash => rfl
  | userSetIvk ivk =>
    simp only [Subcommand.run, Subcommand.act, Ctl.userSetIvk]
    cases requireUser registrar.domain db username with
    | error error => rfl
    | ok user => cases Hex.decodeBlock 32 ivk with
      | none => rfl
      | some block => rfl
  | shareInit dk draws =>
    simp only [Subcommand.run, Subcommand.act, Ctl.shareInit]
    cases requireUser registrar.domain db username with
    | error error => rfl
    | ok user =>
      dsimp only
      rw [apply_ite confirmed]
      rfl
  | userShow | userUnsetIvk | shareList | shareRevoke | keyringPin | keyringList | keyringUnpin =>
    simp only [Subcommand.run, Subcommand.act, Ctl.userShow, Ctl.userUnsetIvk, Ctl.shareList,
      Ctl.shareRevoke, Ctl.keyringPin, Ctl.keyringList, Ctl.keyringUnpin]
    cases requireUser registrar.domain db username with
    | error error => rfl
    | ok user => rfl

/-- The error of a name that is not resolved. -/
def unknown (username : String) : UserError := .message ("no such user: " ++ username)

/-- A name is resolved, or refused with the name as it was given. -/
theorem requireUser_cases (domain : String) (db : Db) (username : String) :
    requireUser domain db username = .error (unknown username) ∨
      ∃ user, requireUser domain db username = .ok user := by
  unfold requireUser
  cases localUsername username domain with
  | none => exact .inl rfl
  | some name =>
    dsimp only
    cases db.getUser name with
    | none => exact .inl rfl
    | some user => exact .inr ⟨user, rfl⟩

/-- What is printed and stored is what was stored. -/
theorem confirmed_stored_inj {left right : Outcome Unit} :
    confirmed (stored left) = confirmed (stored right) ↔ left = right := by
  obtain ⟨left, first⟩ := left
  obtain ⟨right, second⟩ := right
  cases left with
  | ok => cases right with
    | ok => simp [confirmed, stored, Except.map]
    | error other => simp [confirmed, stored, Except.map]
  | error error => cases right with
    | ok => simp [confirmed, stored, Except.map]
    | error other => simp [confirmed, stored, Except.map]

/-- A subcommand whose result is not one of the store. -/
theorem confirmed_stored_ne (outcome : Outcome Unit) (text : String) (db : Db) :
    confirmed (stored outcome) ≠ (.error (.message text), db) := by
  obtain ⟨result, after⟩ := outcome
  cases result with
  | ok => simp [confirmed, stored, Except.map]
  | error error => simp [confirmed, stored, Except.map]

/-- A subcommand on a user it has found does not say that there is no such user. -/
theorem act_ne_unknown (registrar : Registrar crypto) (aead : Keys.Aead) (db after : Db)
    (name username : String) (user : User) (command : Subcommand) :
    command.act registrar aead db username user ≠ (.error (unknown name), after) := by
  have other (text : String) (first : text.toList.head? ≠ Option.some 'n') :
      ((.error (.message text), db) : Except UserError Printed × Db) ≠
        (.error (unknown name), after) := by
    intro same
    have texts : text = "no such user: " ++ name :=
      UserError.message.inj (Except.error.inj (Prod.mk.inj same).1)
    rw [texts, String.toList_append] at first
    exact first rfl
  cases command with
  | userPasswd password =>
    rw [Subcommand.act.eq_def]
    dsimp only
    cases registrar.hashPassword password with
    | error error =>
      apply other
      rw [String.toList_append, List.head?_append_of_ne_nil _ (by decide)]
      decide
    | ok hash => exact confirmed_stored_ne _ _ _
  | userSetIvk ivk =>
    rw [Subcommand.act.eq_def]
    dsimp only
    cases Hex.decodeBlock 32 ivk with
    | none => exact other _ (by decide)
    | some block => exact confirmed_stored_ne _ _ _
  | shareInit dk draws =>
    rw [Subcommand.act]
    by_cases empty : draws = []
    · rw [if_pos empty]
      exact other _ (by decide)
    · rw [if_neg empty]
      exact confirmed_stored_ne _ _ _
  | userShow | shareList | keyringList => exact fun same => by cases (Prod.mk.inj same).1
  | userDelete | userUnsetIvk | shareRevoke | keyringPin | keyringUnpin =>
    exact confirmed_stored_ne _ _ _

/-- Two different names are the same to a subcommand that resolves them exactly where both are
resolved, to users for which it does the same. -/
theorem onUser_eq_iff {domain bare qualified : String} (different : bare ≠ qualified) {db : Db}
    {first second : User → Except UserError Printed × Db}
    (firstFound : ∀ name user after, first user ≠ (.error (unknown name), after))
    (secondFound : ∀ name user after, second user ≠ (.error (unknown name), after)) :
    onUser domain db bare first = onUser domain db qualified second ↔
      ∃ left right, requireUser domain db bare = .ok left ∧
        requireUser domain db qualified = .ok right ∧ first left = second right := by
  unfold onUser
  rcases requireUser_cases domain db bare with missing | ⟨left, found⟩
  · rw [missing]
    refine iff_of_false ?_ fun ⟨_, _, found, _⟩ => by cases found
    rcases requireUser_cases domain db qualified with also | ⟨right, other⟩
    · rw [also]
      intro same
      have texts := UserError.message.inj (Except.error.inj (Prod.mk.inj same).1)
      exact different (String.append_right_inj _ |>.mp texts)
    · rw [other]
      exact fun same => secondFound _ _ _ same.symm
  · rw [found]
    rcases requireUser_cases domain db qualified with missing | ⟨right, other⟩
    · rw [missing]
      exact iff_of_false (firstFound _ _ _) fun ⟨_, _, _, other, _⟩ => by cases other
    · rw [other]
      constructor
      · exact fun same => ⟨left, right, rfl, rfl, same⟩
      · rintro ⟨_, _, ⟨⟩, ⟨⟩, same⟩
        exact same

/-! ## Where a subcommand does the same for two users -/

/-- A store operation that leaves the same for two users. -/
theorem outcome_eq_iff {left right : Db} :
    (((.ok (), left) : Outcome Unit) = (.ok (), right)) ↔ left = right := by
  simp

/-- An update of the rows of one name is the same as of those of another exactly where it is
settled. -/
theorem updateUser_eq_iff {db : Db} {bare qualified : String} (different : bare ≠ qualified)
    (known : ∃ row ∈ db.users, row.username = bare) (change : UserRow → UserRow) :
    db.updateUser bare change = db.updateUser qualified change ↔
      Settled db bare qualified fun row => change row = row := by
  have here : (db.users.any fun row => decide (row.username = bare)) = true := by
    simpa using known
  have apart (row : UserRow) : decide (row.username = bare) = true →
      decide (row.username = qualified) = false := by
    rw [decide_eq_true_iff, decide_eq_false_iff_not]
    exact fun first second => different (first.symm.trans second)
  unfold Db.updateUser Settled
  dsimp only
  rw [if_pos here]
  by_cases also : (db.users.any fun row => decide (row.username = qualified)) = true
  · have other : ∃ row ∈ db.users, row.username = qualified := by simpa using also
    rw [if_pos also, outcome_eq_iff, and_iff_right other]
    constructor
    · intro same
      have tables := (update_eq_update_iff apart).mp (congrArg Db.users same)
      simpa using tables
    · intro settled
      rw [(update_eq_update_iff apart).mpr (by simpa using settled)]
  · have missing : ¬∃ row ∈ db.users, row.username = qualified := by simpa using also
    rw [if_neg also]
    exact iff_of_false (fun same => by cases (Prod.mk.inj same).1) fun settled =>
      missing settled.1

/-- A password is set by one name as by another exactly where both rows have it already. -/
theorem setPassword_eq_iff {db : Db} {bare qualified : String} (different : bare ≠ qualified)
    (known : ∃ row ∈ db.users, row.username = bare) (hash : String) :
    db.setPassword bare hash = db.setPassword qualified hash ↔
      Settled db bare qualified fun row => row.passwordHash = hash := by
  have already (row : UserRow) :
      ({ row with passwordHash := hash } : UserRow) = row ↔ row.passwordHash = hash := by
    cases row
    simp [eq_comm]
  rw [Db.setPassword, Db.setPassword, updateUser_eq_iff different known]
  simp only [already]

/-- A commitment is set by one name as by another exactly where both rows have it already. -/
theorem setIvk_eq_iff {db : Db} {bare qualified : String} (different : bare ≠ qualified)
    (known : ∃ row ∈ db.users, row.username = bare) (ivkCommitment : Option String) :
    db.setIvk bare ivkCommitment = db.setIvk qualified ivkCommitment ↔
      Settled db bare qualified fun row => row.ivkCommitment = ivkCommitment := by
  have already (row : UserRow) : ({ row with ivkCommitment := ivkCommitment } : UserRow) = row ↔
      row.ivkCommitment = ivkCommitment := by
    cases row
    simp [eq_comm]
  rw [Db.setIvk, Db.setIvk, updateUser_eq_iff different known]
  simp only [already]

/-- The row of a user that is found under a name. -/
theorem row_of_getUser {db : Db} {name : String} {user : User}
    (found : db.getUser name = some user) : ∃ row ∈ db.users, row.username = name := by
  obtain ⟨row, first, -⟩ := Option.map_eq_some_iff.mp found
  exact ⟨row, List.mem_of_find?_eq_some first, by simpa using List.find?_some first⟩

/-- A row with the key of one user does not have that of another. -/
theorem keys_apart {ρ : Type} {key : ρ → Nat × String} {left right : Nat} (different : left ≠ right)
    (text : String) (row : ρ) (selected : decide (key row = (left, text)) = true) :
    decide (key row = (right, text)) = false := by
  rw [decide_eq_true_iff] at selected
  rw [decide_eq_false_iff_not, selected]
  exact fun same => different (Prod.mk.inj same).1

/-- A statement on a share finds a row exactly where the user has it. -/
theorem any_shareKey {db : Db} {user : User} {shareId : String} :
    (db.shares.any fun row => decide (Db.shareKey row = (user.id, shareId))) = true ↔
      Taken db user.id shareId := by
  simp only [List.any_eq_true, decide_eq_true_iff, Taken]

/-- A statement on a pin finds a row exactly where the user has it. -/
theorem any_pinKey {db : Db} {user : User} {sender : String} :
    (db.keyring.any fun row => decide (Db.pinKey row = (user.id, sender))) = true ↔
      HasPinned db user sender := by
  simp only [List.any_eq_true, decide_eq_true_iff, HasPinned]

/-- The first share of a user is refused, or added before the others. -/
theorem initShares_cases (aead : Keys.Aead) {db : Db} {user : User}
    (known : ∃ row ∈ db.users, row.id = user.id) (dk : Keys.SecretKey) (draw : Keys.Draw)
    (draws : List Keys.Draw) :
    (Taken db user.id (Hex.encode draw.shareId.val) ∧
      initShares aead db user.id dk (draw :: draws) = (.error .storage, db)) ∨
    (¬Taken db user.id (Hex.encode draw.shareId.val) ∧ ∃ row : ShareRow, row.userId = user.id ∧
      db.shares ++ [row] <+: (initShares aead db user.id dk (draw :: draws)).2.shares) := by
  have row : (db.users.any fun other => decide (other.id = user.id)) = true := by
    simpa using known
  rw [initShares, Keys.wrap, List.map_cons, addShares, Db.addShare]
  by_cases taken : Taken db user.id (Hex.encode draw.shareId.val)
  · rw [if_pos (any_shareKey.mpr taken)]
    exact .inl ⟨taken, rfl⟩
  · rw [if_neg fun selected => taken (any_shareKey.mp selected), if_pos row]
    let wrapper : Keys.WrappedByShare :=
      ⟨draw.shareId, Keys.aeadSeal aead draw.share draw.nonce dk.val⟩
    obtain ⟨added, rest, parts, final, -, -⟩ := addShares_cases
      { db with shares := db.shares ++ [shareRow user.id wrapper] } user.id
      (Keys.wrap aead dk draws)
    refine .inr ⟨taken, shareRow user.id wrapper, rfl, ?_⟩
    change _ <+: (addShares { db with shares := db.shares ++ [shareRow user.id wrapper] } user.id
      (Keys.wrap aead dk draws)).2.shares
    rw [final]
    exact List.prefix_append _ _

/-- The first share that is added decides whether the shares are the same for two users. -/
theorem initShares_eq_iff (aead : Keys.Aead) {db : Db} {left right : User}
    (different : left.id ≠ right.id) (leftRow : ∃ row ∈ db.users, row.id = left.id)
    (rightRow : ∃ row ∈ db.users, row.id = right.id) (dk : Keys.SecretKey)
    (draw : Keys.Draw) (draws : List Keys.Draw) :
    initShares aead db left.id dk (draw :: draws) = initShares aead db right.id dk (draw :: draws) ↔
      Taken db left.id (Hex.encode draw.shareId.val) ∧
        Taken db right.id (Hex.encode draw.shareId.val) := by
  have longer {after : Db} {row : ShareRow} (more : db.shares ++ [row] <+: after.shares) :
      after ≠ db := by
    intro same
    have lengths := more.length_le
    rw [same, List.length_append, List.length_singleton] at lengths
    omega
  rcases initShares_cases aead leftRow dk draw draws with
    ⟨leftHas, leftDone⟩ | ⟨leftFree, leftNew, leftId, leftDone⟩
  · rcases initShares_cases aead rightRow dk draw draws with
      ⟨rightHas, rightDone⟩ | ⟨rightFree, rightNew, rightId, rightDone⟩
    · rw [leftDone, rightDone]
      exact iff_of_true rfl ⟨leftHas, rightHas⟩
    · refine iff_of_false (fun same => ?_) fun both => rightFree both.2
      rw [leftDone] at same
      exact longer rightDone (congrArg Prod.snd same).symm
  · refine iff_of_false (fun same => ?_) fun both => leftFree both.1
    rcases initShares_cases aead rightRow dk draw draws with
      ⟨rightHas, rightDone⟩ | ⟨rightFree, rightNew, rightId, rightDone⟩
    · rw [rightDone] at same
      exact longer leftDone (congrArg Prod.snd same)
    · rw [same] at leftDone
      have rows : db.shares ++ [leftNew] = db.shares ++ [rightNew] := by
        apply (List.prefix_of_prefix_length_le leftDone rightDone _).eq_of_length
        · simp
        · simp
      have one : leftNew = rightNew := by simpa using rows
      exact different (leftId.symm.trans ((congrArg ShareRow.userId one).trans rightId))

/-- A revocation is the same for two users exactly where it changes nothing. -/
theorem revokeShare_eq_iff {db : Db} {left right : User} (different : left.id ≠ right.id)
    (shareId : String) :
    db.revokeShare left.id shareId = db.revokeShare right.id shareId ↔
      (Taken db left.id shareId ↔ Taken db right.id shareId) ∧
        ∀ row ∈ db.shares, Db.shareKey row = (left.id, shareId) ∨
          Db.shareKey row = (right.id, shareId) → row.revoked = true := by
  have settled (row : ShareRow) :
      ({ row with revoked := true } : ShareRow) = row ↔ row.revoked = true := by
    cases row
    simp [eq_comm]
  unfold Db.revokeShare
  dsimp only
  by_cases leftHas : Taken db left.id shareId
  · rw [if_pos (any_shareKey.mpr leftHas)]
    by_cases rightHas : Taken db right.id shareId
    · rw [if_pos (any_shareKey.mpr rightHas), outcome_eq_iff,
        and_iff_right (iff_of_true leftHas rightHas)]
      have tables := @update_eq_update_iff _ _ _ (@keys_apart _ Db.shareKey _ _ different shareId)
        (fun row => { row with revoked := true }) db.shares
      simp only [decide_eq_true_iff, settled] at tables
      rw [← tables]
      exact ⟨congrArg Db.shares, fun same => by rw [same]⟩
    · rw [if_neg (any_shareKey.not.mpr rightHas)]
      exact iff_of_false (fun same => by cases (Prod.mk.inj same).1) fun both =>
        rightHas (both.1.mp leftHas)
  · rw [if_neg (any_shareKey.not.mpr leftHas)]
    by_cases rightHas : Taken db right.id shareId
    · rw [if_pos (any_shareKey.mpr rightHas)]
      exact iff_of_false (fun same => by cases (Prod.mk.inj same).1) fun both =>
        leftHas (both.1.mpr rightHas)
    · rw [if_neg (any_shareKey.not.mpr rightHas)]
      refine iff_of_true rfl ⟨iff_of_false leftHas rightHas, fun row member selected => ?_⟩
      exact selected.elim (fun key => absurd ⟨row, member, key⟩ leftHas)
        fun key => absurd ⟨row, member, key⟩ rightHas

/-- A pin is the same for two users exactly where both have it already. -/
theorem keyringSetTrusted_eq_iff {db : Db} {left right : User} (different : left.id ≠ right.id)
    (leftRow : ∃ row ∈ db.users, row.id = left.id) (rightRow : ∃ row ∈ db.users, row.id = right.id)
    (sender pubkey : String) (now : Int64) :
    db.keyringSetTrusted left.id sender pubkey [] now =
        db.keyringSetTrusted right.id sender pubkey [] now ↔
      (HasPinned db left sender ∧ HasPinned db right sender) ∧
        ∀ row ∈ db.keyring, Db.pinKey row = (left.id, sender) ∨
          Db.pinKey row = (right.id, sender) →
            row.senderPubkey = pubkey ∧ row.attestation = [] ∧ row.state = "trusted" := by
  have known {user : User} (row : ∃ row ∈ db.users, row.id = user.id) :
      (db.users.any fun other => decide (other.id = user.id)) = true := by
    simpa using row
  have settled (row : KeyringRow) :
      ({ row with senderPubkey := pubkey, attestation := [], state := "trusted" } : KeyringRow) =
        row ↔ row.senderPubkey = pubkey ∧ row.attestation = [] ∧ row.state = "trusted" := by
    cases row
    simp [eq_comm]
  have lengths (row : KeyringRow) (selects : KeyringRow → Bool) (change : KeyringRow → KeyringRow) :
      db.keyring ++ [row] ≠ update selects change db.keyring := by
    intro same
    have sizes := congrArg List.length same
    rw [update, List.length_map, List.length_append, List.length_singleton] at sizes
    omega
  unfold Db.keyringSetTrusted
  dsimp only
  rw [if_pos (known leftRow), if_pos (known rightRow)]
  by_cases leftHas : HasPinned db left sender
  · rw [if_pos (any_pinKey.mpr leftHas)]
    by_cases rightHas : HasPinned db right sender
    · rw [if_pos (any_pinKey.mpr rightHas), outcome_eq_iff, and_iff_right ⟨leftHas, rightHas⟩]
      have tables := @update_eq_update_iff _ _ _ (@keys_apart _ Db.pinKey _ _ different sender)
        (fun row => { row with senderPubkey := pubkey, attestation := [], state := "trusted" })
        db.keyring
      simp only [decide_eq_true_iff, settled] at tables
      rw [← tables]
      exact ⟨congrArg Db.keyring, fun same => by rw [same]⟩
    · rw [if_neg (any_pinKey.not.mpr rightHas), outcome_eq_iff]
      exact iff_of_false (fun same => lengths _ _ _ (congrArg Db.keyring same).symm) fun both =>
        rightHas both.1.2
  · rw [if_neg (any_pinKey.not.mpr leftHas)]
    by_cases rightHas : HasPinned db right sender
    · rw [if_pos (any_pinKey.mpr rightHas), outcome_eq_iff]
      exact iff_of_false (fun same => lengths _ _ _ (congrArg Db.keyring same)) fun both =>
        leftHas both.1.1
    · rw [if_neg (any_pinKey.not.mpr rightHas), outcome_eq_iff]
      refine iff_of_false (fun same => ?_) fun both => leftHas both.1.1
      have rows := List.append_cancel_left (congrArg Db.keyring same)
      exact different (congrArg KeyringRow.userId (List.cons.inj rows).1)

/-- A removal of a pin is the same for two users exactly where neither has it. -/
theorem unpinKeyring_eq_iff {db : Db} {left right : User} (different : left.id ≠ right.id)
    (sender : String) :
    db.unpinKeyring left.id sender = db.unpinKeyring right.id sender ↔
      ¬HasPinned db left sender ∧ ¬HasPinned db right sender := by
  unfold Db.unpinKeyring
  dsimp only
  by_cases leftHas : HasPinned db left sender
  · rw [if_pos (any_pinKey.mpr leftHas)]
    refine iff_of_false (fun same => ?_) fun neither => neither.1 leftHas
    by_cases rightHas : HasPinned db right sender
    · rw [if_pos (any_pinKey.mpr rightHas), outcome_eq_iff] at same
      obtain ⟨row, member, key⟩ := leftHas
      have kept := filter_eq_filter_iff.mp (congrArg Db.keyring same) row member
      have selected : decide (Db.pinKey row = (left.id, sender)) = true := decide_eq_true key
      rw [selected, keys_apart different sender row selected] at kept
      cases kept
    · rw [if_neg (any_pinKey.not.mpr rightHas)] at same
      cases (Prod.mk.inj same).1
  · rw [if_neg (any_pinKey.not.mpr leftHas)]
    by_cases rightHas : HasPinned db right sender
    · rw [if_pos (any_pinKey.mpr rightHas)]
      exact iff_of_false (fun same => by cases (Prod.mk.inj same).1) fun neither =>
        neither.2 rightHas
    · rw [if_neg (any_pinKey.not.mpr rightHas)]
      exact iff_of_true rfl ⟨leftHas, rightHas⟩

/-- What two users have to share for an operation on one of them to be that on the other. -/
theorem alike_ids {left right : User} {same alike : Prop} (equal : left.id = right.id → same)
    (apart : left.id ≠ right.id → (same ↔ alike)) : same ↔ left.id = right.id ∨ alike := by
  by_cases ids : left.id = right.id
  · exact iff_of_true (equal ids) (.inl ids)
  · rw [apart ids]
    exact ⟨Or.inr, fun either => either.resolve_left ids⟩

/-- A subcommand does the same for the two users its names are resolved to exactly where these are
alike. -/
theorem act_eq_iff (registrar : Registrar crypto) (aead : Keys.Aead) {db : Db}
    {bare qualified : String} (different : bare ≠ qualified)
    (known : ∃ row ∈ db.users, row.username = bare) {left right : User}
    (leftRow : ∃ row ∈ db.users, row.id = left.id) (rightRow : ∃ row ∈ db.users, row.id = right.id)
    {command : Subcommand} (other : command ≠ .userDelete) :
    command.act registrar aead db bare left = command.act registrar aead db qualified right ↔
      Alike registrar db bare qualified left right command := by
  cases command with
  | userDelete => exact absurd rfl other
  | userShow =>
    simp only [Subcommand.act, Alike, Prod.mk.injEq, Except.ok.injEq, Printed.user.injEq,
      Shown.mk.injEq, and_true]
    constructor
    · exact And.left
    · intro same
      rw [same]
      exact ⟨rfl, rfl, rfl, rfl⟩
  | userPasswd password =>
    simp only [Subcommand.act, Alike]
    cases hashed : registrar.hashPassword password with
    | error error => simp
    | ok hash =>
      dsimp only
      rw [confirmed_stored_inj, setPassword_eq_iff different known]
      simp
  | userSetIvk ivk =>
    simp only [Subcommand.act, Alike]
    cases Hex.decodeBlock 32 ivk with
    | none => simp
    | some block =>
      dsimp only
      rw [confirmed_stored_inj, setIvk_eq_iff different known]
      simp
  | userUnsetIvk =>
    simp only [Subcommand.act, Alike]
    rw [confirmed_stored_inj, setIvk_eq_iff different known]
  | shareList => simp [Subcommand.act, Alike]
  | keyringList => simp [Subcommand.act, Alike]
  | shareInit dk draws =>
    simp only [Subcommand.act, Alike]
    refine alike_ids (fun ids => by rw [ids]) fun ids => ?_
    cases draws with
    | nil => simp
    | cons draw draws =>
      rw [if_neg (List.cons_ne_nil _ _), if_neg (List.cons_ne_nil _ _), confirmed_stored_inj,
        initShares_eq_iff aead ids leftRow rightRow]
      simp
  | shareRevoke shareId =>
    simp only [Subcommand.act, Alike]
    refine alike_ids (fun ids => by rw [ids]) fun ids => ?_
    rw [confirmed_stored_inj, revokeShare_eq_iff ids]
  | keyringPin sender pubkey now =>
    simp only [Subcommand.act, Alike]
    refine alike_ids (fun ids => by rw [ids]) fun ids => ?_
    rw [confirmed_stored_inj, keyringSetTrusted_eq_iff ids leftRow rightRow]
  | keyringUnpin sender =>
    simp only [Subcommand.act, Alike]
    refine alike_ids (fun ids => by rw [ids]) fun ids => ?_
    rw [confirmed_stored_inj, unpinKeyring_eq_iff ids]

/-! ## Qualified names -/

/-- A qualified name is not the name. -/
theorem ne_qualified (username domain : String) : username ≠ username ++ "@" ++ domain := by
  intro same
  have lengths := congrArg (fun text => text.toList.length) same
  simp at lengths

/-- A deletion is never the same for two names. -/
theorem deleteUser_ne {db : Db} (keyed : Keyed db) {bare qualified : String}
    (different : bare ≠ qualified) {user : User} (found : db.getUser bare = some user) :
    db.deleteUser bare ≠ db.deleteUser qualified := by
  intro same
  obtain ⟨row, first, shape⟩ := Option.map_eq_some_iff.mp found
  have member := List.mem_of_find?_eq_some first
  have name : row.username = bare := by simpa using List.find?_some first
  unfold Db.deleteUser at same
  rw [found] at same
  cases also : db.getUser qualified with
  | none =>
    rw [also] at same
    cases (Prod.mk.inj same).1
  | some other =>
    rw [also] at same
    obtain ⟨row', first', shape'⟩ := Option.map_eq_some_iff.mp also
    have member' := List.mem_of_find?_eq_some first'
    have name' : row'.username = qualified := by simpa using List.find?_some first'
    have rows := filter_eq_filter_iff.mp (congrArg Db.users (Prod.mk.inj same).2) row member
    rw [← shape, ← shape'] at rows
    have ids : row.id = row'.id := by simpa using rows
    have one := eq_of_unique keyed.userIds member member' ids
    exact different (by rw [← name, ← name', one])

/-- Bob. -/
def bob : User := ⟨1, "bob", [], none, none⟩

/-- Bob is found in his store. -/
theorem bob_found : OutboundRecords.bobStore.getUser "bob" = some bob := by decide +kernel

/-- The keys of bob's store are unique. -/
theorem keyed_bob : Keyed OutboundRecords.bobStore :=
  keyed_apply noTemplate "b.io" keyed_empty createBob

/-- A user's name alone and with a domain are interchangeable exactly where both are resolved, to
users for which the subcommand does the same. -/
theorem interchangeable_iff (registrar : Registrar crypto) (aead : Keys.Aead) {db : Db}
    (keyed : Keyed db) {username : String} {user : User} (found : db.getUser username = some user)
    (domain : String) (command : Subcommand) :
    Interchangeable registrar aead db username domain command ↔
      Resolved registrar db username domain command := by
  have different := ne_qualified username domain
  unfold Interchangeable Resolved
  by_cases deletes : command = .userDelete
  · rw [deletes]
    refine iff_of_false (fun same => ?_) fun ⟨_, _, _, _, alike⟩ => alike
    exact deleteUser_ne keyed different found (confirmed_stored_inj.mp same)
  · rw [run_eq_onUser _ _ _ _ deletes, run_eq_onUser _ _ _ _ deletes,
      onUser_eq_iff different (fun _ _ _ => act_ne_unknown _ _ _ _ _ _ _ _)
        fun _ _ _ => act_ne_unknown _ _ _ _ _ _ _ _]
    refine exists_congr fun left => exists_congr fun right => ?_
    refine and_congr_right fun leftFound => and_congr_right fun rightFound => ?_
    exact act_eq_iff registrar aead different (row_of_getUser found) (mem_of_requireUser leftFound)
      (mem_of_requireUser rightFound) deletes

/-- Bob's keyring is listed by the name with the domain as by the name. -/
theorem bob_keyring_listed :
    Interchangeable Names.atB Keys.Aead.labelled OutboundRecords.bobStore "bob" "B.ORG"
      .keyringList :=
  (interchangeable_iff Names.atB Keys.Aead.labelled keyed_bob bob_found "B.ORG" .keyringList).mpr
    ⟨bob, bob, by decide +kernel, by decide +kernel, rfl⟩

/-! ## A new password -/

/-- A new password for bob is set by the name, and refused by the name with the domain: bob is found
first, and then looked for under the name as it was given. -/
theorem passwd_needs_bare_name :
    ¬∀ (db : Db) (username domain : String) (user : User) (command : Subcommand), Keyed db →
      db.getUser username = some user →
      eqIgnoreAsciiCase domain Names.atB.domain = true →
      Interchangeable Names.atB Keys.Aead.labelled db username domain command := by
  intro all
  have same := all OutboundRecords.bobStore "bob" "b.org" bob (.userPasswd "secret") keyed_bob
    bob_found (by decide)
  have refused : ((Subcommand.userPasswd "secret").run Names.atB Keys.Aead.labelled
      OutboundRecords.bobStore ("bob" ++ "@" ++ "b.org")).1 =
        .error (.store (.userNotFound "bob@b.org")) := by
    decide +kernel
  have done : ((Subcommand.userPasswd "secret").run Names.atB Keys.Aead.labelled
      OutboundRecords.bobStore "bob").1 = .ok .done := by
    decide +kernel
  rw [← same, done] at refused
  cases refused

end Talk.Verif.QualifiedNames
