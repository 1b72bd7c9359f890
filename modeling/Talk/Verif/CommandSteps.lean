import Talk.Ctl.Store
import Talk.Verif.Deletion

/-!
# What a command does to the store

One lemma for each command on users and shares: it is refused and changes nothing, or leaves the
store that the statement names.
-/

namespace Talk.Verif.CommandSteps

open Mailstore Table Daemon Ctl Protocol

variable {crypto : Crypto}

/-- What is stored is what the store operation leaves. -/
theorem stored_snd (outcome : Outcome Unit) : (stored outcome).2 = outcome.2 := by
  obtain ⟨result, db⟩ := outcome
  cases result with
  | ok => rfl
  | error error => rfl

/-! ## Users -/

/-- The attestation that a request is registered with. -/
def attestationFor (registrar : Registrar crypto) (request : RegisterRequest)
    (masterPubkey : List UInt8) (registeredAt : Int64) : String :=
  buildRegistrationAttestation registrar request.username masterPubkey request.ivkHex registeredAt

/-- A request stores a user with its attestation. -/
def Creates (registrar : Registrar crypto) (db : Db) (request : RegisterRequest)
    (registeredAt now : Int64) (user : User) (after : Db) : Prop :=
  ∃ hash masterPubkey, db.createUserFull request.username hash masterPubkey request.ivkHex
    (some (attestationFor registrar request masterPubkey registeredAt)) now = (.ok user, after)

/-- `REGISTER` changes nothing, or stores the user of the request. -/
theorem register_stores (registrar : Registrar crypto) (db : Db) (request : RegisterRequest)
    (registeredAt now : Int64) :
    (register registrar db request registeredAt now).2 = db ∨
      ∃ user, Creates registrar db request registeredAt now user
        (register registrar db request registeredAt now).2 := by
  unfold register
  cases Hex.decodeBlock 32 request.pubkeyHex with
  | none => exact .inl rfl
  | some pubkey =>
    dsimp only
    by_cases malformed : ivkValid request.ivkHex = false
    · rw [if_pos malformed]
      exact .inl rfl
    rw [if_neg malformed]
    by_cases missing : request.username = "" ∨ request.password = ""
    · rw [if_pos missing]
      exact .inl rfl
    rw [if_neg missing]
    cases registrar.hashPassword request.password with
    | error error => exact .inl rfl
    | ok hash =>
      dsimp only
      by_cases taken : db.users.any (·.username == request.username) = true
      · rw [Db.createUserFull, if_pos taken]
        exact .inl rfl
      · rw [Db.createUserFull, if_neg taken]
        exact .inr ⟨_, hash, pubkey.val, by rw [Db.createUserFull, if_neg taken]; rfl⟩

/-- `user create` is refused and changes nothing, or stores the user of the request. -/
theorem userCreate_stores (registrar : Registrar crypto) (db : Db) (request : RegisterRequest)
    (registeredAt now : Int64) :
    (∃ error, userCreate registrar db request registeredAt now = (.error error, db)) ∨
      ∃ user after, userCreate registrar db request registeredAt now = (.ok user, after) ∧
        Creates registrar db request registeredAt now user after := by
  unfold userCreate
  cases Hex.decodeBlock 32 request.pubkeyHex with
  | none => exact .inl ⟨_, rfl⟩
  | some pubkey =>
    dsimp only
    by_cases malformed : ivkValid request.ivkHex = false
    · rw [if_pos malformed]
      exact .inl ⟨_, rfl⟩
    rw [if_neg malformed]
    by_cases missing : request.username = "" ∨ request.password = ""
    · rw [if_pos missing]
      exact .inl ⟨_, rfl⟩
    rw [if_neg missing]
    cases validateUsername request.username with
    | error error => exact .inl ⟨error, rfl⟩
    | ok =>
      cases registrar.hashPassword request.password with
      | error error => exact .inl ⟨_, rfl⟩
      | ok hash =>
        dsimp only
        by_cases taken : db.users.any (·.username == request.username) = true
        · rw [Db.createUserFull, if_pos taken]
          exact .inl ⟨_, rfl⟩
        · rw [Db.createUserFull, if_neg taken]
          exact .inr ⟨_, _, rfl, hash, pubkey.val, by rw [Db.createUserFull, if_neg taken]; rfl⟩

/-- The row of a user that is created. -/
def createdRow (registrar : Registrar crypto) (db : Db) (request : RegisterRequest)
    (hash : String) (masterPubkey : List UInt8) (registeredAt now : Int64) : UserRow :=
  ⟨nextId UserRow.id db.users, request.username, hash, masterPubkey, now, request.ivkHex,
    some (attestationFor registrar request masterPubkey registeredAt)⟩

/-- A user that is created has a new row id. Shares are as they were. -/
theorem creates_tables {registrar : Registrar crypto} {db after : Db} {request : RegisterRequest}
    {registeredAt now : Int64} {user : User}
    (creates : Creates registrar db request registeredAt now user after) :
    ∃ hash masterPubkey, user.id = nextId UserRow.id db.users ∧ after.shares = db.shares ∧
      after.users = db.users ++
        [createdRow registrar db request hash masterPubkey registeredAt now] := by
  obtain ⟨hash, masterPubkey, created⟩ := creates
  unfold Db.createUserFull at created
  by_cases taken : db.users.any (·.username == request.username) = true
  · rw [if_pos taken] at created
    cases (Prod.mk.inj created).1
  · rw [if_neg taken] at created
    obtain ⟨user, tables⟩ := Prod.mk.inj created
    refine ⟨hash, masterPubkey, ?_, ?_, ?_⟩
    · rw [← Except.ok.inj user]
    · rw [← tables]
      rfl
    · rw [← tables]
      rfl

/-- An update of a user changes the rows of that name. -/
theorem users_updateUser (db : Db) (username : String) (change : UserRow → UserRow) :
    (db.updateUser username change).2.users =
      update (fun row => decide (row.username = username)) change db.users := by
  unfold Db.updateUser
  dsimp only
  by_cases found : (db.users.any fun row => decide (row.username = username)) = true
  · rw [if_pos found]
  · rw [if_neg found]
    have none : ∀ row ∈ db.users, decide (row.username = username) = false := by
      intro row member
      by_contra selected
      exact found (List.any_eq_true.mpr ⟨row, member, Bool.eq_true_of_not_eq_false selected⟩)
    exact (update_eq_self none change).symm

/-- A command finds its user. -/
def Requires (domain : String) (db : Db) (username : String) : Prop :=
  ∃ user, requireUser domain db username = .ok user

/-- The user that a command finds is a row of the store. -/
theorem mem_of_requireUser {domain : String} {db : Db} {username : String} {user : User}
    (found : requireUser domain db username = .ok user) : ∃ row ∈ db.users, row.id = user.id := by
  unfold requireUser at found
  cases resolved : localUsername username domain with
  | none =>
    rw [resolved] at found
    cases found
  | some name =>
    rw [resolved] at found
    dsimp only at found
    cases lookup : db.getUser name with
    | none =>
      rw [lookup] at found
      cases found
    | some other =>
      rw [lookup] at found
      obtain ⟨row, first, same⟩ := Option.map_eq_some_iff.mp lookup
      refine ⟨row, List.mem_of_find?_eq_some first, ?_⟩
      rw [← Except.ok.inj found, ← same]

/-- A new password is set, or the command changes nothing. -/
theorem userPasswd_cases (registrar : Registrar crypto) (db : Db) (username password : String) :
    (userPasswd registrar db username password).2 = db ∨
      ∃ hash, (userPasswd registrar db username password).2 = (db.setPassword username hash).2 := by
  unfold userPasswd
  cases requireUser registrar.domain db username with
  | error error => exact .inl rfl
  | ok user =>
    cases registrar.hashPassword password with
    | error error => exact .inl rfl
    | ok hash => exact .inr ⟨hash, stored_snd _⟩

/-- A commitment is set exactly for a user that is found, and if it is well formed. -/
theorem userSetIvk_cases (domain : String) (db : Db) (username ivk : String) :
    (¬(Requires domain db username ∧ (Hex.decodeBlock 32 ivk).isSome) ∧
      (userSetIvk domain db username ivk).2 = db) ∨
    (Requires domain db username ∧ (Hex.decodeBlock 32 ivk).isSome ∧
      (userSetIvk domain db username ivk).2 = (db.setIvk username (some ivk)).2) := by
  unfold userSetIvk Requires
  cases requireUser domain db username with
  | error error => exact .inl ⟨fun ⟨⟨_, found⟩, _⟩ => (nomatch found), rfl⟩
  | ok user =>
    cases Hex.decodeBlock 32 ivk with
    | none => exact .inl ⟨fun both => Bool.false_ne_true both.2, rfl⟩
    | some block => exact .inr ⟨⟨user, rfl⟩, rfl, stored_snd _⟩

/-- A commitment is cleared exactly for a user that is found. -/
theorem userUnsetIvk_cases (domain : String) (db : Db) (username : String) :
    (¬Requires domain db username ∧ (userUnsetIvk domain db username).2 = db) ∨
    (Requires domain db username ∧
      (userUnsetIvk domain db username).2 = (db.setIvk username none).2) := by
  unfold userUnsetIvk Requires
  cases requireUser domain db username with
  | error error => exact .inl ⟨fun ⟨_, found⟩ => (nomatch found), rfl⟩
  | ok user => exact .inr ⟨⟨user, rfl⟩, stored_snd _⟩

/-! ## Shares -/

/-- The row of a wrapper. -/
def shareRow (userId : Nat) (wrapper : Keys.WrappedByShare) : ShareRow :=
  ⟨userId, Hex.encode wrapper.shareId.val, wrapper.wrapped, false⟩

/-- A user's share id is taken. -/
def Taken (db : Db) (userId : Nat) (shareId : String) : Prop :=
  ∃ row ∈ db.shares, Db.shareKey row = (userId, shareId)

/-- A share is refused and changes nothing, or is added for a user and with an id that is free. -/
theorem addShare_cases (db : Db) (userId : Nat) (shareId : String) (wrappedDk : List UInt8) :
    ((Taken db userId shareId ∨ ∀ user ∈ db.users, user.id ≠ userId) ∧
      db.addShare userId shareId wrappedDk = (.error .storage, db)) ∨
    (¬Taken db userId shareId ∧ (∃ user ∈ db.users, user.id = userId) ∧
      db.addShare userId shareId wrappedDk =
        (.ok (), { db with shares := db.shares ++ [⟨userId, shareId, wrappedDk, false⟩] })) := by
  unfold Db.addShare
  by_cases taken : Taken db userId shareId
  · have used : (db.shares.any fun row => decide (Db.shareKey row = (userId, shareId))) = true := by
      obtain ⟨row, member, same⟩ := taken
      exact List.any_eq_true.mpr ⟨row, member, decide_eq_true same⟩
    rw [if_pos used]
    exact .inl ⟨.inl taken, rfl⟩
  · have free :
        ¬(db.shares.any fun row => decide (Db.shareKey row = (userId, shareId))) = true := by
      intro used
      obtain ⟨row, member, same⟩ := List.any_eq_true.mp used
      exact taken ⟨row, member, of_decide_eq_true same⟩
    rw [if_neg free]
    by_cases known : ∃ user ∈ db.users, user.id = userId
    · have user : (db.users.any fun user => decide (user.id = userId)) = true := by
        simpa using known
      rw [if_pos user]
      exact .inr ⟨taken, known, rfl⟩
    · have missing : ¬(db.users.any fun user => decide (user.id = userId)) = true := by
        simpa using known
      rw [if_neg missing]
      exact .inl ⟨.inr (by simpa using known), rfl⟩

/-- The wrappers are added in their order up to one that is refused. -/
theorem addShares_cases (db : Db) (userId : Nat) (wrappers : List Keys.WrappedByShare) :
    ∃ added rest, wrappers = added ++ rest ∧
      (addShares db userId wrappers).2 =
        { db with shares := db.shares ++ added.map (shareRow userId) } ∧
      (added = [] → ∀ wrapper ∈ wrappers.head?,
        Taken db userId (Hex.encode wrapper.shareId.val) ∨ ∀ user ∈ db.users, user.id ≠ userId) ∧
      (added ≠ [] → ∀ wrapper ∈ wrappers.head?,
        ¬Taken db userId (Hex.encode wrapper.shareId.val)) := by
  induction wrappers generalizing db with
  | nil => exact ⟨[], [], rfl, by simp [addShares], fun _ _ => nofun, fun _ _ => nofun⟩
  | cons wrapper wrappers ih =>
    unfold addShares
    rcases addShare_cases db userId (Hex.encode wrapper.shareId.val) wrapper.wrapped with
      ⟨refused, done⟩ | ⟨free, -, done⟩
    · rw [done]
      refine ⟨[], wrapper :: wrappers, rfl, by simp, fun _ first same => ?_,
        fun some => absurd rfl some⟩
      rw [← Option.some.inj same]
      exact refused
    · rw [done]
      obtain ⟨added, rest, parts, final, -, -⟩ := ih { db with shares := db.shares ++
        [⟨userId, Hex.encode wrapper.shareId.val, wrapper.wrapped, false⟩] }
      refine ⟨wrapper :: added, rest, by rw [parts]; rfl, ?_, nofun, fun _ first same => ?_⟩
      · dsimp only
        rw [final]
        simp [shareRow]
      · rw [← Option.some.inj same]
        exact free

/-- A row that is added is the wrapper of a draw. -/
theorem mem_added {aead : Keys.Aead} {dk : Keys.SecretKey} {draws : List Keys.Draw}
    {added rest : List Keys.WrappedByShare} (parts : Keys.wrap aead dk draws = added ++ rest)
    {userId : Nat} {row : ShareRow} (member : row ∈ added.map (shareRow userId)) :
    ∃ draw ∈ draws, row = ⟨userId, Hex.encode draw.shareId.val,
      Keys.aeadSeal aead draw.share draw.nonce dk.val, false⟩ := by
  obtain ⟨wrapper, issued, rfl⟩ := List.mem_map.mp member
  have wrapped : wrapper ∈ Keys.wrap aead dk draws := by
    rw [parts]
    exact List.mem_append_left _ issued
  obtain ⟨draw, drawn, rfl⟩ := List.mem_map.mp wrapped
  exact ⟨draw, drawn, rfl⟩

/-- Adding shares leaves the users. -/
theorem users_addShares (db : Db) (userId : Nat) (wrappers : List Keys.WrappedByShare) :
    (addShares db userId wrappers).2.users = db.users := by
  obtain ⟨added, rest, -, final, -, -⟩ := addShares_cases db userId wrappers
  rw [final]

/-- A revocation marks the rows of the pair. -/
theorem revokeShare_snd (db : Db) (userId : Nat) (shareId : String) :
    (db.revokeShare userId shareId).2 =
      { db with
        shares := update (fun row => decide (Db.shareKey row = (userId, shareId)))
          (fun row => { row with revoked := true }) db.shares } := by
  unfold Db.revokeShare
  dsimp only
  by_cases found :
      (db.shares.any fun row => decide (Db.shareKey row = (userId, shareId))) = true
  · rw [if_pos found]
  · rw [if_neg found]
    have none : ∀ row ∈ db.shares, decide (Db.shareKey row = (userId, shareId)) = false := by
      intro row member
      by_contra selected
      exact found (List.any_eq_true.mpr ⟨row, member, Bool.eq_true_of_not_eq_false selected⟩)
    rw [update_eq_self none]

/-- `share init` changes nothing, or adds shares for the user it finds. -/
theorem shareInit_cases (aead : Keys.Aead) (domain : String) (db : Db) (username : String)
    (dk : Keys.SecretKey) (draws : List Keys.Draw) :
    ((∀ user, requireUser domain db username = .ok user → draws = []) ∧
      (shareInit aead domain db username dk draws).2 = db) ∨
    ∃ user, requireUser domain db username = .ok user ∧ draws ≠ [] ∧
      (shareInit aead domain db username dk draws).2 =
        (addShares db user.id (Keys.wrap aead dk draws)).2 := by
  unfold shareInit
  cases requireUser domain db username with
  | error error => exact .inl ⟨nofun, rfl⟩
  | ok user =>
    dsimp only
    by_cases none : draws = []
    · rw [if_pos none]
      exact .inl ⟨fun _ _ => none, rfl⟩
    · rw [if_neg none]
      exact .inr ⟨user, rfl, none, stored_snd _⟩

end Talk.Verif.CommandSteps
