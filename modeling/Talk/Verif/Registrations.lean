import Talk.Lib.Transition
import Talk.Verif.CommandSteps

/-!
# Registrations and their rows

A registration attestation is signed once, over the columns the user is created with. Names and
public keys are never rewritten, and a row is deleted with its attestation. The IVK commitment is
rewritten by two commands that leave the attestation as it is, so it matches its row all along a run
exactly if these commands only write the commitment that is there.
-/

namespace Talk.Verif.Registrations

open Mailstore Table Daemon Ctl Protocol Transition CommandSteps

variable {crypto : Crypto}

/-! ## What an attestation attests -/

/-- A registration is signed over its own digest. -/
def Signed (crypto : Crypto) (key : crypto.SigningKey) (registration : RegistrationAttestation) :
    Prop :=
  ∃ size : registration.signature.length = 64,
    crypto.verify (crypto.verifyingKey key) (registration.digest crypto).val
      ⟨registration.signature, size⟩ = true

/-- A registration is signed with the domain's key, and is that of a row. -/
structure MatchesRow (registrar : Registrar crypto) (row : UserRow)
    (registration : RegistrationAttestation) : Prop where
  /-- The signature. -/
  signed : Signed crypto registrar.domainKey registration
  /-- The name. -/
  username : registration.username = row.username
  /-- The public key. -/
  masterPubkey : registration.masterPubkey = Hex.encode row.masterPubkey
  /-- The commitment. -/
  ivkCommitment : registration.ivkCommitment = row.ivkCommitment

/-- The attestation of a row, if it has one, parses and matches the row. -/
def AttestedRow (registrar : Registrar crypto) (reader : RegistrationReader) (row : UserRow) :
    Prop :=
  ∀ text, row.registrationAttestation = some text → ∃ registration,
    RegistrationAttestation.fromJson reader text = .ok registration ∧
      MatchesRow registrar row registration

/-- Every row is attested. -/
def Attested (registrar : Registrar crypto) (reader : RegistrationReader) (db : Db) : Prop :=
  ∀ row ∈ db.users, AttestedRow registrar reader row

/-! ## Runs -/

/-- What is done to the users. -/
inductive Action where
  /-- `REGISTER`. -/
  | register (request : RegisterRequest) (registeredAt now : Int64)
  /-- `user create`. -/
  | create (request : RegisterRequest) (registeredAt now : Int64) (dk : Keys.SecretKey)
    (draws : List Keys.Draw)
  /-- `user passwd`. -/
  | passwd (username password : String)
  /-- `user set-ivk`. -/
  | setIvk (username ivk : String)
  /-- `user unset-ivk`. -/
  | unsetIvk (username : String)
  /-- `user delete`. -/
  | delete (username : String)

/-- The store after an action. -/
def step (registrar : Registrar crypto) (aead : Keys.Aead) (db : Db) : Action → Db
  | .register request registeredAt now => (register registrar db request registeredAt now).2
  | .create request registeredAt now dk draws =>
    (userCreateShares registrar aead db request registeredAt now dk draws).2
  | .passwd username password => (userPasswd registrar db username password).2
  | .setIvk username ivk => (userSetIvk registrar.domain db username ivk).2
  | .unsetIvk username => (userUnsetIvk registrar.domain db username).2
  | .delete username => (userDelete db username).2

/-- The commitment that an action writes, and the name it writes it for. -/
def Writes (domain : String) (db : Db) (username : String) (commitment : Option String) :
    Action → Prop
  | .setIvk name ivk => name = username ∧ commitment = some ivk ∧ Requires domain db username ∧
    (Hex.decodeBlock 32 ivk).isSome
  | .unsetIvk name => name = username ∧ commitment = none ∧ Requires domain db username
  | _ => False

/-- An action only writes the commitment that an attested row has. -/
def KeepsCommitment (domain : String) (db : Db) (action : Action) : Prop :=
  ∀ username commitment, Writes domain db username commitment action →
    ∀ row ∈ db.users, row.username = username → row.registrationAttestation ≠ none →
      row.ivkCommitment = commitment

/-! ## What an action does to the rows -/

/-- A new user is attested. -/
theorem attestedRow_new (registrar : Registrar crypto) (reader : RegistrationReader) (db : Db)
    (request : RegisterRequest) (hash : String) (masterPubkey : List UInt8)
    (registeredAt now : Int64) :
    AttestedRow registrar reader
      (createdRow registrar db request hash masterPubkey registeredAt now) := by
  intro text stored
  have written : attestationFor registrar request masterPubkey registeredAt = text :=
    Option.some.inj stored
  refine ⟨RegistrationAttestation.sign crypto registrar.domain request.username masterPubkey
    request.ivkHex registeredAt registrar.domainKey, ?_, ⟨?_, rfl, rfl, rfl⟩⟩
  · rw [← written, RegistrationAttestation.fromJson, attestationFor, buildRegistrationAttestation,
      reader.read_toJson]
  · refine ⟨(crypto.sign registrar.domainKey _).property, ?_⟩
    exact crypto.verify_sign registrar.domainKey _

variable {registrar : Registrar crypto} {reader : RegistrationReader} {db : Db}

/-- Rows that are the same stay attested. -/
theorem attested_users (attested : Attested registrar reader db) {after : Db}
    (same : after.users = db.users) : Attested registrar reader after := by
  unfold Attested
  rw [same]
  exact attested

/-- A user that is created is attested. -/
theorem attested_creates (attested : Attested registrar reader db) {after : Db}
    {request : RegisterRequest} {registeredAt now : Int64} {user : User}
    (creates : Creates registrar db request registeredAt now user after) :
    Attested registrar reader after := by
  obtain ⟨hash, masterPubkey, -, -, users⟩ := creates_tables creates
  unfold Attested
  rw [users]
  intro row member
  rcases List.mem_append.mp member with old | new
  · exact attested row old
  · rw [List.mem_singleton.mp new]
    exact attestedRow_new registrar reader db request hash masterPubkey registeredAt now

/-- `REGISTER` keeps the rows attested. -/
theorem attested_register (attested : Attested registrar reader db) (request : RegisterRequest)
    (registeredAt now : Int64) :
    Attested registrar reader (register registrar db request registeredAt now).2 := by
  rcases register_stores registrar db request registeredAt now with kept | ⟨user, creates⟩
  · rw [kept]
    exact attested
  · exact attested_creates attested creates

/-- `user create` keeps the rows attested. -/
theorem attested_userCreateShares (aead : Keys.Aead) (attested : Attested registrar reader db)
    (request : RegisterRequest) (registeredAt now : Int64) (dk : Keys.SecretKey)
    (draws : List Keys.Draw) :
    Attested registrar reader
      (userCreateShares registrar aead db request registeredAt now dk draws).2 := by
  unfold userCreateShares
  rcases userCreate_stores registrar db request registeredAt now with
    ⟨error, refused⟩ | ⟨user, after, done, creates⟩
  · rw [refused]
    exact attested
  · have created := attested_creates attested creates
    rw [done]
    dsimp only
    by_cases none : draws = []
    · rw [if_pos none]
      exact created
    · rw [if_neg none, stored_snd]
      exact attested_users created (users_addShares after user.id (Keys.wrap aead dk draws))

/-- A new password keeps the rows attested. -/
theorem attested_setPassword (attested : Attested registrar reader db)
    (username passwordHash : String) :
    Attested registrar reader (db.setPassword username passwordHash).2 := by
  unfold Attested Db.setPassword
  rw [users_updateUser]
  intro row member
  obtain ⟨old, inside, rfl⟩ := mem_update.mp member
  have before := attested old inside
  split
  · intro text present
    obtain ⟨registration, parsed, matching⟩ := before text present
    exact ⟨registration, parsed, matching.signed, matching.username, matching.masterPubkey,
      matching.ivkCommitment⟩
  · exact before

/-- A commitment keeps the rows attested exactly if it is the one the attested rows have. -/
theorem attested_setIvk_iff (attested : Attested registrar reader db) (username : String)
    (commitment : Option String) :
    Attested registrar reader (db.setIvk username commitment).2 ↔
      ∀ row ∈ db.users, row.username = username → row.registrationAttestation ≠ none →
        row.ivkCommitment = commitment := by
  have users : (db.setIvk username commitment).2.users =
      update (fun row => decide (row.username = username))
        (fun row => { row with ivkCommitment := commitment }) db.users :=
    users_updateUser ..
  unfold Attested
  rw [users]
  constructor
  · intro after row member name present
    obtain ⟨text, stored⟩ := Option.ne_none_iff_exists'.mp present
    have changed := after { row with ivkCommitment := commitment } (mem_update.mpr
      ⟨row, member, by rw [if_pos (decide_eq_true name)]⟩)
    obtain ⟨registration, parsed, matching⟩ := attested row member text stored
    obtain ⟨again, parsedAgain, written⟩ := changed text stored
    have same : registration = again := Except.ok.inj (parsed.symm.trans parsedAgain)
    rw [← matching.ivkCommitment, same]
    exact written.ivkCommitment
  · intro kept row member
    obtain ⟨old, inside, rfl⟩ := mem_update.mp member
    by_cases name : old.username = username
    · rw [if_pos (decide_eq_true name)]
      intro text stored
      have present : old.registrationAttestation ≠ none := by
        rw [show old.registrationAttestation = some text from stored]
        exact Option.some_ne_none text
      have same := kept old inside name present
      obtain ⟨registration, parsed, matching⟩ := attested old inside text stored
      exact ⟨registration, parsed, matching.signed, matching.username, matching.masterPubkey,
        matching.ivkCommitment.trans same⟩
    · rw [if_neg (by simpa using name)]
      exact attested old inside

/-- A deletion keeps the rows attested. -/
theorem attested_deleteUser (attested : Attested registrar reader db) (username : String) :
    Attested registrar reader (db.deleteUser username).2 := by
  cases found : db.getUser username with
  | none =>
    unfold Db.deleteUser
    rw [found]
    exact attested
  | some user =>
    rw [Deletion.deleteUser_tables found]
    exact fun row member => attested row (List.mem_filter.mp member).1

/-! ## Steps -/

/-- A step keeps the rows attested exactly if it keeps the commitments. -/
theorem attested_step_iff (aead : Keys.Aead) (attested : Attested registrar reader db)
    (action : Action) :
    Attested registrar reader (step registrar aead db action) ↔
      KeepsCommitment registrar.domain db action := by
  cases action with
  | register request registeredAt now =>
    exact iff_of_true (attested_register attested request registeredAt now)
      fun _ _ writes => writes.elim
  | create request registeredAt now dk draws =>
    exact iff_of_true (attested_userCreateShares aead attested request registeredAt now dk draws)
      fun _ _ writes => writes.elim
  | passwd username password =>
    refine iff_of_true ?_ fun _ _ writes => writes.elim
    rcases userPasswd_cases registrar db username password with kept | ⟨hash, set⟩
    · rw [step, kept]
      exact attested
    · rw [step, set]
      exact attested_setPassword attested username hash
  | setIvk username ivk =>
    rcases userSetIvk_cases registrar.domain db username ivk with
      ⟨refused, kept⟩ | ⟨required, wellFormed, set⟩
    · rw [step, kept]
      refine iff_of_true attested ?_
      rintro _ _ ⟨rfl, rfl, required, wellFormed⟩
      exact absurd ⟨required, wellFormed⟩ refused
    · rw [step, set, attested_setIvk_iff attested]
      constructor
      · rintro kept _ _ ⟨rfl, rfl, -, -⟩
        exact kept
      · intro keeps
        exact keeps username (some ivk) ⟨rfl, rfl, required, wellFormed⟩
  | unsetIvk username =>
    rcases userUnsetIvk_cases registrar.domain db username with ⟨missing, kept⟩ | ⟨required, set⟩
    · rw [step, kept]
      refine iff_of_true attested ?_
      rintro _ _ ⟨rfl, rfl, found⟩
      exact absurd found missing
    · rw [step, set, attested_setIvk_iff attested]
      constructor
      · rintro kept _ _ ⟨rfl, rfl, -⟩
        exact kept
      · intro keeps
        exact keeps username none ⟨rfl, rfl, required⟩
  | delete username =>
    refine iff_of_true ?_ fun _ _ writes => writes.elim
    rw [step, userDelete, stored_snd]
    exact attested_deleteUser attested username

/-- In every state of a run each stored attestation parses, is signed with the domain's key over its
own digest, and has the name, the public key and the commitment of its row, exactly if no step
writes a commitment other than the one an attested row has. -/
theorem registrations_match_iff (registrar : Registrar crypto) (reader : RegistrationReader)
    (aead : Keys.Aead) (actions : List Action) :
    (∀ reached, reached <+: actions →
        Attested registrar reader (run (step registrar aead) .empty reached)) ↔
      Guarded (step registrar aead) (KeepsCommitment registrar.domain) .empty actions := by
  have start : Attested registrar reader Db.empty := fun row member =>
    absurd member List.not_mem_nil
  have same (db : Db) (action : Action) (attested : Attested registrar reader db) :=
    attested_step_iff aead attested action
  exact @along_iff _ _ (step registrar aead) (KeepsCommitment registrar.domain)
    (Attested registrar reader) same Db.empty start actions

/-! ## Bob sets a commitment -/

/-- Registration at `b.io`. -/
def atBio : Registrar Crypto.mirror := ⟨"b.io", (), .ok, "UNIQUE constraint failed"⟩

/-- 32 bytes of hexadecimal. -/
def zeros : String := "0000000000000000000000000000000000000000000000000000000000000000"

/-- Bob's request, without an IVK. -/
def bobRequest : RegisterRequest := ⟨"bob", "secret", zeros, none⟩

/-- Bob is registered. -/
def withBob : Db := step atBio .labelled .empty (.register bobRequest 0 0)

/-- Bob registers, and an IVK is set for him. His attestation has no commitment, and his row has
one. -/
theorem commitment_not_attested :
    ¬Attested atBio .strict (run (step atBio .labelled) .empty
      [.register bobRequest 0 0, .setIvk "bob" zeros]) := by
  have attested : Attested atBio .strict withBob :=
    attested_register (fun row member => absurd member List.not_mem_nil) bobRequest 0 0
  have found : (requireUser "b.io" withBob "bob").toOption.map User.username = some "bob" := by
    decide +kernel
  have required : Requires "b.io" withBob "bob" := by
    cases lookup : requireUser "b.io" withBob "bob" with
    | ok user => exact ⟨user, lookup⟩
    | error error =>
      rw [lookup] at found
      cases found
  have row : ∃ row ∈ withBob.users, row.username = "bob" ∧
      row.registrationAttestation.isSome ∧ row.ivkCommitment = none := by
    decide +kernel
  obtain ⟨row, member, name, present, none⟩ := row
  intro after
  have kept := (attested_step_iff .labelled attested (.setIvk "bob" zeros)).mp after
  have same := kept "bob" (some zeros) ⟨rfl, rfl, required, by decide +kernel⟩ row member name
    (Option.isSome_iff_ne_none.mp present)
  rw [none] at same
  cases same

end Talk.Verif.Registrations
