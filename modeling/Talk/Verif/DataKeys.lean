import Talk.Lib.Transition
import Talk.Verif.CommandSteps

/-!
# Data keys

Every `share init` generates a data key of its own and adds its wrappers to those that are there. So
all active wrappers of a user open to one data key all along a run exactly if shares are only issued
to users without an active wrapper. A user that is created with shares has none.
-/

namespace Talk.Verif.DataKeys

open Mailstore Table Daemon Ctl Keys Transition CommandSteps

variable {crypto : Protocol.Crypto}

/-! ## Runs -/

/-- What is done to the users and their shares. -/
inductive Action where
  /-- `user create`, with its shares. -/
  | create (request : RegisterRequest) (registeredAt now : Int64) (draws : List Draw)
  /-- `share init`. -/
  | init (username : String) (draws : List Draw)
  /-- `share revoke`. -/
  | revoke (username shareId : String)

/-- The store, and how many data keys the generator has given out. -/
structure World where
  /-- The store. -/
  db : Db
  /-- The data keys given out. -/
  drawn : Nat

/-- The store after an action, with the data key that is drawn for it. -/
def storeAfter (registrar : Registrar crypto) (aead : Aead) (dk : SecretKey) (db : Db) : Action → Db
  | .create request registeredAt now draws =>
    (userCreateShares registrar aead db request registeredAt now dk draws).2
  | .init username draws => (shareInit aead registrar.domain db username dk draws).2
  | .revoke username shareId => (shareRevoke registrar.domain db username shareId).2

/-- The store after an action with the next data key. -/
def step (registrar : Registrar crypto) (aead : Aead) (keys : Nat → SecretKey) (world : World)
    (action : Action) : World :=
  ⟨storeAfter registrar aead (keys world.drawn) world.db action, world.drawn + 1⟩

/-- Nothing is stored or drawn. -/
def World.empty : World := ⟨.empty, 0⟩

/-- Any two active wrappers of a user open to one data key, each under a share of its own. -/
def OneKey (aead : Aead) (db : Db) : Prop :=
  ∀ left ∈ db.shares, ∀ right ∈ db.shares, left.userId = right.userId →
    left.revoked = false → right.revoked = false →
    ∀ leftShare leftKey rightShare rightKey,
      aeadOpen aead leftShare left.wrappedDk = some leftKey →
      aeadOpen aead rightShare right.wrappedDk = some rightKey → leftKey = rightKey

/-- A user has no active wrapper. -/
def Bare (db : Db) (userId : Nat) : Prop :=
  ∀ row ∈ db.shares, row.userId = userId → row.revoked = true

/-- Shares are only issued to a user without an active wrapper, unless the first one is refused for
its id. -/
def IssuesToBare (domain : String) (world : World) : Action → Prop
  | .init username draws => ∀ user draw, requireUser domain world.db username = .ok user →
    draws.head? = some draw →
      Bare world.db user.id ∨ Taken world.db user.id (Hex.encode draw.shareId.val)
  | _ => True

/-- The next data key is none of those given out. -/
def NextDiffers (keys : Nat → SecretKey) (world : World) : Prop :=
  ∀ index < world.drawn, keys index ≠ keys world.drawn

/-! ## What every wrapper wraps -/

/-- A wrapper is sealed with a data key that was given out. -/
def Given (aead : Aead) (keys : Nat → SecretKey) (drawn : Nat) (row : ShareRow) : Prop :=
  ∃ index < drawn, ∃ share, SealedUnder aead share (keys index) row.wrappedDk

/-- The wrappers are of users, and wrap data keys that were given out. -/
structure Issued (aead : Aead) (keys : Nat → SecretKey) (world : World) : Prop where
  /-- Every wrapper references its user. -/
  owned : ∀ row ∈ world.db.shares, ∃ user ∈ world.db.users, user.id = row.userId
  /-- Every wrapper wraps a data key that was given out. -/
  given : ∀ row ∈ world.db.shares, Given aead keys world.drawn row

/-- A wrapper of a data key opens to it. -/
theorem opens_sealed {aead : Aead} (ideal : Ideal aead) {share dk other : SecretKey}
    {key wrapped : List UInt8} (wraps : SealedUnder aead share dk wrapped)
    (opened : aeadOpen aead other wrapped = some key) : key = dk.val := by
  obtain ⟨nonce, wrapped⟩ := wraps
  obtain ⟨again, same⟩ := (ideal.opens_iff other _ key).mp opened
  exact (ideal.sealed_once (same.symm.trans wrapped)).2

/-- A wrapper of a data key opens. -/
theorem sealed_opens {aead : Aead} (ideal : Ideal aead) {share dk : SecretKey}
    {wrapped : List UInt8} (wraps : SealedUnder aead share dk wrapped) :
    aeadOpen aead share wrapped = some dk.val :=
  (ideal.opens_iff share wrapped dk.val).mpr wraps

/-! ## What an action does to the wrappers -/

/-- Rows are new wrappers of one data key, for one user. -/
def Wrappers (aead : Aead) (dk : SecretKey) (userId : Nat) (rows : List ShareRow) : Prop :=
  ∀ row ∈ rows, row.userId = userId ∧ row.revoked = false ∧
    ∃ share, SealedUnder aead share dk row.wrappedDk

/-- An action adds wrappers of its data key for one user. -/
structure Adds (aead : Aead) (dk : SecretKey) (db after : Db) (userId : Nat)
    (rows : List ShareRow) : Prop where
  /-- The wrappers. -/
  shares : after.shares = db.shares ++ rows
  /-- They are new. -/
  wrappers : Wrappers aead dk userId rows
  /-- Users stay. -/
  users : ∀ user ∈ db.users, user ∈ after.users
  /-- The wrappers reference their user. -/
  owner : rows ≠ [] → ∃ user ∈ after.users, user.id = userId

/-- Nothing is added. -/
theorem adds_nothing (aead : Aead) (dk : SecretKey) {db after : Db} (userId : Nat)
    (shares : after.shares = db.shares) (users : ∀ user ∈ db.users, user ∈ after.users) :
    Adds aead dk db after userId [] :=
  ⟨by rw [shares, List.append_nil], fun row member => absurd member List.not_mem_nil, users,
    fun some => absurd rfl some⟩

/-- Adding shares adds the wrappers up to one that is refused. -/
theorem adds_addShares (aead : Aead) (dk : SecretKey) (db : Db) {userId : Nat}
    (known : ∃ user ∈ db.users, user.id = userId) (draws : List Draw) :
    ∃ rows, Adds aead dk db (addShares db userId (wrap aead dk draws)).2 userId rows ∧
      ((∀ draw, draws.head? = some draw → Taken db userId (Hex.encode draw.shareId.val)) ↔
        rows = []) := by
  obtain ⟨added, rest, parts, final, refused, first⟩ :=
    addShares_cases db userId (wrap aead dk draws)
  have drawn (draw : Draw) (head : draws.head? = some draw) :
      (⟨draw.shareId, aeadSeal aead draw.share draw.nonce dk.val⟩ : WrappedByShare) ∈
        (wrap aead dk draws).head? := by
    unfold wrap
    rw [List.head?_map, head]
    rfl
  refine ⟨added.map (shareRow userId), ⟨by rw [final], ?_, by rw [final]; exact fun _ => id,
    fun _ => by rw [final]; exact known⟩, ?_⟩
  · intro row member
    obtain ⟨draw, -, same⟩ := mem_added parts member
    rw [same]
    exact ⟨rfl, rfl, draw.share, draw.nonce, rfl⟩
  · rw [List.map_eq_nil_iff]
    constructor
    · intro taken
      by_contra some
      cases draws with
      | nil => exact some (List.append_eq_nil_iff.mp parts.symm).1
      | cons draw draws => exact first some _ (drawn draw rfl) (taken draw rfl)
    · intro none draw head
      rcases refused none _ (drawn draw head) with taken | missing
      · exact taken
      · obtain ⟨user, member, same⟩ := known
        exact absurd same (missing user member)

section Steps

variable {registrar : Registrar crypto} {aead : Aead} {keys : Nat → SecretKey} {world : World}

/-- An action adds wrappers of its data key for one user, for whom it may, or revokes one. -/
theorem storeAfter_cases (issued : Issued aead keys world) (dk : SecretKey) (action : Action) :
    (∃ userId rows, Adds aead dk world.db (storeAfter registrar aead dk world.db action) userId
        rows ∧
      (IssuesToBare registrar.domain world action ↔ rows = [] ∨ Bare world.db userId)) ∨
    (IssuesToBare registrar.domain world action ∧ ∃ userId shareId,
      storeAfter registrar aead dk world.db action = (world.db.revokeShare userId shareId).2) := by
  cases action with
  | create request registeredAt now draws =>
    left
    unfold storeAfter userCreateShares
    dsimp only
    rcases userCreate_stores registrar world.db request registeredAt now with
      ⟨error, refused⟩ | ⟨user, after, done, creates⟩
    · rw [refused]
      exact ⟨0, [], adds_nothing aead dk 0 rfl fun _ => id, iff_of_true trivial (.inl rfl)⟩
    · obtain ⟨hash, masterPubkey, id, shares, users⟩ := creates_tables creates
      have grown : ∀ user ∈ world.db.users, user ∈ after.users := fun user member => by
        rw [users]
        exact List.mem_append_left _ member
      rw [done]
      dsimp only
      by_cases none : draws = []
      · rw [if_pos none]
        exact ⟨0, [], adds_nothing aead dk 0 shares grown, iff_of_true trivial (.inl rfl)⟩
      · rw [if_neg none, stored_snd]
        have known : ∃ row ∈ after.users, row.id = user.id := by
          refine ⟨createdRow registrar world.db request hash masterPubkey registeredAt now, ?_,
            id.symm⟩
          rw [users]
          exact List.mem_append_right _ (List.mem_singleton_self _)
        obtain ⟨rows, adds, -⟩ := adds_addShares aead dk after known draws
        refine ⟨user.id, rows, ⟨adds.shares.trans (by rw [shares]), adds.wrappers,
          fun row member => adds.users row (grown row member), adds.owner⟩,
          iff_of_true trivial (.inr fun row member owner => ?_)⟩
        -- The id of the user is new, so no wrapper is of it.
        obtain ⟨other, inside, same⟩ := issued.owned row member
        exact absurd (same.trans (owner.trans id))
          (nextId_fresh UserRow.id world.db.users other inside)
  | init username draws =>
    left
    unfold storeAfter
    dsimp only
    rcases shareInit_cases aead registrar.domain world.db username dk draws with
      ⟨refused, kept⟩ | ⟨user, found, some, done⟩
    · rw [kept]
      refine ⟨0, [], adds_nothing aead dk 0 rfl fun _ => id, iff_of_true ?_ (.inl rfl)⟩
      intro user draw found head
      rw [refused user found] at head
      cases head
    · rw [done]
      obtain ⟨rows, adds, nothing⟩ :=
        adds_addShares aead dk world.db (mem_of_requireUser found) draws
      refine ⟨user.id, rows, adds, ?_⟩
      rw [← nothing]
      constructor
      · intro condition
        by_cases bare : Bare world.db user.id
        · exact .inr bare
        · exact .inl fun draw head => (condition user draw found head).resolve_left bare
      · intro either other draw same head
        obtain rfl : user = other := Except.ok.inj (found.symm.trans same)
        rcases either with taken | bare
        · exact .inr (taken draw head)
        · exact .inl bare
  | revoke username shareId =>
    unfold storeAfter shareRevoke
    dsimp only
    cases requireUser registrar.domain world.db username with
    | error error =>
      exact .inl ⟨0, [], adds_nothing aead dk 0 rfl fun _ => id, iff_of_true trivial (.inl rfl)⟩
    | ok user => exact .inr ⟨trivial, user.id, shareId, stored_snd _⟩

/-- The wrappers stay those of users, and of data keys that were given out. -/
theorem issued_step (issued : Issued aead keys world) (action : Action) :
    Issued aead keys (step registrar aead keys world action) := by
  have older {row : ShareRow} (given : Given aead keys world.drawn row) :
      Given aead keys (world.drawn + 1) row := by
    obtain ⟨index, less, wraps⟩ := given
    exact ⟨index, Nat.lt_succ_of_lt less, wraps⟩
  rcases @storeAfter_cases _ registrar _ _ _ issued (keys world.drawn) action with
    ⟨userId, rows, adds, -⟩ | ⟨-, userId, shareId, revoked⟩
  · constructor
    · intro row member
      rw [step, adds.shares] at member
      rcases List.mem_append.mp member with old | new
      · obtain ⟨user, inside, same⟩ := issued.owned row old
        exact ⟨user, adds.users user inside, same⟩
      · rw [(adds.wrappers row new).1]
        exact adds.owner (List.ne_nil_of_mem new)
    · intro row member
      rw [step, adds.shares] at member
      rcases List.mem_append.mp member with old | new
      · exact older (issued.given row old)
      · exact ⟨world.drawn, Nat.lt_succ_self _, (adds.wrappers row new).2.2⟩
  · unfold step
    rw [revoked, revokeShare_snd]
    have before {row : ShareRow} (member : row ∈ update
        (fun row => decide (Db.shareKey row = (userId, shareId)))
        (fun row => { row with revoked := true }) world.db.shares) :
        ∃ old ∈ world.db.shares, row.userId = old.userId ∧ row.wrappedDk = old.wrappedDk := by
      obtain ⟨old, inside, rfl⟩ := mem_update.mp member
      refine ⟨old, inside, ?_⟩
      split
      · exact ⟨rfl, rfl⟩
      · exact ⟨rfl, rfl⟩
    constructor
    · intro row member
      obtain ⟨old, inside, owner, -⟩ := before member
      rw [owner]
      exact issued.owned old inside
    · intro row member
      obtain ⟨old, inside, -, wrapped⟩ := before member
      unfold Given
      rw [wrapped]
      exact older (issued.given old inside)

/-- New wrappers of a new data key keep one key exactly for a user without an active wrapper. -/
theorem oneKey_adds_iff (ideal : Ideal aead) (differs : NextDiffers keys world)
    (issued : Issued aead keys world) (one : OneKey aead world.db) {after : Db} {userId : Nat}
    {rows : List ShareRow} (adds : Adds aead (keys world.drawn) world.db after userId rows) :
    OneKey aead after ↔ rows = [] ∨ Bare world.db userId := by
  unfold OneKey
  rw [adds.shares]
  constructor
  · intro all
    by_cases none : rows = []
    · exact .inl none
    · refine .inr fun row member owner => ?_
      by_contra active
      obtain ⟨new, inside⟩ := List.exists_mem_of_ne_nil rows none
      obtain ⟨newOwner, newActive, newShare, wraps⟩ := adds.wrappers new inside
      obtain ⟨index, less, share, before⟩ := issued.given row member
      have same := all row (List.mem_append_left _ member) new (List.mem_append_right _ inside)
        (owner.trans newOwner.symm) (Bool.eq_false_of_not_eq_true active) newActive share
        (keys index).val newShare (keys world.drawn).val (sealed_opens ideal before)
        (sealed_opens ideal wraps)
      exact differs index less (Subtype.ext same)
  · intro either left leftIn right rightIn owner leftActive rightActive leftShare leftKey
      rightShare rightKey leftOpens rightOpens
    rcases List.mem_append.mp leftIn with leftOld | leftNew
    · rcases List.mem_append.mp rightIn with rightOld | rightNew
      · exact one left leftOld right rightOld owner leftActive rightActive leftShare leftKey
          rightShare rightKey leftOpens rightOpens
      · have bare := either.resolve_left (List.ne_nil_of_mem rightNew)
        rw [bare left leftOld (owner.trans (adds.wrappers right rightNew).1)] at leftActive
        cases leftActive
    · rcases List.mem_append.mp rightIn with rightOld | rightNew
      · have bare := either.resolve_left (List.ne_nil_of_mem leftNew)
        rw [bare right rightOld (owner.symm.trans (adds.wrappers left leftNew).1)] at rightActive
        cases rightActive
      · obtain ⟨-, -, _, leftWraps⟩ := adds.wrappers left leftNew
        obtain ⟨-, -, _, rightWraps⟩ := adds.wrappers right rightNew
        rw [opens_sealed ideal leftWraps leftOpens, opens_sealed ideal rightWraps rightOpens]

/-- A revocation keeps one key. -/
theorem oneKey_revoke {db : Db} (one : OneKey aead db) (userId : Nat) (shareId : String) :
    OneKey aead (db.revokeShare userId shareId).2 := by
  rw [revokeShare_snd]
  have before {row : ShareRow} (member : row ∈ update
      (fun row => decide (Db.shareKey row = (userId, shareId)))
      (fun row => { row with revoked := true }) db.shares) (active : row.revoked = false) :
      row ∈ db.shares := by
    obtain ⟨old, inside, rfl⟩ := mem_update.mp member
    by_cases chosen : Db.shareKey old = (userId, shareId)
    · rw [if_pos (decide_eq_true chosen)] at active
      cases active
    · rw [if_neg (by simpa using chosen)]
      exact inside
  intro left leftIn right rightIn owner leftActive rightActive
  exact one left (before leftIn leftActive) right (before rightIn rightActive) owner leftActive
    rightActive

/-- A step keeps one key for each user exactly if it issues shares to users without any. -/
theorem oneKey_step_iff (ideal : Ideal aead) (differs : NextDiffers keys world)
    (issued : Issued aead keys world) (one : OneKey aead world.db) (action : Action) :
    OneKey aead (step registrar aead keys world action).db ↔
      IssuesToBare registrar.domain world action := by
  rcases @storeAfter_cases _ registrar _ _ _ issued (keys world.drawn) action with
    ⟨userId, rows, adds, condition⟩ | ⟨condition, userId, shareId, revoked⟩
  · rw [condition]
    exact oneKey_adds_iff ideal differs issued one adds
  · refine iff_of_true ?_ condition
    rw [step, revoked]
    exact oneKey_revoke one userId shareId

end Steps

/-- If the data keys of a run differ, each differs from those before it. -/
theorem guarded_differs (registrar : Registrar crypto) (aead : Aead) (keys : Nat → SecretKey)
    {world : World} {actions : List Action}
    (differ : ∀ index < world.drawn + actions.length, ∀ earlier < index,
      keys earlier ≠ keys index) :
    Guarded (step registrar aead keys) (fun world _ => NextDiffers keys world) world actions := by
  induction actions generalizing world with
  | nil => trivial
  | cons action actions ih =>
    rw [List.length_cons] at differ
    refine ⟨differ world.drawn (by omega), ih fun index less earlier before => ?_⟩
    have drawn : (step registrar aead keys world action).drawn = world.drawn + 1 := rfl
    rw [drawn] at less
    exact differ index (by omega) earlier before

/-- All active wrappers of a user open to one data key, in every state of a run, exactly if shares
are only issued to users without an active wrapper. -/
theorem one_key_iff (registrar : Registrar crypto) {aead : Aead} (ideal : Ideal aead)
    {keys : Nat → SecretKey} {actions : List Action}
    (differ : ∀ index < actions.length, ∀ earlier < index, keys earlier ≠ keys index) :
    (∀ reached, reached <+: actions →
        OneKey aead (run (step registrar aead keys) .empty reached).db) ↔
      Guarded (step registrar aead keys) (IssuesToBare registrar.domain) .empty actions := by
  have start : Issued aead keys World.empty :=
    ⟨fun row member => absurd member List.not_mem_nil,
      fun row member => absurd member List.not_mem_nil⟩
  have holds : OneKey aead World.empty.db := fun left member =>
    absurd member List.not_mem_nil
  have permitted := @guarded_differs _ registrar aead keys World.empty actions
    (by rwa [show World.empty.drawn = 0 from rfl, Nat.zero_add])
  exact @allowed_along_iff _ _ (step registrar aead keys) (fun world _ => NextDiffers keys world)
    (IssuesToBare registrar.domain) (Issued aead keys) (fun world => OneKey aead world.db)
    (fun world action issued => issued_step issued action)
    (fun world action issued differs one => oneKey_step_iff ideal differs issued one action)
    World.empty start holds actions permitted

/-! ## Bob's shares -/

/-- Registration at `b.io`. -/
def atBio : Registrar Protocol.Crypto.mirror := ⟨"b.io", (), .ok, "UNIQUE constraint failed"⟩

/-- Bob's request. -/
def bobRequest : RegisterRequest :=
  ⟨"bob", "secret", "0000000000000000000000000000000000000000000000000000000000000000", none⟩

/-- Data keys of one byte each, repeated. -/
def countedKeys (index : Nat) : SecretKey := .replicate 32 (UInt8.ofNat index)

/-- Bob is created with a share, which is revoked before he gets another one. -/
def replaced : List Action :=
  [.create bobRequest 0 0 [.replicate 1],
    .revoke "bob" (Hex.encode (Draw.replicate 1).shareId.val), .init "bob" [.replicate 2]]

/-- Bob's active wrappers open to one data key after the replacement. -/
theorem replaced_one_key :
    OneKey .labelled (run (step atBio .labelled countedKeys) .empty replaced).db := by
  have differ : ∀ index < replaced.length, ∀ earlier < index,
      countedKeys earlier ≠ countedKeys index := by
    decide +kernel
  have revoked : ∀ row ∈ (run (step atBio .labelled countedKeys) .empty
      (replaced.take 2)).db.shares, row.revoked = true := by
    decide +kernel
  have guarded : Guarded (step atBio .labelled countedKeys) (IssuesToBare "b.io") .empty replaced :=
    ⟨trivial, trivial, fun _ _ _ _ => .inl fun row member _ => revoked row member, trivial⟩
  exact (one_key_iff atBio ideal_labelled differ).mpr guarded replaced (List.prefix_refl replaced)

/-- Bob is created with a share, and gets another one. -/
def added : List Action := [.create bobRequest 0 0 [.replicate 1], .init "bob" [.replicate 2]]

/-- The two open to different data keys. -/
theorem added_two_keys :
    ¬OneKey .labelled (run (step atBio .labelled countedKeys) .empty added).db := by
  have rows : (run (step atBio .labelled countedKeys) .empty added).db.shares =
      [shareRow 1 ⟨(Draw.replicate 1).shareId, aeadSeal .labelled (Draw.replicate 1).share
          (Draw.replicate 1).nonce (countedKeys 0).val⟩,
        shareRow 1 ⟨(Draw.replicate 2).shareId, aeadSeal .labelled (Draw.replicate 2).share
          (Draw.replicate 2).nonce (countedKeys 1).val⟩] := by
    decide +kernel
  have opens (draw : Draw) (index : Nat) : aeadOpen .labelled draw.share
      (aeadSeal .labelled draw.share draw.nonce (countedKeys index).val) =
        some (countedKeys index).val :=
    sealed_opens ideal_labelled ⟨draw.nonce, rfl⟩
  have differ : (countedKeys 0).val ≠ (countedKeys 1).val := by decide +kernel
  intro one
  unfold OneKey at one
  rw [rows] at one
  exact differ (one _ List.mem_cons_self _ (List.mem_cons_of_mem _ List.mem_cons_self) rfl rfl rfl
    _ _ _ _ (opens (.replicate 1) 0) (opens (.replicate 2) 1))

end Talk.Verif.DataKeys
