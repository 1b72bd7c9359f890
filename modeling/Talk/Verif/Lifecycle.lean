import Talk.Ctl.Tx
import Talk.Verif.StoreSteps

/-!
# The lifecycle of transactions

The store lets a transaction go from any state to any other, so the lifecycle rests on its callers.
Deliveries and sends keep it. The actions of `talkctl tx` check the direction of a transaction, but
`resolve` and `mark-spent` do not check its state and `fail` not even its direction: over every run
the lifecycle is kept exactly if those three are used where these checks would have passed.
-/

namespace Talk.Verif.Lifecycle

open Mailstore Table Daemon Protocol Ctl Text Transition StoreSteps

/-! ## The ledger -/

/-- The states of a direction. -/
def Proper : TxDirection → TxState → Prop
  | .incoming, state => state = .opaqueTx ∨ state = .resolved ∨ state = .spent
  | .outgoing, state => state = .sent ∨ state = .failed ∨ state = .retrying

/-- What an inbound transaction may do. -/
def Moves (old new : TxState) : Prop :=
  old = new ∨ (old = .opaqueTx ∧ new = .resolved) ∨ (old = .resolved ∧ new = .spent)

/-- What a transaction of a direction may do. -/
def Permitted : TxDirection → TxState → TxState → Prop
  | .incoming, old, new => Moves old new
  | .outgoing, old, new => old = new ∨ Proper .outgoing new

/-- Every transaction was there before, and has moved as it may, or is new. -/
def Advances (before after : List Transaction) : Prop :=
  ∀ tx ∈ after,
    (∃ old ∈ before, old.id = tx.id ∧ old.direction = tx.direction ∧
      Permitted tx.direction old.state tx.state) ∨
    (Proper tx.direction tx.state ∧ ∀ old ∈ before, old.id ≠ tx.id)

/-- Every transaction was there before, in its state. -/
def Still (before after : List Transaction) : Prop :=
  ∀ tx ∈ after, ∃ old ∈ before, old.id = tx.id ∧ old.direction = tx.direction ∧
    old.state = tx.state

/-- A transaction may stay in its state. -/
theorem permitted_refl (direction : TxDirection) (state : TxState) :
    Permitted direction state state := by
  cases direction with
  | incoming => exact .inl rfl
  | outgoing => exact .inl rfl

/-- A permitted move stays within the states of the direction. -/
theorem proper_of_permitted {direction : TxDirection} {old new : TxState}
    (proper : Proper direction old) (permitted : Permitted direction old new) :
    Proper direction new := by
  cases direction with
  | incoming =>
    rcases permitted with rfl | ⟨-, rfl⟩ | ⟨-, rfl⟩
    · exact proper
    · exact .inr (.inl rfl)
    · exact .inr (.inr rfl)
  | outgoing =>
    rcases permitted with rfl | proper'
    · exact proper
    · exact proper'

/-- A ledger advances to itself. -/
theorem advances_refl (ledger : List Transaction) : Advances ledger ledger :=
  fun tx member => .inl ⟨tx, member, rfl, rfl, permitted_refl _ _⟩

/-- A ledger that has advanced and then only changed in other ways has advanced. -/
theorem advances_still {before middle after : List Transaction} (advances : Advances before middle)
    (still : Still middle after) : Advances before after := by
  intro tx member
  obtain ⟨previous, found, id, direction, state⟩ := still tx member
  rw [← id, ← direction, ← state]
  exact advances previous found

/-- An update that keeps ids, directions and states. -/
theorem still_update (ledger : List Transaction) (selects : Transaction → Bool)
    {change : Transaction → Transaction}
    (same : ∀ tx, (change tx).id = tx.id ∧ (change tx).direction = tx.direction ∧
      (change tx).state = tx.state) : Still ledger (update selects change ledger) := by
  intro tx member
  obtain ⟨old, found, rfl⟩ := mem_update.mp member
  refine ⟨old, found, ?_⟩
  split
  · obtain ⟨id, direction, state⟩ := same old
    exact ⟨id.symm, direction.symm, state.symm⟩
  · exact ⟨rfl, rfl, rfl⟩

/-- Linking keeps ids, directions and states. -/
theorem still_link (db : Db) (txId messageRowId : Nat) (now : Int64) :
    Still db.transactions (db.txLinkMessage txId messageRowId now).transactions :=
  still_update db.transactions _ fun _ => ⟨rfl, rfl, rfl⟩

/-- A new transaction in a state of its direction. -/
theorem advances_insert {ledger : List Transaction} {tx : Transaction}
    (proper : Proper tx.direction tx.state) (fresh : tx.id = nextId Transaction.id ledger) :
    Advances ledger (ledger ++ [tx]) := by
  intro other member
  rcases List.mem_append.mp member with old | new
  · exact advances_refl ledger other old
  · obtain rfl := List.mem_singleton.mp new
    refine .inr ⟨proper, fun old found => ?_⟩
    rw [fresh]
    exact nextId_fresh Transaction.id ledger old found

/-- A change that sets the state and keeps the key. -/
structure Sets (change : Transaction → Transaction) (state : TxState) : Prop extends
    KeepsTxKey change where
  /-- The state is set. -/
  state : ∀ tx, (change tx).state = state

/-- A transition sets the state. -/
theorem sets_transition (state : TxState) (now : Int64) :
    Sets (fun tx => { tx with state := state, updatedAt := now }) state :=
  ⟨keeps_transition state now, fun _ => rfl⟩

/-- A transaction makes a permitted move. -/
theorem advances_update {db : Db} (keyed : Keyed db) {tx : Transaction}
    (member : tx ∈ db.transactions) {state : TxState} {change : Transaction → Transaction}
    (sets : Sets change state) (permitted : Permitted tx.direction tx.state state) :
    Advances db.transactions (db.txUpdate tx.id change).transactions := by
  intro after found
  obtain ⟨old, inside, rfl⟩ := mem_update.mp found
  by_cases same : old.id = tx.id
  · obtain rfl := eq_of_unique keyed.txIds inside member same
    have direction : (change old).direction = old.direction := congrArg Prod.fst (sets.key old)
    rw [if_pos (by simp)]
    refine .inl ⟨old, inside, (sets.id old).symm, direction.symm, ?_⟩
    rw [direction, sets.state]
    exact permitted
  · rw [if_neg (by simpa using same)]
    exact advances_refl _ old inside

/-! ## Deliveries and sends -/

/-- Storing a received message adds at most an opaque transaction. -/
theorem advances_store (db : Db) (userId : Nat) (msg : NewMessage)
    (recipientMailbox amount : String) (now : Int64) :
    Advances db.transactions (store db userId msg recipientMailbox amount now).2.transactions := by
  rcases store_cases db userId msg recipientMailbox amount now with
    ⟨-, kept⟩ | ⟨handle, -, ⟨-, kept⟩ | ⟨-, stored⟩⟩
  · rw [kept]
    exact advances_refl _
  · rw [kept]
    exact advances_refl _
  · rw [stored]
    rcases recordInboundTx_cases (db.inserted handle msg now) msg.sender recipientMailbox amount
      msg.messageId (nextId MessageRow.id db.messages) now with ⟨-, kept⟩ | ⟨-, recorded⟩
    · rw [kept]
      exact advances_refl _
    · have created : Advances db.transactions (db.transactions ++
          [Db.newTx (db.inserted handle msg now)
            (inboundTx msg.sender recipientMailbox amount msg.messageId) now]) :=
        advances_insert (Or.inl rfl) rfl
      rw [recorded]
      exact advances_still created (still_link _ _ _ now)

/-- The copy of a sent invoice does not move a transaction. -/
theorem still_sentCopy (db : Db) (template : Template) (senderUsername senderMailbox
    recipientMailbox messageId : String) (body : List UInt8) (txId : Nat) (now : Int64) :
    Still db.transactions (sentCopy db template senderUsername senderMailbox recipientMailbox
      messageId body txId now).transactions := by
  rcases sentCopy_cases db template senderUsername senderMailbox recipientMailbox messageId body
    txId now with ⟨-, kept⟩ | ⟨user, handle, msg, -, -, -, -, -, stored⟩
  · rw [kept]
    exact fun tx member => ⟨tx, member, rfl, rfl, rfl⟩
  · rw [stored]
    exact still_link (db.inserted handle msg now) txId _ now

/-- Recording an attempt moves its own transaction to a state of outbound ones. -/
theorem advances_recordOutboundTx {db : Db} (keyed : Keyed db) (template : Template)
    (senderDomain senderUsername recipientMailbox messageId : String) (payload : Payload)
    (body : List UInt8) {state : TxState} (proper : Proper .outgoing state) (now : Int64) :
    Advances db.transactions (recordOutboundTx db template senderDomain senderUsername
      recipientMailbox messageId payload body state now).transactions := by
  obtain ⟨txId, middle, done, ⟨tx, member, key, -, same⟩ | ⟨-, -, same⟩⟩ := recordOutboundTx_eq db
    template senderDomain senderUsername recipientMailbox messageId payload body state now
  · rw [done, same]
    have outgoing : tx.direction = .outgoing := congrArg Prod.fst key
    have permitted : Permitted tx.direction tx.state state := by
      rw [outgoing]
      exact .inr proper
    exact advances_still (advances_update keyed member (sets_transition state now) permitted)
      (still_sentCopy _ template senderUsername _ recipientMailbox messageId body txId now)
  · have created : Advances db.transactions (db.transactions ++
        [db.newTx (outboundTx (senderUsername ++ "@" ++ senderDomain) recipientMailbox messageId
          payload body state) now]) :=
      advances_insert proper rfl
    rw [done, same]
    exact advances_still created
      (still_sentCopy _ template senderUsername _ recipientMailbox messageId body txId now)

/-- A send records a state that an outbound transaction may be in. -/
theorem attempt_proper (request : SendRequest) (network : Network) :
    Proper .outgoing (attempt request network).2 := by
  unfold attempt
  split
  · exact .inr (.inl rfl)
  · split
    · exact .inr (.inl rfl)
    · split
      · exact .inr (.inr rfl)
      · split
        · dsimp only
          split
          · exact .inr (.inr rfl)
          · exact .inr (.inl rfl)
        · exact .inl rfl

/-- What a delivery of the command line records. -/
theorem resultState_proper (result : Except ClientError Unit) :
    Proper .outgoing (resultState result) := by
  unfold resultState
  split
  · exact .inl rfl
  · split
    · exact .inr (.inr rfl)
    · exact .inr (.inl rfl)

/-- A send of the daemon advances the ledger. -/
theorem advances_send {db : Db} (keyed : Keyed db) (template : Template) (senderDomain : String)
    (request : SendRequest) (network : Network) (now : Int64) :
    Advances db.transactions
      (send db template senderDomain request network now).2.transactions := by
  unfold send
  split
  · exact advances_refl _
  · split
    · exact advances_refl _
    · exact advances_recordOutboundTx keyed template senderDomain _ _ _ _ _
        (attempt_proper request network) now

/-- A delivery of the command line. -/
theorem advances_deliverInvoice {db : Db} (keyed : Keyed db) (config : Config)
    (request : SendRequest) (network : Network) (now : Int64) :
    Advances db.transactions
      (deliverInvoice db config request network now).2.transactions := by
  have recorded := advances_recordOutboundTx keyed config.template config.domain
    request.senderUsername request.recipientMailbox request.messageId request.payload request.body
    (resultState_proper (sendInvoiceDeliver network)) now
  unfold deliverInvoice
  split
  · exact advances_refl _
  · split
    · exact advances_refl _
    · split
      · exact advances_refl _
      · dsimp only
        split
        · exact recorded
        · exact recorded

/-! ## Actions -/

/-- An action that the lifecycle allows for a transaction. -/
def Allowed (tx : Transaction) : TxAction → Prop
  | .resolve _ _ => tx.direction = .incoming ∧ tx.state = .opaqueTx
  | .markSpent _ => tx.direction = .incoming ∧ tx.state = .resolved
  | .fail _ => tx.direction = .outgoing
  | .retry _ => tx.direction = .outgoing

/-- What the actions do not check themselves. -/
def Unchecked (tx : Transaction) : TxAction → Prop
  | .resolve _ _ => tx.direction = .incoming → tx.state = .opaqueTx
  | .markSpent _ => tx.direction = .incoming → tx.state = .resolved
  | .fail _ => tx.direction = .outgoing
  | .retry _ => True

/-- An update of a transaction that is there. -/
theorem txUpdateFound_of_mem {db : Db} {tx : Transaction} (member : tx ∈ db.transactions)
    (change : Transaction → Transaction) :
    db.txUpdateFound tx.id change = (.ok (), db.txUpdate tx.id change) :=
  if_pos (List.any_eq_true.mpr ⟨tx, member, by simp⟩)

/-- Two updates of a transaction are one. -/
theorem txUpdate_txUpdate (db : Db) (id : Nat) (first second : Transaction → Transaction)
    (same : ∀ tx, (first tx).id = tx.id) :
    (db.txUpdate id first).txUpdate id second = db.txUpdate id (second ∘ first) := by
  simp only [Db.txUpdate, update, List.map_map]
  congr 1
  refine List.map_congr_left fun tx _ => ?_
  by_cases found : tx.id = id
  · simp [found, same]
  · simp [found]

/-- Resolving an inbound transaction, with or without a binding. -/
theorem resolve_incoming {db : Db} {tx : Transaction} (member : tx ∈ db.transactions)
    (incoming : tx.direction = .incoming) (binding : Option String) (now : Int64) :
    ∃ change, Sets change .resolved ∧
      resolve db tx binding now = (.ok (), db.txUpdate tx.id change) := by
  unfold resolve
  rw [if_neg (not_not.mpr incoming)]
  cases binding with
  | none =>
    refine ⟨_, sets_transition .resolved now, ?_⟩
    dsimp only
    rw [Db.txTransition, txUpdateFound_of_mem member]
    rfl
  | some binding =>
    let bind : Transaction → Transaction :=
      fun tx => { tx with binding := some binding, updatedAt := now }
    let settle : Transaction → Transaction :=
      fun tx => { tx with state := .resolved, updatedAt := now }
    have updated : bind tx ∈ (db.txUpdate tx.id bind).transactions :=
      mem_update.mpr ⟨tx, member, by simp⟩
    have together := txUpdate_txUpdate db tx.id bind settle fun _ => rfl
    refine ⟨settle ∘ bind, ⟨⟨fun _ => rfl, fun _ => rfl⟩, fun _ => rfl⟩, ?_⟩
    dsimp only
    rw [Db.txSetBinding, txUpdateFound_of_mem member]
    dsimp only [ofStore]
    have transitioned := txUpdateFound_of_mem updated settle
    exact congrArg ofStore (transitioned.trans (congrArg (Prod.mk _) together))

/-- What an action does to a transaction: it is refused, it sets a state, or it sends again. -/
theorem run_cases {db : Db} {action : TxAction} {tx : Transaction}
    (found : db.txGet action.id = some tx) (config : Config) (network : Network) (now : Int64) :
    (¬Allowed tx action ∧ Unchecked tx action ∧
      ∃ error, Ctl.run db config action network now = (.error error, db)) ∨
    (∃ state change, Sets change state ∧
      Ctl.run db config action network now = (.ok (), db.txUpdate tx.id change) ∧
      (Unchecked tx action ↔ Allowed tx action) ∧
      (Allowed tx action → Permitted tx.direction tx.state state)) ∨
    (Allowed tx action ∧ Unchecked tx action ∧
      ((Ctl.run db config action network now).2 = db ∨
        ∃ request, (Ctl.run db config action network now).2 =
          (deliverInvoice db config request network now).2)) := by
  have member : tx ∈ db.transactions := List.mem_of_find?_eq_some found
  unfold Ctl.run
  rw [found]
  cases action with
  | resolve id binding =>
    cases direction : tx.direction with
    | outgoing =>
      refine .inl ⟨by simp [Allowed, direction], by simp [Unchecked, direction], .onlyInbound, ?_⟩
      exact if_pos (by simp [direction])
    | incoming =>
      obtain ⟨change, sets, done⟩ := resolve_incoming member direction binding now
      refine .inr (.inl ⟨.resolved, change, sets, done,
        by simp [Allowed, Unchecked, direction], ?_⟩)
      rintro ⟨-, opaqueTx⟩
      exact .inr (.inl ⟨opaqueTx, rfl⟩)
  | markSpent id =>
    cases direction : tx.direction with
    | outgoing =>
      refine .inl ⟨by simp [Allowed, direction], by simp [Unchecked, direction], .onlyInbound, ?_⟩
      exact if_pos (by simp [direction])
    | incoming =>
      refine .inr (.inl ⟨.spent, _, sets_transition .spent now, ?_,
        by simp [Allowed, Unchecked, direction], ?_⟩)
      · dsimp only
        rw [markSpent, if_neg (by simp [direction]), Db.txTransition, txUpdateFound_of_mem member]
        rfl
      · rintro ⟨-, resolved⟩
        exact .inr (.inr ⟨resolved, rfl⟩)
  | fail id =>
    refine .inr (.inl ⟨.failed, _, sets_transition .failed now, ?_, Iff.rfl, fun outgoing => ?_⟩)
    · dsimp only
      rw [Db.txTransition, txUpdateFound_of_mem member]
      rfl
    · rw [show tx.direction = .outgoing from outgoing]
      exact .inr (.inr (.inl rfl))
  | retry id =>
    dsimp only [retry]
    cases direction : tx.direction with
    | incoming =>
      exact .inl ⟨by simp [Allowed, direction], trivial, .onlyOutbound, if_pos (by simp)⟩
    | outgoing =>
      refine .inr (.inr ⟨direction, trivial, ?_⟩)
      rw [if_neg (by simp)]
      cases tx.outboundBody with
      | none => exact .inl rfl
      | some body =>
        refine .inr ⟨retryRequest tx body, ?_⟩
        dsimp only
        split
        · rename_i sent
          rw [sent]
        · rename_i sent
          rw [sent]

/-! ## Runs -/

/-- A step of the daemon or of the command line. -/
inductive Step where
  /-- A user is created. -/
  | createUser (username passwordHash : String) (masterPubkey : List UInt8)
    (ivkCommitment registrationAttestation : Option String) (now : Int64)
  /-- A wire delivery. -/
  | deliver (delivery : Delivery) (now : Int64)
  /-- An emulated delivery. -/
  | emulate (recipient senderLabel amount messageId subject : String) (body : List UInt8)
    (now : Int64)
  /-- A send of the daemon. -/
  | send (request : SendRequest) (network : Network) (now : Int64)
  /-- A send of the command line. -/
  | ctlSend (request : SendRequest) (network : Network) (now : Int64)
  /-- An action on the ledger. -/
  | act (action : TxAction) (network : Network) (now : Int64)

/-- What a step leaves. -/
def step (config : Config) (db : Db) : Step → Db
  | .createUser username passwordHash masterPubkey ivkCommitment registrationAttestation now =>
    (db.createUserFull username passwordHash masterPubkey ivkCommitment registrationAttestation
      now).2
  | .deliver delivery now => (deliver config.template now delivery db).2
  | .emulate recipient senderLabel amount messageId subject body now =>
    (deliverEmulated db recipient senderLabel amount messageId subject body now).2
  | .send request network now => (send db config.template config.domain request network now).2
  | .ctlSend request network now => (deliverInvoice db config request network now).2
  | .act action network now => (Ctl.run db config action network now).2

/-- An action that a transaction does not allow is refused and changes nothing. -/
def Refuses (config : Config) (db : Db) (action : TxAction) (network : Network) (now : Int64) :
    Prop :=
  (∀ tx, db.txGet action.id = some tx → ¬Allowed tx action) →
    ∃ error, Ctl.run db config action network now = (.error error, db)

/-- A step keeps the lifecycle. -/
structure Lawful (config : Config) (db : Db) (taken : Step) : Prop where
  /-- Every transaction is in a state of its direction. -/
  proper : ∀ tx ∈ (step config db taken).transactions, Proper tx.direction tx.state
  /-- Inbound transactions move as they may. -/
  moves : ∀ old ∈ db.transactions, ∀ new ∈ (step config db taken).transactions, new.id = old.id →
    new.direction = old.direction ∧ (old.direction = .incoming → Moves old.state new.state)
  /-- Other actions are refused. -/
  refuses : ∀ action network now, taken = .act action network now →
    Refuses config db action network now

/-- An action of a step passes the checks that the code does not make. -/
def Legal (db : Db) : Step → Prop
  | .act action _ _ => ∀ tx, db.txGet action.id = some tx → Unchecked tx action
  | _ => True

/-- The keys are unique, and every transaction is in a state of its direction. -/
structure Regular (db : Db) : Prop where
  /-- The keys. -/
  keyed : Keyed db
  /-- The states. -/
  proper : ∀ tx ∈ db.transactions, Proper tx.direction tx.state

/-- A ledger that advances keeps the lifecycle. -/
theorem lawful_of_advances {config : Config} {db : Db} (regular : Regular db) {taken : Step}
    (advances : Advances db.transactions (step config db taken).transactions)
    (refuses : ∀ action network now, taken = .act action network now →
      Refuses config db action network now) : Lawful config db taken := by
  refine ⟨fun tx member => ?_, fun old oldMember new newMember id => ?_, refuses⟩
  · rcases advances tx member with ⟨old, found, -, direction, permitted⟩ | ⟨proper, -⟩
    · exact proper_of_permitted (direction ▸ regular.proper old found) permitted
    · exact proper
  · rcases advances new newMember with ⟨previous, found, same, direction, permitted⟩ | ⟨-, fresh⟩
    · obtain rfl := eq_of_unique regular.keyed.txIds found oldMember (same.trans id)
      refine ⟨direction.symm, fun incoming => ?_⟩
      rw [← direction, incoming] at permitted
      exact permitted
    · exact absurd id.symm (fresh old oldMember)

/-- A send of the daemon is a chain of changes. -/
theorem send_changes (db : Db) (template : Template) (senderDomain : String)
    (request : SendRequest) (network : Network) (now : Int64) :
    Changes db (send db template senderDomain request network now).2 := by
  unfold send
  split
  · exact .refl
  · split
    · exact .refl
    · exact recordOutboundTx_changes ..

/-- A send of the command line is a chain of changes. -/
theorem deliverInvoice_changes (db : Db) (config : Config) (request : SendRequest)
    (network : Network) (now : Int64) :
    Changes db (deliverInvoice db config request network now).2 := by
  unfold deliverInvoice
  split
  · exact .refl
  · split
    · exact .refl
    · split
      · exact .refl
      · dsimp only
        split
        · exact recordOutboundTx_changes ..
        · exact recordOutboundTx_changes ..

/-- A step is a chain of changes where the keys are unique. -/
theorem step_changes (config : Config) {db : Db} (keyed : Keyed db) (taken : Step) :
    Changes db (step config db taken) := by
  cases taken with
  | createUser => exact createUserFull_changes keyed ..
  | deliver delivery now =>
    exact apply_changes config.template config.domain keyed (.deliver delivery now)
  | emulate recipient senderLabel amount messageId subject body now =>
    exact apply_changes config.template config.domain keyed
      (.emulate recipient senderLabel amount messageId subject body now)
  | send => exact send_changes ..
  | ctlSend => exact deliverInvoice_changes ..
  | act action network now =>
    rw [step]
    cases found : db.txGet action.id with
    | none =>
      rw [Ctl.run, found]
    | some tx =>
      rcases run_cases found config network now with ⟨-, -, error, refused⟩ |
        ⟨state, change, sets, done, -⟩ | ⟨-, -, kept | ⟨request, sent⟩⟩
      · rw [refused]
      · rw [done]
        exact .single (.txUpdate _ _ sets.toKeepsTxKey)
      · rw [kept]
      · rw [sent]
        exact deliverInvoice_changes ..

/-- An action keeps the lifecycle exactly if it passes the checks that the code does not make. -/
theorem lawful_act_iff (config : Config) {db : Db} (regular : Regular db) (action : TxAction)
    (network : Network) (now : Int64) :
    Legal db (.act action network now) ↔ Lawful config db (.act action network now) := by
  cases found : db.txGet action.id with
  | none =>
    have refused : Ctl.run db config action network now =
        (.error (.noSuchTransaction action.id), db) := by
      rw [Ctl.run, found]
    refine iff_of_true (fun tx some => ?_) (lawful_of_advances regular ?_ ?_)
    · rw [found] at some
      cases some
    · rw [step, refused]
      exact advances_refl _
    · rintro action network now ⟨⟩ -
      exact ⟨_, refused⟩
  | some tx =>
    have member : tx ∈ db.transactions := List.mem_of_find?_eq_some found
    have legal : Legal db (.act action network now) ↔ Unchecked tx action := by
      constructor
      · intro legal
        exact legal tx found
      · intro unchecked other same
        obtain rfl := Option.some.inj (found.symm.trans same)
        exact unchecked
    rw [legal]
    rcases run_cases found config network now with ⟨-, unchecked, error, refused⟩ |
      ⟨state, change, sets, done, same, permitted⟩ | ⟨allowed, unchecked, sent⟩
    · refine iff_of_true unchecked (lawful_of_advances regular ?_ ?_)
      · rw [step, refused]
        exact advances_refl _
      · rintro action network now ⟨⟩ -
        exact ⟨error, refused⟩
    · rw [same]
      constructor
      · intro allowed
        refine lawful_of_advances regular ?_ ?_
        · rw [step, done]
          exact advances_update regular.keyed member sets (permitted allowed)
        · rintro action network now ⟨⟩ refused
          exact absurd allowed (refused tx found)
      · intro lawful
        by_contra refused
        obtain ⟨error, kept⟩ := lawful.refuses action network now rfl fun other same => by
          obtain rfl := Option.some.inj (found.symm.trans same)
          exact refused
        rw [done] at kept
        cases (Prod.mk.inj kept).1
    · refine iff_of_true unchecked (lawful_of_advances regular ?_ ?_)
      · rw [step]
        rcases sent with kept | ⟨request, sent⟩
        · rw [kept]
          exact advances_refl _
        · rw [sent]
          exact advances_deliverInvoice regular.keyed config request network now
      · rintro action network now ⟨⟩ refused
        exact absurd allowed (refused tx found)

/-- A step keeps the lifecycle exactly if its action passes the checks that the code does not
make. -/
theorem lawful_step_iff (config : Config) {db : Db} (regular : Regular db) (taken : Step) :
    Legal db taken ↔ Lawful config db taken := by
  cases taken with
  | createUser =>
    refine iff_of_true trivial (lawful_of_advances regular ?_ fun _ _ _ same => by cases same)
    rw [step, Db.createUserFull]
    split
    · exact advances_refl _
    · exact advances_refl _
  | deliver delivery now =>
    refine iff_of_true trivial (lawful_of_advances regular ?_ fun _ _ _ same => by cases same)
    rcases deliver_cases config.template now delivery db with
      ⟨reason, -, refused⟩ | ⟨user, msg, -, -, -, done⟩
    · rw [step, refused]
      exact advances_refl _
    · rw [step, done]
      exact advances_store db user.id msg delivery.recipientMailbox "" now
  | emulate recipient senderLabel amount messageId subject body now =>
    refine iff_of_true trivial (lawful_of_advances regular ?_ fun _ _ _ same => by cases same)
    rcases deliverEmulated_cases db recipient senderLabel amount messageId subject body now with
      ⟨outcome, -, refused⟩ | ⟨user, msg, -, -, -, done⟩
    · rw [step, refused]
      exact advances_refl _
    · rw [step, done]
      exact advances_store db user.id msg recipient amount now
  | send request network now =>
    refine iff_of_true trivial (lawful_of_advances regular ?_ fun _ _ _ same => by cases same)
    exact advances_send regular.keyed config.template config.domain request network now
  | ctlSend request network now =>
    refine iff_of_true trivial (lawful_of_advances regular ?_ fun _ _ _ same => by cases same)
    exact advances_deliverInvoice regular.keyed config request network now
  | act action network now => exact lawful_act_iff config regular action network now

/-- Over every run, every step keeps the lifecycle exactly if `resolve` is only used on
transactions that are not inbound or are opaque, `mark-spent` on those that are not inbound or are
resolved, and `fail` on outbound ones. -/
theorem lifecycle_kept_iff_legal (config : Config) (steps : List Step) :
    Guarded (step config) Legal .empty steps ↔
      Guarded (step config) (Lawful config) .empty steps := by
  have kept : ∀ db taken, Regular db → Legal db taken → Regular (step config db taken) :=
    fun db taken regular legal =>
      ⟨keyed_changes regular.keyed (step_changes config regular.keyed taken),
        ((lawful_step_iff config regular taken).mp legal).proper⟩
  exact guarded_iff kept (fun db taken regular => lawful_step_iff config regular taken)
    ⟨keyed_empty, fun _ member => absurd member List.not_mem_nil⟩ steps

/-! ## A received transaction that failed -/

/-- A network nothing is sent over. -/
def noNetwork : Network := ⟨.ok (), .error "", none, .ok (), .ok ()⟩

/-- Bob receives an invoice, and its transaction is marked failed. -/
def failedInbound : List Step :=
  [.createUser "bob" "" [] none none 0, .deliver (invoice "m1") 0, .act (.fail 1) noNetwork 0]

/-- The inbound transaction is in a state of outbound ones. -/
theorem fail_leaves_lifecycle :
    ¬Guarded (step ⟨"b.io", noTemplate⟩) (Lawful ⟨"b.io", noTemplate⟩) .empty failedInbound := by
  rintro ⟨-, -, lawful, -⟩
  have proper := lawful.proper ⟨1, .incoming, .failed, "alice@a.io", "bob@b.io", "", none, "m1",
    some 1, none, "sealed", 0, 0⟩ (by decide +kernel)
  rcases proper with same | same | same
  · cases same
  · cases same
  · cases same

end Talk.Verif.Lifecycle
