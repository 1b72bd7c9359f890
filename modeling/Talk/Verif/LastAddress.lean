import Talk.Verif.SessionInvariant

/-!
# The recipient of an invoice

A session remembers the user of the last ADDR it granted, and an ADDR it refuses does not clear
what it remembers. So an invoice behind a refused ADDR is delivered to the user of an earlier
one. The history of a session keeps the last ADDR beside the session, granted or not, and what
the sink receives is compared with it over whole runs.
-/

namespace Talk.Verif.LastAddress

open Protocol SessionInvariant

variable {crypto : Crypto} {ω : Type}

/-! ## Sessions with the last ADDR -/

/-- An ADDR command with what became of it. -/
structure Request where
  /-- The user it names. -/
  user : String
  /-- Whether an attestation was returned. -/
  granted : Bool
  deriving DecidableEq

/-- Whether a result is a reply with an attestation. -/
def isGranted : Except SessionError Reply → Bool
  | .ok (.statusWithBlob _ _) => true
  | .ok (.status _) => false
  | .error _ => false

/-- A session in its world, with the last ADDR it was sent. -/
structure History (crypto : Crypto) (ω : Type) where
  /-- The session. -/
  session : ZsmptSession crypto ω
  /-- The world and the calls. -/
  outer : Outer ω
  /-- The most recent ADDR. -/
  last : Option Request

/-- The ADDR that is the most recent one after a command. -/
def lastAfter (last : Option Request) (command : Command)
    (result : Except SessionError Reply) : Option Request :=
  match command with
  | .addr _ user => some ⟨user, isGranted result⟩
  | _ => last

/-- One command. -/
def History.step (history : History crypto ω) (command : Command) : History crypto ω :=
  let handled := history.session.handle command history.outer
  ⟨handled.session, handled.outer, lastAfter history.last command handled.result⟩

/-- The history of a session that was just built. -/
def fresh (domain : String) (signing : crypto.SigningKey)
    (sink : Option (Delivery → ω → DeliveryOutcome × ω))
    (directory : Option (String → ω → Bool × ω))
    (addressProvider : AttestationMode → ω → MintedAddress × ω) (world : ω) :
    History crypto ω :=
  ⟨.withDomainKey domain signing sink directory addressProvider, ⟨world, []⟩, none⟩

/-- What a command delivers goes to the user of the last ADDR, which was granted. -/
def DeliversToLast (history : History crypto ω) (command : Command) : Prop :=
  ∀ calls delivery outcome,
    (history.session.handle command history.outer).outer.calls = history.outer.calls ++ calls →
    .deliver delivery outcome ∈ calls →
    ∃ user, history.last = some ⟨user, true⟩ ∧
      delivery.recipientMailbox = user ++ "@" ++ history.session.domain

/-- Whether the last ADDR was granted. -/
def lastGranted (history : History crypto ω) : Bool :=
  history.last.any Request.granted

/-- No invoice with a message id is sent to a session with a sink while its last ADDR stands
refused and an earlier one was granted. -/
def Addressed (history : History crypto ω) (command : Command) : Prop :=
  match command with
  | .invoice _ messageId _ _ => messageId = "" ∨ history.session.sink.isNone ∨
      history.session.addrUser = none ∨ lastGranted history = true
  | _ => True

instance (history : History crypto ω) (command : Command) :
    Decidable (Addressed history command) := by
  cases command <;> unfold Addressed <;> infer_instance

/-! ## One command -/

/-- An ADDR is granted and remembered, or neither. -/
theorem addr_cases (session : ZsmptSession crypto ω) (mode : AddrMode) (user : String)
    (outer : Outer ω) :
    (isGranted (session.handle (.addr mode user) outer).result = true ∧
      (session.handle (.addr mode user) outer).session.addrUser = some user) ∨
    isGranted (session.handle (.addr mode user) outer).result = false := by
  simp only [ZsmptSession.handle, ZsmptSession.onAddr]
  split_ifs with phase empty unknown
  · exact .inr rfl
  · exact .inr rfl
  · exact .inr rfl
  · exact .inl ⟨rfl, rfl⟩

/-- Whether a command is an ADDR. -/
def isAddr : Command → Bool
  | .addr _ _ => true
  | _ => false

/-- No other command changes the recipient. -/
theorem addrUser_kept {session : ZsmptSession crypto ω} {outer : Outer ω} {command : Command}
    {handled : ZsmptSession.Handled crypto ω} (effect : Effect session outer command handled)
    (other : isAddr command = false) : handled.session.addrUser = session.addrUser := by
  cases effect with
  | still => rfl
  | hello => rfl
  | auth => rfl
  | addr => cases other
  | deliver => rfl

/-- Without a sink an invoice leads to no call. -/
theorem invoice_unattached {session : ZsmptSession crypto ω} (unattached : session.sink = none)
    (sender messageId : String) (payload : Payload) (body : List UInt8) (outer : Outer ω) :
    (session.handle (.invoice sender messageId payload body) outer).outer = outer := by
  simp only [ZsmptSession.handle, ZsmptSession.onInvoice, unattached]
  split_ifs
  · rfl
  · rfl
  · cases session.addrUser with
    | none => rfl
    | some recipient => cases session.peerDomain <;> rfl

/-- An invoice is delivered once the session has a recipient and a peer. -/
theorem deliver_of_addressed {session : ZsmptSession crypto ω} {recipient peer : String}
    {sink : Delivery → ω → DeliveryOutcome × ω} (phase : session.state = .authenticated)
    (addressed : session.addrUser = some recipient) (greeted : session.peerDomain = some peer)
    (attached : session.sink = some sink) {sender messageId : String} (named : messageId ≠ "")
    (payload : Payload) (body : List UInt8) (outer : Outer ω) :
    ∃ delivery outcome,
      (session.handle (.invoice sender messageId payload body) outer).outer.calls =
        outer.calls ++ [.deliver delivery outcome] := by
  simp only [ZsmptSession.handle, ZsmptSession.onInvoice, phase, ne_eq, not_true_eq_false, named,
    addressed, greeted, attached, ↓reduceIte]
  exact ⟨_, _, rfl⟩

/-! ## The history over a run -/

/-- The session is linked, and it remembers the user of a granted last ADDR. -/
structure Tracked (history : History crypto ω) : Prop where
  /-- The session's fields belong together. -/
  linked : Linked (history.session, history.outer)
  /-- The recipient is the user of the last ADDR, if that was granted. -/
  recipient : ∀ user, history.last = some ⟨user, true⟩ → history.session.addrUser = some user

/-- Every command keeps a history tracked. -/
theorem tracked_step (history : History crypto ω) (command : Command)
    (tracked : Tracked history) : Tracked (history.step command) := by
  have linked : Linked (handleStep (history.session, history.outer) command) :=
    linked_step _ command tracked.linked
  refine ⟨linked, ?_⟩
  cases addr : isAddr command with
  | true =>
    cases command with
    | addr mode user =>
      intro other last
      have same : user = other ∧
          isGranted (history.session.handle (.addr mode user) history.outer).result = true := by
        simpa [History.step, lastAfter] using last
      rcases addr_cases history.session mode user history.outer with ⟨_, set⟩ | refused
      · rw [← same.1]
        exact set
      · rw [refused] at same
        cases same.2
    | hello | auth | invoice | status | quit => cases addr
  | false =>
    intro user last
    have kept := addrUser_kept (handle_effect history.session history.outer command) addr
    have before : (history.step command).last = history.last := by
      cases command with
      | addr => cases addr
      | hello | auth | invoice | status | quit => rfl
    rw [before] at last
    exact kept.trans (tracked.recipient user last)

/-- A fresh history is tracked. -/
theorem tracked_fresh (domain : String) (signing : crypto.SigningKey)
    (sink : Option (Delivery → ω → DeliveryOutcome × ω))
    (directory : Option (String → ω → Bool × ω))
    (addressProvider : AttestationMode → ω → MintedAddress × ω) (world : ω) :
    Tracked (fresh domain signing sink directory addressProvider world) :=
  ⟨linked_fresh domain signing sink directory addressProvider world,
    fun user last => by cases last⟩

/-- In a tracked history a command delivers to the last user exactly when it is addressed. -/
theorem deliversToLast_iff (history : History crypto ω) (command : Command)
    (tracked : Tracked history) :
    DeliversToLast history command ↔ Addressed history command := by
  have effect := handle_effect history.session history.outer command
  constructor
  · intro delivers
    cases command with
    | invoice sender messageId payload body =>
      by_cases empty : messageId = ""
      · exact .inl empty
      cases attached : history.session.sink with
      | none => exact .inr (.inl (by simp [attached]))
      | some sink =>
        cases addressed : history.session.addrUser with
        | none => exact .inr (.inr (.inl addressed))
        | some recipient =>
          have phase := tracked.linked.phase recipient addressed
          obtain ⟨peer, greeted⟩ := Option.isSome_iff_exists.mp (tracked.linked.peer.mpr phase)
          obtain ⟨delivery, outcome, calls⟩ := deliver_of_addressed phase addressed greeted
            attached empty payload body history.outer
          obtain ⟨user, last, -⟩ := delivers _ delivery outcome calls (List.mem_singleton.mpr rfl)
          exact .inr (.inr (.inr (by simp [lastGranted, last])))
    | hello | auth | addr | status | quit => trivial
  · intro condition calls delivery outcome made member
    obtain ⟨added, shape, -, proper⟩ := effect_calls effect
    have same : added = calls := List.append_cancel_left (shape.symm.trans made)
    obtain ⟨sender, messageId, payload, body, peer, recipient, rfl, -, -, addressed, named, rfl⟩ :=
      proper delivery outcome (same ▸ member)
    rcases condition with empty | missing | unset | granted
    · exact absurd empty named
    · have still := invoice_unattached (Option.isNone_iff_eq_none.mp missing) sender messageId
        payload body history.outer
      rw [still] at made
      have nothing : calls = [] := by simpa using made
      rw [nothing] at member
      exact absurd member List.not_mem_nil
    · rw [addressed] at unset
      cases unset
    · obtain ⟨request, last, given⟩ := (Option.any_eq_true _ _).mp granted
      have shape : request = ⟨request.user, true⟩ := by rw [← given]
      rw [shape] at last
      have set := tracked.recipient request.user last
      rw [addressed] at set
      rw [Option.some.inj set]
      exact ⟨request.user, last, rfl⟩

/-! ## Every run -/

/-- From a fresh session, every delivery of a run goes to the user of the last ADDR, which was
granted, exactly when every command of the run is addressed. -/
theorem deliveries_follow_addr_iff (domain : String) (signing : crypto.SigningKey)
    (sink : Option (Delivery → ω → DeliveryOutcome × ω))
    (directory : Option (String → ω → Bool × ω))
    (addressProvider : AttestationMode → ω → MintedAddress × ω) (world : ω)
    (commands : List Command) :
    Transition.Guarded History.step DeliversToLast
      (fresh domain signing sink directory addressProvider world) commands ↔
    Transition.Guarded History.step Addressed
      (fresh domain signing sink directory addressProvider world) commands :=
  Transition.guarded_iff (fun history command tracked _ => tracked_step history command tracked)
    deliversToLast_iff (tracked_fresh domain signing sink directory addressProvider world) commands

/-! ## A refused ADDR -/

/-- A server of `b.org` that knows only bob, with a sink that takes everything. -/
def bobOnly : History Crypto.mirror Unit :=
  fresh "b.org" () (some fun delivery world => (.accepted delivery.messageId, world))
    (some fun user world => (decide (user = "bob"), world))
    (fun _ world => (⟨"u1bob", "00", none⟩, world)) ()

/-- The challenge of a client of `a.org`. -/
def challenge : Challenge := ⟨"a.org", "b.org", Hex.Block.replicate 16 7, 1700000000⟩

/-- A client of `a.org` that asks for bob, then for carol, and sends its invoice all the same. -/
def misled : List Command :=
  [.hello "a.org", .auth (Utf8.bytes challenge.toWire), .addr .attested "bob",
    .addr .attested "carol", .invoice "alice" "m1" .plaintext [1, 2]]

/-- The invoice after the refused ADDR for carol is delivered to bob. -/
theorem invoice_misdelivered :
    ¬∀ commands, Transition.Guarded History.step DeliversToLast bobOnly commands := by
  intro always
  have kept := (Transition.guarded_iff
    (fun history command tracked _ => tracked_step history command tracked) deliversToLast_iff
    (tracked_fresh ..) misled).mp (always misled)
  exact absurd kept (by decide)

end Talk.Verif.LastAddress
