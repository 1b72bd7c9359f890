import Talk.Lib.Transition
import Talk.Protocol.Session

/-!
# The session over every sequence of commands

`Effect` says once what a command can do to a session. The invariant that links the phase, the
peer's domain and the recipient is kept by every effect, and the facts about deliveries and
about refused commands are read off it.
-/

namespace Talk.Verif.SessionInvariant

open Protocol

variable {crypto : Crypto} {ω : Type}

/-- Everything one command can do. -/
inductive Effect (session : ZsmptSession crypto ω) (outer : Outer ω) :
    Command → ZsmptSession.Handled crypto ω → Prop where
  /-- Answer without changing the session or delivering, after at most one directory query. -/
  | still (command : Command) (result : Except SessionError Reply) (world : ω)
      (calls : List Call) (queries : ∀ call ∈ calls, ∃ user known, call = .userExists user known) :
      Effect session outer command ⟨result, session, ⟨world, outer.calls ++ calls⟩⟩
  /-- Accept HELLO. -/
  | hello (domain : String) (phase : session.state = .greeting) (named : domain ≠ "") :
      Effect session outer (.hello domain) ⟨.ok (.status ⟨.ok, "Hello " ++ domain⟩),
        { session with state := .awaitingAuth }, outer⟩
  /-- Sign a challenge. -/
  | auth (wire : List UInt8) (phase : session.state = .awaitingAuth) (peer : String)
      (blob : List UInt8) :
      Effect session outer (.auth wire) ⟨.ok (.statusWithBlob ⟨.ok, "authenticated"⟩ blob),
        { session with state := .authenticated, peerDomain := some peer }, outer⟩
  /-- Attest an address for a user the directory knows. -/
  | addr (mode : AddrMode) (user : String) (phase : session.state = .authenticated)
      (named : user ≠ "") (world : ω) (queries : List Call) (minted : MintedAddress)
      (known : session.directory.isSome → queries = [.userExists user true])
      (only : ∀ call ∈ queries, call = .userExists user true) (blob : List UInt8) :
      Effect session outer (.addr mode user)
        ⟨.ok (.statusWithBlob ⟨.ok, "address attestation"⟩ blob),
          { session with addrUser := some user },
          ⟨world, outer.calls ++ queries ++
            [.mint (ZsmptSession.attestationMode mode) minted]⟩⟩
  /-- Hand an invoice to the sink. -/
  | deliver (sender messageId : String) (payload : Payload) (body : List UInt8)
      (phase : session.state = .authenticated) (named : messageId ≠ "") (recipient peer : String)
      (addressed : session.addrUser = some recipient) (greeted : session.peerDomain = some peer)
      (outcome : DeliveryOutcome) (world : ω) :
      Effect session outer (.invoice sender messageId payload body)
        ⟨.ok (.status (ZsmptSession.outcomeStatus outcome)), session,
          ⟨world, outer.calls ++ [.deliver ⟨sender ++ "@" ++ peer, messageId,
            recipient ++ "@" ++ session.domain, payload, body⟩ outcome]⟩⟩

/-- A status without any call is a still effect. -/
theorem Effect.quiet (session : ZsmptSession crypto ω) (outer : Outer ω) (command : Command)
    (result : Except SessionError Reply) :
    Effect session outer command ⟨result, session, outer⟩ := by
  have effect : Effect session outer command ⟨result, session, ⟨outer.world, outer.calls ++ []⟩⟩ :=
    .still command result outer.world [] (by simp)
  rwa [List.append_nil] at effect

/-- Asking for a user is one directory query, or none without a directory. -/
theorem userKnown_query (session : ZsmptSession crypto ω) (user : String) (outer : Outer ω) :
    ∃ known world queries,
      session.userKnown user outer = (known, ⟨world, outer.calls ++ queries⟩) ∧
      (session.directory.isSome → queries = [.userExists user known]) ∧
      ∀ call ∈ queries, call = .userExists user known := by
  unfold ZsmptSession.userKnown
  cases session.directory with
  | none => exact ⟨true, outer.world, [], by simp, by simp, by simp⟩
  | some directory =>
    exact ⟨(directory user outer.world).1, (directory user outer.world).2,
      [.userExists user (directory user outer.world).1], rfl, by simp, by simp⟩

/-- The effects are all there is. -/
theorem handle_effect (session : ZsmptSession crypto ω) (outer : Outer ω) (command : Command) :
    Effect session outer command (session.handle command outer) := by
  cases command with
  | hello domain =>
    simp only [ZsmptSession.handle, ZsmptSession.onHello]
    split_ifs with phase empty
    · exact Effect.quiet ..
    · exact Effect.quiet ..
    · exact Effect.hello domain (by simpa using phase) empty
  | auth wire =>
    simp only [ZsmptSession.handle, ZsmptSession.onAuth]
    split_ifs with phase
    · exact Effect.quiet ..
    · split
      · exact Effect.quiet ..
      · exact Effect.auth wire (by simpa using phase) _ _
  | addr mode user =>
    simp only [ZsmptSession.handle, ZsmptSession.onAddr]
    obtain ⟨known, world, queries, asked, attached, only⟩ := userKnown_query session user outer
    simp only [asked]
    split_ifs with phase empty unknown
    · exact Effect.quiet ..
    · exact Effect.quiet ..
    · exact Effect.still _ _ _ _ fun call member => ⟨user, known, only call member⟩
    · obtain rfl : known = true := by simpa using unknown
      exact Effect.addr mode user (by simpa using phase) empty _ queries _ attached only _
  | invoice sender messageId payload body =>
    simp only [ZsmptSession.handle, ZsmptSession.onInvoice]
    split_ifs with phase empty
    · exact Effect.quiet ..
    · exact Effect.quiet ..
    · split
      · exact Effect.quiet ..
      · split
        · exact Effect.quiet ..
        · split
          · exact Effect.quiet ..
          · exact Effect.deliver sender messageId payload body (by simpa using phase) empty _ _
              (by assumption) (by assumption) _ _
  | status code message => exact Effect.quiet ..
  | quit => exact Effect.quiet ..

/-! ## The invariant -/

/-- One command, on the session and the world. -/
def handleStep (state : ZsmptSession crypto ω × Outer ω) (command : Command) :
    ZsmptSession crypto ω × Outer ω :=
  let handled := state.1.handle command state.2
  (handled.session, handled.outer)

/-- The peer's domain is known exactly in the last phase, and a recipient is only set there, for
a user the attached directory has confirmed. -/
structure Linked (state : ZsmptSession crypto ω × Outer ω) : Prop where
  /-- The peer's domain is known exactly once authenticated. -/
  peer : state.1.peerDomain.isSome ↔ state.1.state = .authenticated
  /-- A recipient is set only once authenticated. -/
  phase : ∀ user, state.1.addrUser = some user → state.1.state = .authenticated
  /-- A recipient has a name. -/
  named : ∀ user, state.1.addrUser = some user → user ≠ ""
  /-- An attached directory has confirmed the recipient. -/
  confirmed : ∀ user, state.1.addrUser = some user → state.1.directory.isSome →
    .userExists user true ∈ state.2.calls

/-- A fresh session is linked. -/
theorem linked_fresh (domain : String) (signing : crypto.SigningKey)
    (sink : Option (Delivery → ω → DeliveryOutcome × ω))
    (directory : Option (String → ω → Bool × ω))
    (addressProvider : AttestationMode → ω → MintedAddress × ω) (world : ω) :
    Linked (ZsmptSession.withDomainKey domain signing sink directory addressProvider,
      ⟨world, []⟩) where
  peer := by simp [ZsmptSession.withDomainKey]
  phase := by simp [ZsmptSession.withDomainKey]
  named := by simp [ZsmptSession.withDomainKey]
  confirmed := by simp [ZsmptSession.withDomainKey]

/-- Every effect keeps a session linked. -/
theorem linked_effect {session : ZsmptSession crypto ω} {outer : Outer ω} {command : Command}
    {handled : ZsmptSession.Handled crypto ω} (linked : Linked (session, outer))
    (effect : Effect session outer command handled) :
    Linked (handled.session, handled.outer) := by
  cases effect with
  | still _ result world calls queries =>
    exact ⟨linked.peer, linked.phase, linked.named, fun user set attached =>
      List.mem_append_left _ (linked.confirmed user set attached)⟩
  | hello domain phase named =>
    have unset : ∀ user, session.addrUser ≠ some user := fun user set =>
      absurd (linked.phase user set) (by simp [phase])
    have unknown : ¬session.peerDomain.isSome := fun known =>
      absurd (linked.peer.mp known) (by simp [phase])
    exact ⟨by simpa using unknown, fun user set => absurd set (unset user), linked.named,
      linked.confirmed⟩
  | auth wire phase peer blob =>
    exact ⟨by simp, fun user set => absurd (linked.phase user set) (by simp [phase]),
      linked.named, linked.confirmed⟩
  | addr mode user phase named world queries minted known only blob =>
    refine ⟨linked.peer, fun other set => phase, fun other set => ?_, fun other set attached => ?_⟩
    · obtain rfl : user = other := by simpa using set
      exact named
    · obtain rfl : user = other := by simpa using set
      simp [known attached]
  | deliver sender messageId payload body phase named recipient peer addressed greeted outcome =>
    exact ⟨linked.peer, linked.phase, linked.named, fun user set attached =>
      List.mem_append_left _ (linked.confirmed user set attached)⟩

/-- Every command keeps a session linked. -/
theorem linked_step (state : ZsmptSession crypto ω × Outer ω) (command : Command)
    (linked : Linked state) : Linked (handleStep state command) :=
  linked_effect linked (handle_effect state.1 state.2 command)

/-! ## Single commands -/

/-- The phase a command leads to: the same one, or the next. -/
inductive PhaseStep : SessionState → SessionState → Prop where
  /-- No move. -/
  | stay (phase : SessionState) : PhaseStep phase phase
  /-- HELLO. -/
  | hello : PhaseStep .greeting .awaitingAuth
  /-- AUTH. -/
  | auth : PhaseStep .awaitingAuth .authenticated

/-- A command answered with a 5xx status or an error. -/
def Refused (result : Except SessionError Reply) : Prop :=
  match result with
  | .ok reply => reply.line.code.isPermanent = true
  | .error _ => True

/-- What one call of the sink must look like. -/
def Proper (session : ZsmptSession crypto ω) (command : Command) (delivery : Delivery) : Prop :=
  ∃ sender messageId payload body peer recipient,
    command = .invoice sender messageId payload body ∧ session.state = .authenticated ∧
    session.peerDomain = some peer ∧ session.addrUser = some recipient ∧ messageId ≠ "" ∧
    delivery = ⟨sender ++ "@" ++ peer, messageId, recipient ++ "@" ++ session.domain, payload,
      body⟩

/-- A command moves at most one phase forward. -/
theorem effect_phase {session : ZsmptSession crypto ω} {outer : Outer ω} {command : Command}
    {handled : ZsmptSession.Handled crypto ω} (effect : Effect session outer command handled) :
    PhaseStep session.state handled.session.state := by
  cases effect with
  | still => exact .stay _
  | hello domain phase => exact phase ▸ .hello
  | auth wire phase => exact phase ▸ .auth
  | addr => exact .stay _
  | deliver => exact .stay _

/-- A command adds calls behind the earlier ones, at most one of them a delivery, and that one is
proper. -/
theorem effect_calls {session : ZsmptSession crypto ω} {outer : Outer ω} {command : Command}
    {handled : ZsmptSession.Handled crypto ω} (effect : Effect session outer command handled) :
    ∃ calls, handled.outer.calls = outer.calls ++ calls ∧ calls.countP Call.isDeliver ≤ 1 ∧
      ∀ delivery outcome, .deliver delivery outcome ∈ calls → Proper session command delivery := by
  have quiet : ∀ calls : List Call, (∀ call ∈ calls, ∃ user known, call = .userExists user known) →
      calls.countP Call.isDeliver = 0 := by
    intro calls queries
    refine List.countP_eq_zero.mpr fun call member => ?_
    obtain ⟨user, known, rfl⟩ := queries call member
    simp [Call.isDeliver]
  cases effect with
  | still _ result world calls queries =>
    refine ⟨calls, rfl, by simp [quiet calls queries], fun delivery outcome member => ?_⟩
    obtain ⟨user, known, other⟩ := queries _ member
    cases other
  | hello => exact ⟨[], by simp, by simp, by simp⟩
  | auth => exact ⟨[], by simp, by simp, by simp⟩
  | addr mode user phase named world queries minted known only blob =>
    have none := quiet queries fun call member => ⟨user, true, only call member⟩
    refine ⟨queries ++ [.mint (ZsmptSession.attestationMode mode) minted],
      by simp, by simp [none, Call.isDeliver], fun delivery outcome member => ?_⟩
    rcases List.mem_append.mp member with query | mint
    · exact nomatch only _ query
    · simp at mint
  | deliver sender messageId payload body phase named recipient peer addressed greeted outcome =>
    refine ⟨_, rfl, by simp [Call.isDeliver], fun delivery _ member => ?_⟩
    obtain ⟨rfl, -⟩ : delivery = _ ∧ _ := by simpa using member
    exact ⟨sender, messageId, payload, body, peer, recipient, rfl, phase, greeted, addressed,
      named, rfl⟩

/-- A refused command leaves every field of the session. -/
theorem effect_refused {session : ZsmptSession crypto ω} {outer : Outer ω} {command : Command}
    {handled : ZsmptSession.Handled crypto ω} (effect : Effect session outer command handled)
    (refused : Refused handled.result) : handled.session = session := by
  cases effect with
  | still => rfl
  | hello => exact absurd refused (by simp [Refused, Reply.line]; decide)
  | auth => exact absurd refused (by simp [Refused, Reply.line]; decide)
  | addr => exact absurd refused (by simp [Refused, Reply.line]; decide)
  | deliver => rfl

/-! ## Every sequence of commands -/

/-- From a fresh session, over every sequence of commands and with any sink, directory and
address provider: the phase only moves forward one step at a time, the fields stay linked to
the phase, the sink is called at most once per INVOICE and only as it should be, and a refused
command changes no field. -/
theorem session_invariant (domain : String) (signing : crypto.SigningKey)
    (sink : Option (Delivery → ω → DeliveryOutcome × ω))
    (directory : Option (String → ω → Bool × ω))
    (addressProvider : AttestationMode → ω → MintedAddress × ω) (world : ω)
    (commands : List Command) (command : Command) :
    let fresh : ZsmptSession crypto ω × Outer ω :=
      (ZsmptSession.withDomainKey domain signing sink directory addressProvider, ⟨world, []⟩)
    let before := Transition.run handleStep fresh commands
    let handled := before.1.handle command before.2
    PhaseStep before.1.state handled.session.state ∧
    Linked before ∧ Linked (handled.session, handled.outer) ∧
    (∃ calls, handled.outer.calls = before.2.calls ++ calls ∧ calls.countP Call.isDeliver ≤ 1 ∧
      ∀ delivery outcome, .deliver delivery outcome ∈ calls →
        Proper before.1 command delivery) ∧
    (Refused handled.result → handled.session = before.1) := by
  intro fresh before handled
  have linked : Linked before := Transition.run_invariant linked_step
    (linked_fresh domain signing sink directory addressProvider world) commands
  have effect : Effect before.1 before.2 command handled := handle_effect before.1 before.2 command
  exact ⟨effect_phase effect, linked, linked_effect linked effect, effect_calls effect,
    effect_refused effect⟩

end Talk.Verif.SessionInvariant
