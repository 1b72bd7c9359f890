import Talk.Protocol.Client
import Talk.Verif.SessionInvariant

/-!
# Which challenges a server signs

The domain of a peer arrives twice, in its HELLO and in the challenge of its AUTH, and the session
keeps the second one only. So what the session signs, and whom it takes for the sender of an
invoice, is what the challenge says. It is what the HELLO said, for this server, in just the runs
whose challenges name both domains so.
-/

namespace Talk.Verif.SigningOracle

open Protocol SessionInvariant Transition
open Utf8 (bytes fromUtf8Lossy)

variable {crypto : Crypto} {ω : Type}

/-! ## Runs with the announced domain -/

/-- A session with the world behind it, and the domain its peer has announced. -/
structure Heard (crypto : Crypto) (ω : Type) where
  /-- The session. -/
  session : ZsmptSession crypto ω
  /-- The world and the calls. -/
  outer : Outer ω
  /-- The domain of the HELLO that was accepted; the session does not keep it. -/
  announced : Option String

/-- What a command leaves. -/
def Heard.after (heard : Heard crypto ω) (command : Command) : ZsmptSession.Handled crypto ω :=
  heard.session.handle command heard.outer

/-- The domain that is announced after a command. -/
def announcedBy (heard : Heard crypto ω) : Command → Option String
  | .hello domain =>
    if heard.session.state = .greeting ∧ domain ≠ "" then some domain else heard.announced
  | _ => heard.announced

/-- One command. -/
def hear (heard : Heard crypto ω) (command : Command) : Heard crypto ω :=
  ⟨(heard.after command).session, (heard.after command).outer, announcedBy heard command⟩

/-- The blob that answers a challenge. -/
def signedBlob (session : ZsmptSession crypto ω) (challenge : Challenge) : List UInt8 :=
  bytes (challenge.toWire ++ "|" ++
    Hex.encode (ChallengeResponse.respond crypto challenge session.domainKey.signing).signature)

/-- The reply to a command carries a challenge signed with the domain key, as a client reads it. -/
def Signed (heard : Heard crypto ω) (command : Command) (challenge : Challenge) : Prop :=
  ∃ blob, (heard.after command).result = .ok (.statusWithBlob ⟨.ok, "authenticated"⟩ blob) ∧
    ZsmptClient.responseOf blob =
      .ok (ChallengeResponse.respond crypto challenge heard.session.domainKey.signing)

/-- A command does not abuse the server's key or another domain's name. -/
structure Bound (domain : String) (heard : Heard crypto ω) (command : Command) : Prop where
  /-- A challenge that is signed is for this server and from the announced domain. -/
  signed : ∀ challenge, Signed heard command challenge →
    challenge.receiverDomain = domain ∧ heard.announced = some challenge.senderDomain
  /-- The peer's domain is the announced one. -/
  peer : ∀ peer, (heard.after command).session.peerDomain = some peer →
    announcedBy heard command = some peer
  /-- An invoice is delivered in the name of the announced domain. -/
  sender : ∀ calls, (heard.after command).outer.calls = heard.outer.calls ++ calls →
    ∀ delivery outcome, .deliver delivery outcome ∈ calls → ∃ user messageId payload body peer,
      command = .invoice user messageId payload body ∧ heard.announced = some peer ∧
        delivery.senderMailbox = user ++ "@" ++ peer

/-- The challenge of an AUTH that is expected, if it is one, names this server as its receiver and
the announced domain as its sender. -/
def NamesBoth (domain : String) (heard : Heard crypto ω) (command : Command) : Prop :=
  ∀ wire challenge, command = .auth wire → heard.session.state = .awaitingAuth →
    Challenge.fromWire (fromUtf8Lossy wire) = some challenge →
      challenge.receiverDomain = domain ∧ heard.announced = some challenge.senderDomain

/-! ## Single commands -/

/-- An AUTH is answered with the signed challenge, or with a status alone. -/
theorem handle_auth_cases (session : ZsmptSession crypto ω) (wire : List UInt8) (outer : Outer ω) :
    (∃ challenge, session.state = .awaitingAuth ∧
      Challenge.fromWire (fromUtf8Lossy wire) = some challenge ∧
      session.handle (.auth wire) outer =
        ⟨.ok (.statusWithBlob ⟨.ok, "authenticated"⟩ (signedBlob session challenge)),
        { session with state := .authenticated, peerDomain := some challenge.senderDomain },
        outer⟩) ∨
    ((session.state = .awaitingAuth → Challenge.fromWire (fromUtf8Lossy wire) = none) ∧
      ∃ code message, session.handle (.auth wire) outer = session.refuse outer code message) := by
  rw [ZsmptSession.handle, ZsmptSession.onAuth]
  by_cases phase : session.state = .awaitingAuth
  · rw [if_neg (not_not.mpr phase)]
    cases read : Challenge.fromWire (fromUtf8Lossy wire) with
    | none => exact .inr ⟨fun _ => rfl, _, _, rfl⟩
    | some challenge => exact .inl ⟨challenge, phase, rfl, rfl⟩
  · rw [if_pos phase]
    exact .inr ⟨fun found => absurd found phase, _, _, rfl⟩

/-- Only an AUTH is answered with a signed challenge. -/
theorem auth_of_result {session : ZsmptSession crypto ω} {command : Command} {outer : Outer ω}
    {blob : List UInt8} (authenticated : (session.handle command outer).result =
      .ok (.statusWithBlob ⟨.ok, "authenticated"⟩ blob)) : ∃ wire, command = .auth wire := by
  cases command with
  | auth wire => exact ⟨wire, rfl⟩
  | hello domain =>
    simp only [ZsmptSession.handle, ZsmptSession.onHello, ZsmptSession.refuse] at authenticated
    split_ifs at authenticated <;> simp at authenticated
  | addr mode user =>
    simp only [ZsmptSession.handle, ZsmptSession.onAddr, ZsmptSession.refuse] at authenticated
    split_ifs at authenticated <;> simp at authenticated
  | invoice sender messageId payload body =>
    simp only [ZsmptSession.handle, ZsmptSession.onInvoice, ZsmptSession.refuse] at authenticated
    split_ifs at authenticated
    · simp at authenticated
    · simp at authenticated
    · split at authenticated
      · simp at authenticated
      · split at authenticated
        · simp at authenticated
        · split at authenticated <;> simp at authenticated
  | status code message => simp [ZsmptSession.handle] at authenticated
  | quit => simp [ZsmptSession.handle, ZsmptSession.refuse] at authenticated

/-- What is signed is the challenge of an AUTH that is expected. -/
theorem signed_iff {heard : Heard crypto ω} {command : Command} {challenge : Challenge} :
    Signed heard command challenge ↔ ∃ wire, command = .auth wire ∧
      heard.session.state = .awaitingAuth ∧
      Challenge.fromWire (fromUtf8Lossy wire) = some challenge := by
  constructor
  · rintro ⟨blob, answered, read⟩
    obtain ⟨wire, rfl⟩ := auth_of_result answered
    rcases handle_auth_cases heard.session wire heard.outer with
      ⟨presented, phase, found, done⟩ | ⟨-, code, message, done⟩
    · rw [Heard.after, done] at answered
      have same : signedBlob heard.session presented = blob := by simpa using answered
      have carried := Challenge.carried_of_fromWire found
      rw [← same, signedBlob, ZsmptClient.responseOf_wire carried] at read
      have signed : presented = challenge :=
        congrArg ChallengeResponse.challenge (Except.ok.inj read)
      exact ⟨wire, rfl, phase, signed ▸ found⟩
    · rw [Heard.after, done, ZsmptSession.refuse] at answered
      simp at answered
  · rintro ⟨wire, rfl, phase, found⟩
    rcases handle_auth_cases heard.session wire heard.outer with
      ⟨presented, -, same, done⟩ | ⟨none, -⟩
    · rw [found] at same
      obtain rfl := Option.some.inj same
      refine ⟨_, congrArg ZsmptSession.Handled.result done, ?_⟩
      exact ZsmptClient.responseOf_wire (Challenge.carried_of_fromWire found) _
    · rw [none phase] at found
      cases found

/-! ## Every run -/

/-- The peer's domain is the announced one, and none is known before a HELLO. -/
structure Consistent (domain : String) (heard : Heard crypto ω) : Prop where
  /-- The server's domain. -/
  own : heard.session.domain = domain
  /-- The peer's domain. -/
  peer : ∀ peer, heard.session.peerDomain = some peer → heard.announced = some peer
  /-- Before a HELLO there is none. -/
  fresh : heard.session.state = .greeting → heard.session.peerDomain = none

/-- The announced domain stays once a peer's domain is known. -/
theorem announcedBy_of_peer {domain : String} {heard : Heard crypto ω}
    (consistent : Consistent domain heard) {peer : String}
    (known : heard.session.peerDomain = some peer) (command : Command) :
    announcedBy heard command = some peer := by
  have later : heard.session.state ≠ .greeting := by
    intro fresh
    rw [consistent.fresh fresh] at known
    cases known
  cases command with
  | hello =>
    rw [announcedBy, if_neg fun accepted => later accepted.1]
    exact consistent.peer peer known
  | auth | addr | invoice | status | quit => exact consistent.peer peer known

/-- A command other than AUTH leaves the domains and does not go back to the first phase. -/
theorem other_kept (session : ZsmptSession crypto ω) (outer : Outer ω) {command : Command}
    (other : ∀ wire, command ≠ .auth wire) :
    (session.handle command outer).session.domain = session.domain ∧
      (session.handle command outer).session.peerDomain = session.peerDomain ∧
      ((session.handle command outer).session.state = .greeting → session.state = .greeting) := by
  have effect := handle_effect session outer command
  generalize session.handle command outer = handled at effect
  cases effect with
  | still | addr | deliver => exact ⟨rfl, rfl, id⟩
  | hello => exact ⟨rfl, rfl, nofun⟩
  | auth wire => exact absurd rfl (other wire)

/-- A command keeps the session consistent, if the challenge it has signed names both domains. -/
theorem consistent_hear {domain : String} {heard : Heard crypto ω} {command : Command}
    (consistent : Consistent domain heard) (names : NamesBoth domain heard command) :
    Consistent domain (hear heard command) := by
  by_cases auth : ∃ wire, command = .auth wire
  · obtain ⟨wire, rfl⟩ := auth
    rcases handle_auth_cases heard.session wire heard.outer with
      ⟨challenge, phase, found, done⟩ | ⟨-, code, message, done⟩
    · rw [hear, Heard.after, done]
      refine ⟨consistent.own, fun peer known => ?_, nofun⟩
      rw [← Option.some.inj known]
      exact (names wire challenge rfl phase found).2
    · rw [hear, Heard.after, done]
      exact ⟨consistent.own, consistent.peer, consistent.fresh⟩
  · obtain ⟨own, same, phase⟩ := other_kept heard.session heard.outer (not_exists.mp auth)
    refine ⟨own.trans consistent.own, fun peer known => ?_, fun fresh => ?_⟩
    · exact announcedBy_of_peer consistent (same.symm.trans known) command
    · exact same.trans (consistent.fresh (phase fresh))

/-- In a consistent session a command is bound just when the challenge it has signed names both
domains. -/
theorem bound_iff_names {domain : String} {heard : Heard crypto ω}
    (consistent : Consistent domain heard) (command : Command) :
    Bound domain heard command ↔ NamesBoth domain heard command := by
  constructor
  · intro bound wire challenge same phase found
    exact bound.signed challenge (signed_iff.mpr ⟨wire, same, phase, found⟩)
  · intro names
    refine ⟨fun challenge signed => ?_, (consistent_hear consistent names).peer,
      fun calls added delivery outcome member => ?_⟩
    · obtain ⟨wire, same, phase, found⟩ := signed_iff.mp signed
      exact names wire challenge same phase found
    · obtain ⟨made, extended, -, proper⟩ :=
        effect_calls (handle_effect heard.session heard.outer command)
      have same : made = calls := List.append_cancel_left (extended.symm.trans added)
      obtain ⟨sender, messageId, payload, body, peer, recipient, invoice, -, known, -, -, rfl⟩ :=
        proper delivery outcome (same ▸ member)
      exact ⟨sender, messageId, payload, body, peer, invoice, consistent.peer peer known, rfl⟩

/-- A fresh session, of which no domain is announced. -/
def freshHeard (domain : String) (signing : crypto.SigningKey)
    (sink : Option (Delivery → ω → DeliveryOutcome × ω))
    (directory : Option (String → ω → Bool × ω))
    (addressProvider : AttestationMode → ω → MintedAddress × ω) (world : ω) : Heard crypto ω :=
  ⟨ZsmptSession.withDomainKey domain signing sink directory addressProvider, ⟨world, []⟩, none⟩

/-- Over every run of commands on a fresh session, with any key, sink, directory and address
provider: every challenge that is signed is for this server and from the domain of the HELLO, and
the peer's domain and the sender of every delivery are of this domain, just when every challenge
that is presented names the two domains so. -/
theorem signs_only_bound_iff (domain : String) (signing : crypto.SigningKey)
    (sink : Option (Delivery → ω → DeliveryOutcome × ω))
    (directory : Option (String → ω → Bool × ω))
    (addressProvider : AttestationMode → ω → MintedAddress × ω) (world : ω)
    (commands : List Command) :
    Guarded hear (Bound domain) (freshHeard domain signing sink directory addressProvider world)
        commands ↔
      Guarded hear (NamesBoth domain)
        (freshHeard domain signing sink directory addressProvider world) commands := by
  have start : Consistent domain
      (freshHeard domain signing sink directory addressProvider world) :=
    ⟨rfl, nofun, fun _ => rfl⟩
  have kept : ∀ (heard : Heard crypto ω) command, Consistent domain heard →
      Bound domain heard command → Consistent domain (hear heard command) :=
    fun heard command consistent bound =>
    consistent_hear consistent ((bound_iff_names consistent command).mp bound)
  exact guarded_iff kept (fun heard command consistent => bound_iff_names consistent command) start
    commands

/-! ## A challenge between two other servers -/

/-- A challenge of `c.io` for `d.io`. -/
def foreign : Challenge := ⟨"c.io", "d.io", ⟨List.replicate 16 0, by simp⟩, 0⟩

/-- A session of the server at `b.io`. -/
def atB : Heard Crypto.mirror Unit :=
  freshHeard "b.io" () none none (fun _ world => (⟨"", "", none⟩, world)) ()

/-- A peer that announces `a.io` has this server sign it. -/
theorem foreign_challenge_signed :
    ¬Guarded hear (Bound "b.io") atB [.hello "a.io", .auth (bytes foreign.toWire)] := by
  rintro ⟨-, bound, -⟩
  have found : Challenge.fromWire (fromUtf8Lossy (bytes foreign.toWire)) = some foreign := by
    rw [Utf8.fromUtf8Lossy_bytes, Challenge.fromWire_toWire (by decide)]
  exact absurd (bound.signed foreign (signed_iff.mpr ⟨_, rfl, rfl, found⟩)).1 (by decide)

end Talk.Verif.SigningOracle
