import Talk.Verif.ClientSteps
import Talk.Verif.HandshakeFreshness

/-!
# Whose address is returned

A reply to ADDR carries an attestation of its own choice. The client checks its signature and that
its domain is the one of the greeting, and nothing else: the user and the mode that were asked
for are not compared, and the domain of the greeting is not compared with the one the caller
wanted. So a peer may answer with any attestation that verifies, and may greet as any domain it
has an attestation for.
-/

namespace Talk.Verif.AddressBinding

open Protocol ByteStream Text Hex ZsmptClient ClientSteps
open Utf8 (bytes)

variable (crypto : Crypto) (json : JsonReader)

/-! ## The two properties -/

/-- The signature is the domain key's. -/
def ValidlySigned (receiverPub : crypto.VerifyingKey) (attestation : Attestation) : Prop :=
  ∃ size : attestation.signature.length = 64,
    crypto.verify receiverPub (attestation.canonicalDigest crypto).val
      ⟨attestation.signature, size⟩ = true

/-- An address that `request_address` returns on a reply belongs to whom was asked for. -/
def AnswersRequest (client : ZsmptClient) (user : String) (mode : AttestationMode)
    (receiverPub : crypto.VerifyingKey) (reply : List UInt8) : Prop :=
  ∀ attestation after, (requestAddress crypto json user mode receiverPub).run
      (client.withStream ⟨reply, client.stream.output⟩) = .ok attestation after →
    ValidlySigned crypto receiverPub attestation ∧ attestation.user = user ∧
      attestation.mode = mode ∧ attestation.domain = client.receiverDomain

/-- What `request_address` returns on a reply is an attestation that the key holder has signed, as
its digest says. -/
def Unforged (signed : Set (List UInt8)) (client : ZsmptClient) (user : String)
    (mode : AttestationMode) (receiverPub : crypto.VerifyingKey) (reply : List UInt8) : Prop :=
  ∀ attestation after, (requestAddress crypto json user mode receiverPub).run
      (client.withStream ⟨reply, client.stream.output⟩) = .ok attestation after →
    (attestation.canonicalDigest crypto).val ∈ signed

variable {crypto}

/-- A delivery that succeeds was to the domain the caller asked for. -/
def ReachesReceiver (send : SendInvoice crypto) (nonce : Block 16) (issuedAt now : Int64)
    (dial : String → String → Except ClientError (List UInt8)) : Prop :=
  send.deliver json dial nonce issuedAt now = .ok () →
    ∃ input after, dial send.endpoint send.receiverDomain = .ok input ∧
      send.converse json nonce issuedAt now input = .ok () after ∧
      after.receiverDomain = send.receiverDomain

/-! ## What a peer can present -/

/-- An attestation that verifies for a domain, within a blob. -/
def Presentable (receiverPub : crypto.VerifyingKey) (domain : String)
    (attestation : Attestation) : Prop :=
  ∃ blob : List UInt8, blob.length ≤ maxBlob ∧
    attestationOf crypto json blob receiverPub domain = .ok attestation

/-- A peer can greet as `domain` and answer every step of the delivery. -/
structure Completable (send : SendInvoice crypto) (nonce : Block 16) (issuedAt now : Int64)
    (domain : String) : Prop where
  /-- The greeting names a domain. -/
  named : domain ≠ ""
  /-- The greeting is a line. -/
  greets : ∃ line : LineWire, line.text = "ZSMTP 1.0 " ++ domain
  /-- HELLO can be written. -/
  hello : (bytes ("HELLO " ++ send.senderDomain)).length ≤ maxLine
  /-- AUTH can be written. -/
  auth : (bytes (authLine (Challenge.issue send.senderDomain domain nonce issuedAt))).length ≤
    maxLine
  /-- There is a response that verifies. -/
  response : ∃ (blob : List UInt8) (response : ChallengeResponse), blob.length ≤ maxBlob ∧
    responseOf blob = .ok response ∧
    response.verify crypto send.receiverPub maxChallengeAge now = .ok ()
  /-- ADDR can be written. -/
  addr : (bytes (addrLine send.recipientUser)).length ≤ maxLine
  /-- There is an attestation for the domain. -/
  attestation : ∃ attestation, Presentable json send.receiverPub domain attestation
  /-- INVOICE can be written. -/
  invoice : (bytes (invoiceLine send.invoice)).length ≤ maxLine
  /-- The invoice can be written. -/
  body : send.body.length ≤ maxBlob

/-! ## One request -/

variable {json}

/-- What a blob carries verifies for the client's domain. -/
theorem Presentable.verified {receiverPub : crypto.VerifyingKey} {domain : String}
    {attestation : Attestation} (presentable : Presentable json receiverPub domain attestation) :
    ValidlySigned crypto receiverPub attestation ∧ attestation.domain = domain := by
  obtain ⟨blob, -, carries⟩ := presentable
  unfold attestationOf at carries
  split at carries
  · cases carries
  split at carries
  · cases carries
  rename_i verified
  cases carries
  unfold Attestation.verify at verified
  split_ifs at verified with other size genuine
  exact ⟨⟨size, genuine⟩, not_not.mp other⟩

/-- An attestation of the domain key is presentable. -/
theorem presentable_sign (key : crypto.SigningKey) (domain user : String)
    (mode : AttestationMode) (address pubkey : String)
    (small : 6 * ((bytes domain).length + (bytes user).length + (bytes address).length
      + (bytes pubkey).length) + 406 ≤ maxBlob) :
    Presentable json (crypto.verifyingKey key) domain
      (Attestation.sign crypto domain user mode address pubkey key) := by
  have size : (Attestation.sign crypto domain user mode address pubkey key).signature.length =
      64 := (crypto.sign key _).property
  have length := length_toJson (Attestation.sign crypto domain user mode address pubkey key)
  refine ⟨bytes (Attestation.sign crypto domain user mode address pubkey key).toJson, ?_, ?_⟩
  · rw [size] at length
    simp only [Attestation.sign] at length ⊢
    omega
  · simp only [attestationOf, Attestation.fromJson, Utf8.fromUtf8Lossy_bytes, json.read_toJson,
      Attestation.verify_sign]

/-- A reply that presents an attestation. -/
def present (blob : List UInt8) : List UInt8 :=
  bytes "250 address attestation" ++ crlf ++ blobBytes blob

/-- Any attestation that can be presented is returned. -/
theorem present_accepted {client : ZsmptClient} {user : String} {mode : AttestationMode}
    {receiverPub : crypto.VerifyingKey} (phase : client.state = .authenticated)
    (fits : (bytes ("ADDR " ++ mode.word ++ " " ++ user)).length ≤ maxLine)
    {attestation : Attestation}
    (presentable : Presentable json receiverPub client.receiverDomain attestation) :
    ∃ reply after, (requestAddress crypto json user mode receiverPub).run
      (client.withStream ⟨reply, client.stream.output⟩) = .ok attestation after := by
  obtain ⟨blob, small, carries⟩ := presentable
  have heard := requestAddress_heard crypto json phase fits small carries [] client.stream.output
  rw [List.append_nil] at heard
  exact ⟨present blob, _, heard⟩

/-- Every unforged reply is answered as asked exactly when the request is not made, or whatever has
been signed and can be presented is for this user and this mode. -/
theorem answers_unforged_iff (signed : Set (List UInt8)) (client : ZsmptClient) (user : String)
    (mode : AttestationMode) (receiverPub : crypto.VerifyingKey) :
    (∀ reply, Unforged crypto json signed client user mode receiverPub reply →
      AnswersRequest crypto json client user mode receiverPub reply) ↔
    client.state ≠ .authenticated ∨
    maxLine < (bytes ("ADDR " ++ mode.word ++ " " ++ user)).length ∨
    ∀ attestation, (attestation.canonicalDigest crypto).val ∈ signed →
      Presentable json receiverPub client.receiverDomain attestation →
        attestation.user = user ∧ attestation.mode = mode := by
  constructor
  · intro answers
    by_cases phase : client.state = .authenticated
    swap
    · exact .inl phase
    by_cases fits : (bytes ("ADDR " ++ mode.word ++ " " ++ user)).length ≤ maxLine
    swap
    · exact .inr (.inl (Nat.lt_of_not_le fits))
    refine .inr (.inr fun attestation inSigned presentable => ?_)
    obtain ⟨reply, after, accepted⟩ := present_accepted phase fits presentable
    have unforged : Unforged crypto json signed client user mode receiverPub reply := by
      intro other last again
      obtain ⟨rfl, -⟩ := EStateM.Result.ok.inj (accepted.symm.trans again)
      exact inSigned
    have answered := answers reply unforged attestation after accepted
    exact ⟨answered.2.1, answered.2.2.1⟩
  · intro condition reply unforged attestation after accepted
    obtain ⟨phase, fits, presentable, -⟩ := requestAddress_done accepted
    have verified := Presentable.verified presentable
    rcases condition with other | long | own
    · exact absurd phase other
    · exact absurd fits (Nat.not_le_of_lt long)
    · have same := own attestation (unforged attestation after accepted) presentable
      exact ⟨verified.1, same.1, same.2, verified.2⟩

/-- Every reply is answered as asked exactly when the request is not made, or whatever can be
presented is for this user and this mode. -/
theorem answers_request_iff (client : ZsmptClient) (user : String) (mode : AttestationMode)
    (receiverPub : crypto.VerifyingKey) :
    (∀ reply, AnswersRequest crypto json client user mode receiverPub reply) ↔
    client.state ≠ .authenticated ∨
    maxLine < (bytes ("ADDR " ++ mode.word ++ " " ++ user)).length ∨
    ∀ attestation, Presentable json receiverPub client.receiverDomain attestation →
      attestation.user = user ∧ attestation.mode = mode := by
  have all := @answers_unforged_iff crypto json Set.univ client user mode receiverPub
  simpa [Unforged] using all

/-! ## One delivery -/

variable {send : SendInvoice crypto} {nonce : Block 16} {issuedAt now : Int64}

/-- A dialogue that succeeds was completed for the domain of its greeting. -/
theorem completable_of_converse {input : List UInt8} {after : ZsmptClient}
    (done : send.converse json nonce issuedAt now input = .ok () after) :
    Completable json send nonce issuedAt now after.receiverDomain := by
  obtain ⟨_, greeted, connected, done⟩ := run_bind_ok.mp done
  obtain ⟨line, domain, stream, named, greets, -, opened⟩ := connect_done connected
  have sender : greeted.senderDomain = send.senderDomain := by
    rw [opened]
    rfl
  have receiver : greeted.receiverDomain = domain := by
    rw [opened]
    rfl
  obtain ⟨_, first, introduced, done⟩ := run_bind_ok.mp done
  obtain ⟨hello, one⟩ := hello_done introduced
  obtain ⟨_, second, authenticated, done⟩ := run_bind_ok.mp done
  obtain ⟨auth, response, next⟩ := authenticate_done authenticated
  obtain ⟨attestation, third, addressed, done⟩ := run_bind_ok.mp done
  obtain ⟨-, addr, presentable, more⟩ := requestAddress_done addressed
  obtain ⟨_, fourth, sent, done⟩ := run_bind_ok.mp done
  obtain ⟨invoice, body, last⟩ := @sendInvoice_done send.invoice _ _ sent
  have two := one.trans next
  have kept := (two.trans more).trans (last.trans (ignore_quit_done done))
  rw [sender] at hello
  rw [one.1, one.2, sender, receiver] at auth
  rw [two.2, receiver] at presentable
  rw [kept.2, receiver]
  exact ⟨named, ⟨line, greets⟩, hello, auth, response, addr, ⟨attestation, presentable⟩, invoice,
    body⟩

/-- Some peer lets the program return, in a session for `domain`. -/
def Succeeds (domain : String) (program : EStateM ClientError ZsmptClient Unit)
    (client : ZsmptClient) : Prop :=
  ∃ input, ∀ output, ∃ after, program.run (client.withStream ⟨input, output⟩) = .ok () after ∧
    after.receiverDomain = domain

/-- A step that consumes its reply is put before what follows it. -/
theorem Succeeds.step {domain : String} {α : Type} {value : α}
    {first : EStateM ClientError ZsmptClient α} {second : α → EStateM ClientError ZsmptClient Unit}
    {client middle : ZsmptClient} {reply written : List UInt8}
    (consumed : ∀ rest output, first.run (client.withStream ⟨reply ++ rest, output⟩) =
      .ok value (middle.withStream ⟨rest, output ++ written⟩))
    (follows : Succeeds domain (second value) middle) :
    Succeeds domain (first >>= second) client := by
  obtain ⟨input, succeeds⟩ := follows
  refine ⟨reply ++ input, fun output => ?_⟩
  obtain ⟨after, done, same⟩ := succeeds (output ++ written)
  exact ⟨after, run_bind_ok.mpr ⟨value, _, consumed input output, done⟩, same⟩

/-- The client of a delivery, in a phase of the dialogue with a peer that greets as `domain`. -/
def greetedBy (send : SendInvoice crypto) (domain : String) (state : ClientState)
    (addrUser : Option String) : ZsmptClient :=
  ⟨⟨[], []⟩, state, send.senderDomain, domain, addrUser⟩

/-- An invoice that can be written is delivered. -/
theorem succeeds_invoice {domain : String}
    (completable : Completable json send nonce issuedAt now domain) :
    Succeeds domain (deliverInvoice send.invoice >>= fun _ => ignore quit)
      (greetedBy send domain .addressed (some send.recipientUser)) := by
  have sent : ∀ rest output, (deliverInvoice send.invoice).run
      ((greetedBy send domain .addressed (some send.recipientUser)).withStream
        ⟨bytes "250 delivered" ++ crlf ++ rest, output⟩) =
      .ok () ((greetedBy send domain .addressed (some send.recipientUser)).withStream
        ⟨rest, output ++ invoiceBytes send.invoice⟩) := by
    intro rest output
    rw [sendInvoice_run rfl completable.invoice completable.body]
    exact expectStatus_ok "250 delivered" (by decide) (by decide)
      (by decide : startsWith "250 delivered" "250 " = true) _ rest _
  refine Succeeds.step sent ⟨[], fun output => ?_⟩
  obtain ⟨after, done, -⟩ := ignore_quit
    ((greetedBy send domain .addressed (some send.recipientUser)).withStream ⟨[], output⟩)
  exact ⟨after, done, (ignore_quit_done done).2⟩

/-- From the address on, a delivery that can be completed succeeds. -/
theorem succeeds_address {domain : String}
    (completable : Completable json send nonce issuedAt now domain) :
    Succeeds domain
      (requestAddress crypto json send.recipientUser .ephemeral send.receiverPub >>= fun _ =>
        deliverInvoice send.invoice >>= fun _ => ignore quit)
      (greetedBy send domain .authenticated none) := by
  obtain ⟨attestation, signed, fits, presented⟩ := completable.attestation
  have addressed : ∀ rest output,
      (requestAddress crypto json send.recipientUser .ephemeral send.receiverPub).run
      ((greetedBy send domain .authenticated none).withStream
        ⟨bytes "250 address attestation" ++ crlf ++ blobBytes signed ++ rest, output⟩) =
      .ok attestation ((greetedBy send domain .addressed (some send.recipientUser)).withStream
        ⟨rest, output ++ (bytes (addrLine send.recipientUser) ++ crlf)⟩) := by
    intro rest output
    rw [List.append_assoc]
    exact @requestAddress_heard crypto json _ (greetedBy send domain .authenticated none) rfl _ _
      completable.addr _ fits _ presented rest output
  exact Succeeds.step addressed (succeeds_invoice completable)

/-- From the challenge on, a delivery that can be completed succeeds. -/
theorem succeeds_challenge {domain : String}
    (completable : Completable json send nonce issuedAt now domain) :
    Succeeds domain
      (authenticate crypto send.receiverPub nonce issuedAt now >>= fun _ =>
        requestAddress crypto json send.recipientUser .ephemeral send.receiverPub >>= fun _ =>
          deliverInvoice send.invoice >>= fun _ => ignore quit)
      (greetedBy send domain .awaitingAuth none) := by
  obtain ⟨blob, response, small, carries, verified⟩ := completable.response
  have authenticated : ∀ rest output, (authenticate crypto send.receiverPub nonce issuedAt now).run
      ((greetedBy send domain .awaitingAuth none).withStream
        ⟨bytes "250 authenticated" ++ crlf ++ blobBytes blob ++ rest, output⟩) =
      .ok () ((greetedBy send domain .authenticated none).withStream ⟨rest, output ++ (bytes
        (authLine (Challenge.issue send.senderDomain domain nonce issuedAt)) ++ crlf)⟩) := by
    intro rest output
    rw [List.append_assoc]
    exact @authenticate_heard crypto _ (greetedBy send domain .awaitingAuth none) rfl _ _ _ _ rfl
      completable.auth _ small _ carries verified rest output
  exact Succeeds.step authenticated (succeeds_address completable)

/-- A delivery that can be completed for a domain succeeds with a peer that greets as it. -/
theorem converse_of_completable {domain : String}
    (completable : Completable json send nonce issuedAt now domain) :
    ∃ input after, send.converse json nonce issuedAt now input = .ok () after ∧
      after.receiverDomain = domain := by
  obtain ⟨line, greets⟩ := completable.greets
  have greeted : ∀ rest output, connect.run
      ((opened ⟨[], []⟩ send.senderDomain).withStream ⟨line.wire ++ rest, output⟩) =
      .ok () ((greetedBy send domain .connected none).withStream ⟨rest, output ++ []⟩) := by
    intro rest output
    rw [List.append_nil]
    exact connect_line _ completable.named greets rest output
  have introduced : ∀ rest output, hello.run
      ((greetedBy send domain .connected none).withStream
        ⟨bytes "250 hello" ++ crlf ++ rest, output⟩) =
      .ok () ((greetedBy send domain .awaitingAuth none).withStream
        ⟨rest, output ++ (bytes ("HELLO " ++ send.senderDomain) ++ crlf)⟩) :=
    @hello_ok (greetedBy send domain .connected none) rfl completable.hello "250 hello"
      (by decide) (by decide) (by decide)
  have dialogue : Succeeds domain
      (sendInvoiceOver crypto json send.invoice send.receiverPub nonce issuedAt now)
      (greetedBy send domain .connected none) :=
    Succeeds.step introduced (succeeds_challenge completable)
  have whole : Succeeds domain
      (connect >>= fun _ =>
        sendInvoiceOver crypto json send.invoice send.receiverPub nonce issuedAt now)
      (opened ⟨[], []⟩ send.senderDomain) :=
    Succeeds.step greeted dialogue
  obtain ⟨input, succeeds⟩ := whole
  obtain ⟨after, done, same⟩ := succeeds []
  exact ⟨input, after, done, same⟩

/-- Every delivery that succeeds is to the receiver exactly when no peer can complete it for
another domain. -/
theorem reaches_receiver_iff (send : SendInvoice crypto) (nonce : Block 16)
    (issuedAt now : Int64) :
    (∀ dial, ReachesReceiver json send nonce issuedAt now dial) ↔
    ∀ domain, Completable json send nonce issuedAt now domain →
      domain = send.receiverDomain := by
  constructor
  · intro reaches domain completable
    obtain ⟨input, after, done, rfl⟩ := converse_of_completable completable
    have delivered : send.deliver json (fun _ _ => .ok input) nonce issuedAt now = .ok () := by
      simp only [SendInvoice.deliver, done]
    obtain ⟨_, _, dialled, again, same⟩ := reaches _ delivered
    cases dialled
    rw [done] at again
    obtain ⟨-, rfl⟩ := EStateM.Result.ok.inj again
    exact same
  · intro only dial delivered
    unfold SendInvoice.deliver at delivered
    split at delivered
    · cases delivered
    rename_i input dialled
    split at delivered
    · cases delivered
    rename_i after done
    exact ⟨input, after, dialled, done, only _ (completable_of_converse done)⟩

/-! ## Both together -/

/-- The address returned is for whom was asked, and is used only with the domain that was asked,
exactly when the peer has no other attestation to present: of all that verify, or of those that the
key holder has signed when nobody can forge another one. -/
theorem address_bound_iff (crypto : Crypto) (json : JsonReader) :
    (∀ (client : ZsmptClient) (user : String) (mode : AttestationMode)
      (receiverPub : crypto.VerifyingKey),
      (∀ reply, AnswersRequest crypto json client user mode receiverPub reply) ↔
      client.state ≠ .authenticated ∨
      maxLine < (bytes ("ADDR " ++ mode.word ++ " " ++ user)).length ∨
      ∀ attestation, Presentable json receiverPub client.receiverDomain attestation →
        attestation.user = user ∧ attestation.mode = mode) ∧
    (∀ (signed : Set (List UInt8)) (client : ZsmptClient) (user : String)
      (mode : AttestationMode) (receiverPub : crypto.VerifyingKey),
      (∀ reply, Unforged crypto json signed client user mode receiverPub reply →
        AnswersRequest crypto json client user mode receiverPub reply) ↔
      client.state ≠ .authenticated ∨
      maxLine < (bytes ("ADDR " ++ mode.word ++ " " ++ user)).length ∨
      ∀ attestation, (attestation.canonicalDigest crypto).val ∈ signed →
        Presentable json receiverPub client.receiverDomain attestation →
          attestation.user = user ∧ attestation.mode = mode) ∧
    ∀ (send : SendInvoice crypto) (nonce : Block 16) (issuedAt now : Int64),
      (∀ dial, ReachesReceiver json send nonce issuedAt now dial) ↔
      ∀ domain, Completable json send nonce issuedAt now domain →
        domain = send.receiverDomain :=
  ⟨answers_request_iff, answers_unforged_iff, reaches_receiver_iff⟩

/-! ## Another user's address, another domain -/

/-- A client that has authenticated `b.org`. -/
def asking : ZsmptClient := ⟨⟨[], []⟩, .authenticated, "a.org", "b.org", none⟩

/-- An invoice for `bob` of `b.org`. -/
def toBob : SendInvoice Crypto.mirror :=
  ⟨"b.org:2525", "b.org", "a.org", "alice", "bob", Crypto.mirror.verifyingKey (), "m-1",
    .plaintext, []⟩

/-- The challenge that the receiver has signed for the client. -/
def signedChallenge : Challenge := ⟨"a.org", "c.org", Hex.Block.replicate 16 7, 1700000000⟩

/-- The client that asks for `bob` accepts the address of `eve`, and a delivery to `b.org` succeeds
at a peer that greets as `c.org`. -/
theorem foreign_address_accepted :
    (¬∀ reply, AnswersRequest Crypto.mirror JsonReader.strict asking "bob" .ephemeral
      (Crypto.mirror.verifyingKey ()) reply) ∧
    ¬∀ dial, ReachesReceiver JsonReader.strict toBob ⟨List.replicate 16 7, by simp⟩ 1700000000
      1700000000 dial := by
  constructor
  · rw [answers_request_iff]
    have presentable : Presentable JsonReader.strict (Crypto.mirror.verifyingKey ()) "b.org" _ :=
      @presentable_sign Crypto.mirror _ () "b.org" "eve" .attested "taddr" "key" (by decide)
    rintro (other | long | own)
    · exact other rfl
    · exact absurd long (by decide)
    · exact absurd (own _ presentable).1 (by decide)
  · rw [reaches_receiver_iff]
    intro only
    have presentable : Presentable JsonReader.strict (Crypto.mirror.verifyingKey ()) "c.org" _ :=
      @presentable_sign Crypto.mirror _ () "c.org" "bob" .ephemeral "taddr" "key" (by decide)
    obtain ⟨blob, small, carries⟩ :=
      @HandshakeFreshness.sendable_of_carried Crypto.mirror () signedChallenge (by decide)
        (by decide)
    have verified := ChallengeResponse.verify_respond Crypto.mirror ()
      (by decide : ChallengeResponse.Acceptable signedChallenge maxChallengeAge 1700000000)
    have completable : Completable JsonReader.strict toBob ⟨List.replicate 16 7, by simp⟩
        1700000000 1700000000 "c.org" :=
      ⟨by decide, ⟨LineWire.ofText "ZSMTP 1.0 c.org" (by decide) (by decide), rfl⟩, by decide,
        by decide, ⟨blob, _, small, carries, verified⟩, by decide, ⟨_, presentable⟩, by decide,
        by decide⟩
    exact absurd (only "c.org" completable) (by decide)

end Talk.Verif.AddressBinding
