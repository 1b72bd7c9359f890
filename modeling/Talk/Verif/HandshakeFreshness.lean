import Mathlib.Data.Set.Basic
import Talk.Protocol.Client

/-!
# Freshness of the handshake

A reply to AUTH carries its own copy of the challenge, and the client verifies the signature over
that copy. It does not compare the copy with the challenge it issued, so the response to any
other challenge the receiver has signed is accepted for as long as that challenge is fresh. The
adversary here returns any bytes that hold no forged signature.
-/

namespace Talk.Verif.HandshakeFreshness

open Protocol ByteStream Text Hex
open Utf8 (bytes)

/-- The nonce and both domains of the challenge issued in this session. -/
def SameSession (issued returned : Challenge) : Prop :=
  returned.nonce = issued.nonce ∧ returned.senderDomain = issued.senderDomain ∧
    returned.receiverDomain = issued.receiverDomain

/-- The challenge a client issues. -/
def issued (client : ZsmptClient) (nonce : Block 16) (issuedAt : Int64) : Challenge :=
  Challenge.issue client.senderDomain client.receiverDomain nonce issuedAt

/-- The client when its AUTH line is on the stream and `reply` is all it will hear. -/
def presented (client : ZsmptClient) (challenge : Challenge) (reply : List UInt8) : ZsmptClient :=
  client.withStream
    ⟨reply, client.stream.output ++ (bytes (ZsmptClient.authLine challenge) ++ crlf)⟩

variable (crypto : Crypto) (key : crypto.SigningKey)

/-- No signature in the reply is forged: one that verifies is the receiver's own, over a message
it has signed. -/
def Unforged (signed : Set (List UInt8)) (client : ZsmptClient) (challenge : Challenge)
    (reply : List UInt8) : Prop :=
  ∀ response read, ZsmptClient.authReply.run (presented client challenge reply) =
      .ok response read →
    ∀ size : response.signature.length = 64,
      crypto.verify (crypto.verifyingKey key) (response.challenge.digest crypto).val
        ⟨response.signature, size⟩ = true →
      (response.challenge.digest crypto).val ∈ signed ∧
        response = ChallengeResponse.respond crypto response.challenge key

/-- If the client accepts the reply, the signature it verified is over its own challenge. -/
def AcceptsOnlyOwn (client : ZsmptClient) (nonce : Block 16) (issuedAt now : Int64)
    (reply : List UInt8) : Prop :=
  ∀ after, (ZsmptClient.authenticate crypto (crypto.verifyingKey key) nonce issuedAt now).run
      (client.withStream ⟨reply, client.stream.output⟩) = .ok () after →
    after.state = .authenticated ∧
    ∃ response read,
      ZsmptClient.authReply.run (presented client (issued client nonce issuedAt) reply) =
        .ok response read ∧
      response.verify crypto (crypto.verifyingKey key) maxChallengeAge now = .ok () ∧
      SameSession (issued client nonce issuedAt) response.challenge

/-- The receiver's response to a challenge fits into a blob that the client reads it from. -/
def Sendable (challenge : Challenge) : Prop :=
  ∃ blob : List UInt8, blob.length ≤ maxBlob ∧
    ZsmptClient.responseOf blob = .ok (ChallengeResponse.respond crypto challenge key)

/-- A challenge whose response can be replayed at the time `now`. -/
structure Replayable (signed : Set (List UInt8)) (now : Int64) (challenge : Challenge) :
    Prop where
  /-- The receiver has signed it. -/
  signed : (challenge.digest crypto).val ∈ signed
  /-- Its domains are named and it is at most 300 seconds old. -/
  acceptable : ChallengeResponse.Acceptable challenge maxChallengeAge now
  /-- Its response can be sent. -/
  sendable : Sendable crypto key challenge

/-! ## What the client reads -/

/-- A response that is read comes from a blob within the limit. -/
theorem authReply_blob {client after : ZsmptClient} {response : ChallengeResponse}
    (read : ZsmptClient.authReply.run client = .ok response after) :
    ∃ blob : List UInt8, blob.length ≤ maxBlob ∧ ZsmptClient.responseOf blob = .ok response := by
  obtain ⟨-, greeted, -, read⟩ := run_bind_ok.mp read
  obtain ⟨blob, middle, blobRead, read⟩ := run_bind_ok.mp read
  obtain ⟨stream, blobRead, -⟩ := ZsmptClient.onStream_ok_iff.mp blobRead
  refine ⟨blob, readBlob_small blobRead, ?_⟩
  cases parsed : ZsmptClient.responseOf blob with
  | error error => simp only [parsed, ZsmptClient.ofExcept, run_throw, reduceCtorEq] at read
  | ok value =>
    simp only [parsed, ZsmptClient.ofExcept, EStateM.run_pure, EStateM.Result.ok.injEq] at read
    rw [read.1]

variable {crypto} in
/-- The client's check of a response is `verify`. -/
theorem checkResponse_ok_iff {response : ChallengeResponse} {receiverPub : crypto.VerifyingKey}
    {now : Int64} {client after : ZsmptClient} {value : Unit} :
    (ZsmptClient.ofExcept (ZsmptClient.checkResponse crypto response receiverPub now)).run client =
        .ok value after ↔
      response.verify crypto receiverPub maxChallengeAge now = .ok () ∧ after = client := by
  cases verified : response.verify crypto receiverPub maxChallengeAge now with
  | error error => simp [ZsmptClient.checkResponse, verified, ZsmptClient.ofExcept]
  | ok => simp [ZsmptClient.checkResponse, verified, ZsmptClient.ofExcept, eq_comm]

/-- Authentication succeeds exactly when AUTH is in order and can be written, and the reply
holds a response that verifies. -/
theorem authenticate_ok_iff (receiverPub : crypto.VerifyingKey) (nonce : Block 16)
    (issuedAt now : Int64) (client after : ZsmptClient) (reply : List UInt8) :
    (ZsmptClient.authenticate crypto receiverPub nonce issuedAt now).run
        (client.withStream ⟨reply, client.stream.output⟩) = .ok () after ↔
      client.state = .awaitingAuth ∧
      (bytes (ZsmptClient.authLine (issued client nonce issuedAt))).length ≤ maxLine ∧
      ∃ response read,
        ZsmptClient.authReply.run (presented client (issued client nonce issuedAt) reply) =
          .ok response read ∧
        response.verify crypto receiverPub maxChallengeAge now = .ok () ∧
        after = { read with state := .authenticated } := by
  constructor
  · intro accepted
    obtain ⟨_, _, got, accepted⟩ := run_bind_ok.mp accepted
    obtain ⟨rfl, rfl⟩ := EStateM.Result.ok.inj got
    split at accepted
    · cases accepted
    rename_i phase
    obtain ⟨_, _, sent, accepted⟩ := run_bind_ok.mp accepted
    obtain ⟨stream, written, rfl⟩ := ZsmptClient.onStream_ok_iff.mp sent
    obtain ⟨fits, rfl⟩ := writeLine_ok_iff.mp written
    obtain ⟨response, read, heard, accepted⟩ := run_bind_ok.mp accepted
    obtain ⟨_, _, checked, moved⟩ := run_bind_ok.mp accepted
    obtain ⟨verified, rfl⟩ := checkResponse_ok_iff.mp checked
    cases moved
    exact ⟨by simpa using phase, fits, response, _, heard, verified, rfl⟩
  · rintro ⟨phase, fits, response, read, heard, verified, rfl⟩
    refine run_bind_ok.mpr ⟨_, _, rfl, ?_⟩
    rw [if_neg (by simpa using phase)]
    refine run_bind_ok.mpr ⟨(), _, ZsmptClient.onStream_ok _ (writeLine_fits fits _), ?_⟩
    refine run_bind_ok.mpr ⟨response, read, heard, ?_⟩
    exact run_bind_ok.mpr ⟨(), read, checkResponse_ok_iff.mpr ⟨verified, rfl⟩, rfl⟩

/-! ## Replaying a response -/

variable {crypto key}

/-- A reply that replays a response. -/
def replay (blob : List UInt8) : List UInt8 :=
  bytes "250 authenticated" ++ crlf ++ blobBytes blob

/-- What a client reads from a replayed blob. -/
theorem authReply_replay {blob : List UInt8} {response : ChallengeResponse}
    (small : blob.length ≤ maxBlob) (carries : ZsmptClient.responseOf blob = .ok response)
    (client : ZsmptClient) (challenge : Challenge) :
    ∃ read, ZsmptClient.authReply.run (presented client challenge (replay blob)) =
      .ok response read := by
  have status := ZsmptClient.expectStatus_ok "250 authenticated" (by decide) (by decide)
    (by decide : startsWith "250 authenticated" "250 " = true) client (blobBytes blob ++ [])
  refine ⟨client.withStream
    ⟨[], client.stream.output ++ (bytes (ZsmptClient.authLine challenge) ++ crlf)⟩, ?_⟩
  rw [presented, replay, ← List.append_nil (blobBytes blob)]
  simp only [ZsmptClient.authReply, EStateM.run_bind, status,
    ZsmptClient.onStream_readBlob small, carries, ZsmptClient.ofExcept, EStateM.run_pure]

/-- A challenge within the blob limit whose domains hold no separator can be sent. -/
theorem sendable_of_carried {challenge : Challenge} (carried : challenge.Carried)
    (small : (bytes challenge.toWire).length + 129 ≤ maxBlob) :
    Sendable crypto key challenge := by
  refine ⟨_, ?_, ZsmptClient.responseOf_wire carried
    (ChallengeResponse.respond crypto challenge key).signature⟩
  have size : (ChallengeResponse.respond crypto challenge key).signature.length = 64 :=
    (crypto.sign key _).property
  have one : (bytes "|").length = 1 := by decide
  simp only [Utf8.bytes_append, List.length_append, length_bytes_encode, size, one]
  omega

/-- The response to a replayable challenge is accepted in any session that awaits one, and is no
forgery. -/
theorem replay_accepted {signed : Set (List UInt8)} {now : Int64} {challenge : Challenge}
    (replayable : Replayable crypto key signed now challenge) {client : ZsmptClient}
    (phase : client.state = .awaitingAuth) (nonce : Block 16) (issuedAt : Int64)
    (fits : (bytes (ZsmptClient.authLine (issued client nonce issuedAt))).length ≤ maxLine) :
    ∃ reply, Unforged crypto key signed client (issued client nonce issuedAt) reply ∧
      (∃ after, (ZsmptClient.authenticate crypto (crypto.verifyingKey key) nonce issuedAt now).run
        (client.withStream ⟨reply, client.stream.output⟩) = .ok () after) ∧
      ∃ read, ZsmptClient.authReply.run (presented client (issued client nonce issuedAt) reply) =
        .ok (ChallengeResponse.respond crypto challenge key) read := by
  obtain ⟨blob, small, carries⟩ := replayable.sendable
  obtain ⟨read, heard⟩ := authReply_replay small carries client (issued client nonce issuedAt)
  refine ⟨replay blob, ?_, ?_, read, heard⟩
  · intro response other found size verified
    rw [heard] at found
    obtain ⟨rfl, rfl⟩ := EStateM.Result.ok.inj found
    exact ⟨replayable.signed, rfl⟩
  · refine ⟨_, (authenticate_ok_iff crypto _ _ _ _ _ _ _).mpr
      ⟨phase, fits, _, read, heard, ?_, rfl⟩⟩
    exact ChallengeResponse.verify_respond crypto key replayable.acceptable

/-- An accepted response that is no forgery answers a replayable challenge. -/
theorem accepted_replayable {signed : Set (List UInt8)} {now : Int64} {client : ZsmptClient}
    {challenge : Challenge} {reply : List UInt8} {response : ChallengeResponse}
    {read : ZsmptClient} (unforged : Unforged crypto key signed client challenge reply)
    (heard : ZsmptClient.authReply.run (presented client challenge reply) = .ok response read)
    (verified : response.verify crypto (crypto.verifyingKey key) maxChallengeAge now = .ok ()) :
    Replayable crypto key signed now response.challenge := by
  obtain ⟨acceptable, size, genuine⟩ := (ChallengeResponse.verify_ok_iff ..).mp verified
  obtain ⟨inSigned, own⟩ := unforged response read heard size genuine
  obtain ⟨blob, small, carries⟩ := authReply_blob heard
  exact ⟨inSigned, acceptable, blob, small, own ▸ carries⟩

/-! ## When the handshake is fresh -/

/-- Every unforged reply the client accepts is over its own challenge exactly when it will not
accept any, or nothing but its own challenge can be replayed to it. -/
theorem accepts_only_own_iff (crypto : Crypto) (key : crypto.SigningKey)
    (signed : Set (List UInt8)) (client : ZsmptClient) (nonce : Block 16) (issuedAt now : Int64) :
    (∀ reply, Unforged crypto key signed client (issued client nonce issuedAt) reply →
      AcceptsOnlyOwn crypto key client nonce issuedAt now reply) ↔
    client.state ≠ .awaitingAuth ∨
    maxLine < (bytes (ZsmptClient.authLine (issued client nonce issuedAt))).length ∨
    ∀ challenge, Replayable crypto key signed now challenge →
      SameSession (issued client nonce issuedAt) challenge := by
  constructor
  · intro fresh
    by_cases phase : client.state = .awaitingAuth
    swap
    · exact .inl phase
    by_cases fits : (bytes (ZsmptClient.authLine (issued client nonce issuedAt))).length ≤ maxLine
    swap
    · exact .inr (.inl (Nat.lt_of_not_le fits))
    refine .inr (.inr fun challenge replayable => ?_)
    obtain ⟨reply, unforged, ⟨after, accepted⟩, read, heard⟩ :=
      replay_accepted replayable phase nonce issuedAt fits
    obtain ⟨-, response, _, found, -, same⟩ := fresh reply unforged after accepted
    rw [heard] at found
    obtain ⟨rfl, rfl⟩ := EStateM.Result.ok.inj found
    exact same
  · intro condition reply unforged after accepted
    obtain ⟨phase, fits, response, read, heard, verified, rfl⟩ :=
      (authenticate_ok_iff crypto _ _ _ _ _ _ _).mp accepted
    have replayable := accepted_replayable unforged heard verified
    rcases condition with other | long | own
    · exact absurd phase other
    · exact absurd fits (Nat.not_le_of_lt long)
    · exact ⟨rfl, response, read, heard, verified, own _ replayable⟩

/-! ## A replay -/

/-- A client of `a.org` that awaits the response of `b.org`. -/
def waiting : ZsmptClient := ⟨⟨[], []⟩, .awaitingAuth, "a.org", "b.org", none⟩

/-- The challenge of another sender's session, 60 seconds old. -/
def overheard : Challenge := ⟨"c.org", "b.org", ⟨List.replicate 16 7, by simp⟩, 1700000000⟩

/-- The client of `a.org` accepts the response that `b.org` signed for `c.org`. -/
theorem overheard_response_accepted :
    ¬∀ reply, Unforged Crypto.mirror () {(overheard.digest Crypto.mirror).val} waiting
        (issued waiting ⟨List.replicate 16 9, by simp⟩ 1700000060) reply →
      AcceptsOnlyOwn Crypto.mirror () waiting ⟨List.replicate 16 9, by simp⟩ 1700000060 1700000060
        reply := by
  intro fresh
  have replayable : Replayable Crypto.mirror () {(overheard.digest Crypto.mirror).val} 1700000060
      overheard :=
    ⟨rfl, by decide, sendable_of_carried (by decide) (by decide)⟩
  obtain ⟨reply, unforged, ⟨after, accepted⟩, read, heard⟩ := replay_accepted replayable
    (rfl : waiting.state = .awaitingAuth) ⟨List.replicate 16 9, by simp⟩ 1700000060 (by decide)
  obtain ⟨-, response, _, found, -, same⟩ := fresh reply unforged after accepted
  rw [heard] at found
  obtain ⟨rfl, rfl⟩ := EStateM.Result.ok.inj found
  exact absurd same.2.1 (by decide)

end Talk.Verif.HandshakeFreshness
