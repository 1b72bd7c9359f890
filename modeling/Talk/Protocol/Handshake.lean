import Mathlib.Algebra.Order.Ring.Int
import Talk.Lib.Hex
import Talk.Lib.Text

/-!
# The domain-key handshake

The sending server issues a challenge that binds both domains, a nonce and the time. The
receiving server signs it, and the sender verifies the signature against the published key. The
signature scheme and the hash live outside the repository and are a parameter.
-/

namespace Talk.Protocol

open Utf8 (bytes)
open Text Hex

/-! ## The parameter -/

/-- The signature scheme and the hash, with the one law the handshake relies on. -/
structure Crypto where
  /-- Private domain keys. -/
  SigningKey : Type
  /-- Public domain keys. -/
  VerifyingKey : Type
  /-- The public half of a key. -/
  verifyingKey : SigningKey → VerifyingKey
  /-- Sign a message. -/
  sign : SigningKey → List UInt8 → Block 64
  /-- Check a signature. -/
  verify : VerifyingKey → List UInt8 → Block 64 → Bool
  /-- The hash. -/
  sha256 : List UInt8 → Block 32
  /-- A signature verifies under the public half of its key. -/
  verify_sign : ∀ key message, verify (verifyingKey key) message (sign key message) = true

/-- A scheme that obeys the law, with one key: the signature is the message, filled up with zeros,
and the hash keeps the first bytes of its data, which hold the domains and the start of the
nonce. -/
def Crypto.mirror : Crypto where
  SigningKey := Unit
  VerifyingKey := Unit
  verifyingKey := id
  sign _ message := ⟨(message ++ List.replicate 64 0).take 64, by simp⟩
  verify _ message signature :=
    decide (signature.val = (message ++ List.replicate 64 0).take 64)
  sha256 data := ⟨(data ++ List.replicate 32 0).take 32, by simp⟩
  verify_sign := by simp

/-! ## Challenges -/

/-- `HandshakeError`. -/
inductive HandshakeError where
  /-- The signature does not verify. -/
  | badSignature
  /-- The challenge is outside its age limit. -/
  | stale (seconds : Int64)
  /-- The nonce was seen before. -/
  | replay
  /-- A domain is missing. -/
  | domainMismatch
  /-- The key bytes are not a key. -/
  | invalidKey
  deriving DecidableEq

/-- The text of a handshake error. -/
def HandshakeError.text : HandshakeError → String
  | .badSignature => "signature verification failed"
  | .stale seconds => "challenge is stale (older than " ++ toString seconds.toInt ++ " seconds)"
  | .replay => "challenge nonce replayed"
  | .domainMismatch => "challenge domain mismatch"
  | .invalidKey => "invalid key bytes"

/-- `MAX_CHALLENGE_AGE`, in seconds. -/
def maxChallengeAge : Int64 := 300

/-- `Challenge`. -/
structure Challenge where
  /-- The challenger's domain. -/
  senderDomain : String
  /-- The responder's domain. -/
  receiverDomain : String
  /-- The random nonce. -/
  nonce : Block 16
  /-- Unix seconds at issue time. -/
  issuedAt : Int64
  deriving DecidableEq

namespace Challenge

/-- `Challenge::issue`, with the random bytes and the clock as arguments. -/
def issue (senderDomain receiverDomain : String) (nonce : Block 16) (now : Int64) : Challenge :=
  ⟨senderDomain, receiverDomain, nonce, now⟩

/-- `i64::to_be_bytes`. -/
def beBytes (value : Int64) : List UInt8 :=
  (List.range 8).map fun i => UInt8.ofNat (value.toUInt64.toNat / 256 ^ (7 - i))

/-- The bytes that are hashed. -/
def preimage (challenge : Challenge) : List UInt8 :=
  bytes "zsmtp-v1" ++ bytes challenge.senderDomain ++ [0] ++ bytes challenge.receiverDomain ++ [0]
    ++ challenge.nonce.val ++ beBytes challenge.issuedAt

/-- `Challenge::digest`, the bytes that are signed. -/
def digest (crypto : Crypto) (challenge : Challenge) : Block 32 :=
  crypto.sha256 challenge.preimage

/-- `Challenge::to_wire`. -/
def toWire (challenge : Challenge) : String :=
  challenge.senderDomain ++ "|" ++ challenge.receiverDomain ++ "|"
    ++ Hex.encode challenge.nonce.val ++ "|" ++ toString challenge.issuedAt.toInt

/-- `Challenge::from_wire`: exactly four pieces, a 16-byte nonce and an `i64`. -/
def fromWire (text : String) : Option Challenge :=
  match split '|' text with
  | senderDomain :: receiverDomain :: nonceHex :: time :: rest => do
    let issuedAt ← parseI64 time
    if (bytes nonceHex).length ≠ 32 ∨ rest ≠ [] then none
    else
      let nonce ← decodeBlock 16 nonceHex
      some ⟨senderDomain, receiverDomain, nonce, issuedAt⟩
  | _ => none

/-- A challenge the wire format can carry: neither domain holds the separator. -/
def Carried (challenge : Challenge) : Prop :=
  '|' ∉ challenge.senderDomain.toList ∧ '|' ∉ challenge.receiverDomain.toList

instance (challenge : Challenge) : Decidable challenge.Carried :=
  inferInstanceAs (Decidable (_ ∧ _))

/-- The decimal text of a time holds no separator. -/
theorem free_time (time : Int64) : '|' ∉ (toString time.toInt).toList :=
  free_int time.toInt (by decide) (by decide)

/-- Hexadecimal text holds no separator. -/
theorem free_hex (data : List UInt8) : '|' ∉ (Hex.encode data).toList :=
  free_of_decode (decode_encode data) (by decide) (by decide)

/-- The texts that are read as a challenge: its domains, a text of its nonce and one of its time. -/
theorem fromWire_iff {text : String} {challenge : Challenge} :
    fromWire text = some challenge ↔ ∃ nonceHex time,
      split '|' text = [challenge.senderDomain, challenge.receiverDomain, nonceHex, time] ∧
        decode nonceHex = some challenge.nonce.val ∧ parseI64 time = some challenge.issuedAt := by
  constructor
  · intro read
    unfold fromWire at read
    split at read
    next senderDomain receiverDomain nonceHex time rest parts =>
      obtain ⟨issuedAt, timeRead, read⟩ := Option.bind_eq_some_iff.mp read
      split at read
      · cases read
      · rename_i sized
        obtain ⟨nonce, nonceRead, same⟩ := Option.bind_eq_some_iff.mp read
        obtain rfl := Option.some.inj same
        have none : rest = [] := Classical.not_not.mp fun more => sized (.inr more)
        rw [none] at parts
        exact ⟨nonceHex, time, parts, decodeBlock_eq_some_iff.mp nonceRead, timeRead⟩
    next => cases read
  · rintro ⟨nonceHex, time, parts, nonceRead, timeRead⟩
    have size := length_of_decode nonceRead
    rw [challenge.nonce.property] at size
    simp only [fromWire, parts, timeRead, decodeBlock_eq_some_iff.mpr nonceRead, size, bind,
      Option.bind, ne_eq, not_true_eq_false, or_self, ↓reduceIte]

/-- A carried challenge is read back from its wire text. -/
theorem fromWire_toWire {challenge : Challenge} (carried : challenge.Carried) :
    fromWire challenge.toWire = some challenge := by
  have shape : challenge.toWire.toList = challenge.senderDomain.toList ++
      '|' :: (challenge.receiverDomain.toList ++ '|' :: ((Hex.encode challenge.nonce.val).toList
        ++ '|' :: (toString challenge.issuedAt.toInt).toList)) := by
    simp [toWire]
  refine fromWire_iff.mpr ⟨Hex.encode challenge.nonce.val, toString challenge.issuedAt.toInt, ?_,
    decode_encode challenge.nonce.val, parseI64_toString challenge.issuedAt⟩
  rw [split, shape, List.splitOn_append_cons_self_of_not_mem carried.1,
    List.splitOn_append_cons_self_of_not_mem carried.2,
    List.splitOn_append_cons_self_of_not_mem (free_hex challenge.nonce.val),
    List.splitOn_eq_singleton (free_time challenge.issuedAt)]
  simp only [List.map_cons, List.map_nil, String.ofList_toList]

/-- The domains of a challenge are pieces of the text it was read from. -/
theorem mem_of_fromWire {text : String} {challenge : Challenge}
    (read : fromWire text = some challenge) :
    challenge.senderDomain ∈ split '|' text ∧ challenge.receiverDomain ∈ split '|' text := by
  obtain ⟨nonceHex, time, parts, -⟩ := fromWire_iff.mp read
  simp [parts]

/-- What is read from the wire is a carried challenge. -/
theorem carried_of_fromWire {text : String} {challenge : Challenge}
    (read : fromWire text = some challenge) : challenge.Carried :=
  ⟨free_of_mem_split (mem_of_fromWire read).1, free_of_mem_split (mem_of_fromWire read).2⟩

/-- A challenge is read back from its wire text just when it is carried. -/
theorem fromWire_toWire_iff {challenge : Challenge} :
    fromWire challenge.toWire = some challenge ↔ challenge.Carried :=
  ⟨carried_of_fromWire, fromWire_toWire⟩

/-- The decimal text of a time is short. -/
theorem length_time (time : Int64) : (bytes (toString time.toInt)).length ≤ 80 := by
  have low := Int64.le_toInt time
  have high := Int64.toInt_lt time
  have digits : (Nat.toDigits 10 time.toInt.natAbs).length ≤ 19 :=
    (Nat.length_toDigits_le_iff (by decide) (by decide)).mpr (by omega)
  have chars : (toString time.toInt).toList.length ≤ 20 := by
    rw [toString_int]
    split
    · rw [List.length_cons]
      omega
    · omega
  have wide := Utf8.bytes_le_length (toString time.toInt)
  omega

/-- The wire text of a challenge is not much longer than the text it was read from. -/
theorem length_toWire {text : String} {challenge : Challenge}
    (read : fromWire text = some challenge) :
    (bytes challenge.toWire).length ≤ 8 * text.toList.length + 115 := by
  have senderPiece := (sublist_of_mem_split (mem_of_fromWire read).1).length_le
  have receiverPiece := (sublist_of_mem_split (mem_of_fromWire read).2).length_le
  have sender := Utf8.bytes_le_length challenge.senderDomain
  have receiver := Utf8.bytes_le_length challenge.receiverDomain
  have time := length_time challenge.issuedAt
  have one : (bytes "|").length = 1 := by decide
  simp only [toWire, Utf8.bytes_append, List.length_append, length_bytes_encode,
    challenge.nonce.property, one]
  omega

end Challenge

/-! ## Responses -/

/-- `ChallengeResponse`. -/
structure ChallengeResponse where
  /-- The challenge, as the responder returned it. -/
  challenge : Challenge
  /-- The signature over the challenge's digest. -/
  signature : List UInt8
  deriving DecidableEq

namespace ChallengeResponse

/-- `ChallengeResponse::respond`. -/
def respond (crypto : Crypto) (challenge : Challenge) (key : crypto.SigningKey) :
    ChallengeResponse :=
  ⟨challenge, (crypto.sign key (challenge.digest crypto).val).val⟩

/-- Whether a challenge is within its age limit, with the `i64` subtraction of the source. -/
def fresh (challenge : Challenge) (maxAge now : Int64) : Bool :=
  let age := now - challenge.issuedAt
  decide (age ≤ maxAge ∧ 0 ≤ age)

/-- `ChallengeResponse::verify` at the time `now`. -/
def verify (crypto : Crypto) (response : ChallengeResponse) (receiverPub : crypto.VerifyingKey)
    (maxAge now : Int64) : Except HandshakeError Unit :=
  if response.challenge.senderDomain = "" ∨ response.challenge.receiverDomain = "" then
    .error .domainMismatch
  else if fresh response.challenge maxAge now = false then .error (.stale maxAge)
  else if size : response.signature.length = 64 then
    if crypto.verify receiverPub (response.challenge.digest crypto).val
        ⟨response.signature, size⟩ then .ok ()
    else .error .badSignature
  else .error .badSignature

/-- A challenge `verify` does not refuse for its own content at the time `now`. -/
def Acceptable (challenge : Challenge) (maxAge now : Int64) : Prop :=
  challenge.senderDomain ≠ "" ∧ challenge.receiverDomain ≠ "" ∧
    fresh challenge maxAge now = true

instance (challenge : Challenge) (maxAge now : Int64) :
    Decidable (Acceptable challenge maxAge now) :=
  inferInstanceAs (Decidable (_ ∧ _ ∧ _))

/-- Verification succeeds exactly on an acceptable challenge with a signature of the right size
that the scheme accepts for the digest. -/
theorem verify_ok_iff (crypto : Crypto) (response : ChallengeResponse)
    (receiverPub : crypto.VerifyingKey) (maxAge now : Int64) :
    verify crypto response receiverPub maxAge now = .ok () ↔
      Acceptable response.challenge maxAge now ∧ ∃ size : response.signature.length = 64,
        crypto.verify receiverPub (response.challenge.digest crypto).val
          ⟨response.signature, size⟩ = true := by
  constructor
  · intro verified
    unfold verify at verified
    split at verified
    · cases verified
    split at verified
    · cases verified
    split at verified
    · rename_i named fresh size
      split at verified
      · rename_i accepted
        rw [not_or] at named
        exact ⟨⟨named.1, named.2, by simpa using fresh⟩, size, accepted⟩
      · cases verified
    · cases verified
  · rintro ⟨⟨sender, receiver, fresh⟩, size, accepted⟩
    simp [verify, sender, receiver, fresh, size, accepted]

/-- The receiver's own response verifies while its challenge is acceptable. -/
theorem verify_respond (crypto : Crypto) {challenge : Challenge} (key : crypto.SigningKey)
    {maxAge now : Int64} (acceptable : Acceptable challenge maxAge now) :
    verify crypto (respond crypto challenge key) (crypto.verifyingKey key) maxAge now =
      .ok () := by
  rw [verify_ok_iff]
  exact ⟨acceptable, (crypto.sign key (challenge.digest crypto).val).property,
    crypto.verify_sign key _⟩

end ChallengeResponse

end Talk.Protocol
