import Talk.Lib.Json
import Talk.Protocol.Handshake

/-!
# Address attestations

The receiving server binds a user's payment address and encryption key under one signature of
its domain key. The attestation travels as compact JSON: the writer is modelled down to its
escapes, since the size of the text matters to the framing, and the reader is a parameter, of
which the strict reader of that text is one instance.
-/

namespace Talk.Protocol

open Utf8 (bytes)
open Text Hex Json

/-- `AttestationError`. -/
inductive AttestationError where
  /-- The signature does not verify. -/
  | badSignature
  /-- The text is not an attestation. -/
  | invalidKey
  /-- The attestation is for another domain. -/
  | domainMismatch
  deriving DecidableEq

/-- The text of an attestation error. -/
def AttestationError.text : AttestationError → String
  | .badSignature => "signature verification failed"
  | .invalidKey => "invalid key bytes"
  | .domainMismatch => "attestation domain mismatch"

/-- `AttestationMode`. -/
inductive AttestationMode where
  /-- A fresh address for each request. -/
  | ephemeral
  /-- A stable address. -/
  | attested
  deriving DecidableEq

/-- The word of a mode, on the wire, in JSON and in the signed bytes. -/
def AttestationMode.word : AttestationMode → String
  | .ephemeral => "ephemeral"
  | .attested => "attested"

/-- `Attestation`. -/
structure Attestation where
  /-- The attesting server's domain. -/
  domain : String
  /-- The user attested. -/
  user : String
  /-- The requested mode. -/
  mode : AttestationMode
  /-- The payment address. -/
  address : String
  /-- The encryption key, in hexadecimal. -/
  pubkey : String
  /-- The domain key's signature. -/
  signature : List UInt8
  deriving DecidableEq

/-! ## JSON -/

namespace Attestation

/-- `Attestation::to_json`: the fields in their order, without spaces. -/
def toJson (attestation : Attestation) : String :=
  "\x7b\"domain\":" ++ jsonString attestation.domain
    ++ ",\"user\":" ++ jsonString attestation.user
    ++ ",\"mode\":" ++ jsonString attestation.mode.word
    ++ ",\"address\":" ++ jsonString attestation.address
    ++ ",\"pubkey\":" ++ jsonString attestation.pubkey
    ++ ",\"signature\":" ++ jsonBytes attestation.signature ++ "\x7d"

end Attestation

/-- The JSON reader, with the one law the protocol relies on. -/
structure JsonReader where
  /-- `serde_json::from_str` at `Attestation`. -/
  read : String → Option Attestation
  /-- What the writer wrote is read back. -/
  read_toJson : ∀ attestation, read attestation.toJson = some attestation

/-- The mode of a word. -/
def AttestationMode.ofWord (word : String) : Option AttestationMode :=
  if word = "ephemeral" then some .ephemeral
  else if word = "attested" then some .attested
  else none

/-- A field: its name, then its text. -/
def readField (name : String) (text : List Char) : Option (String × List Char) :=
  (expect name text).bind readString

/-- The attestation the writer has written, and nothing else. -/
def readStrict (text : String) : Option Attestation := do
  let (domain, text) ← readField "\x7b\"domain\":" text.toList
  let (user, text) ← readField ",\"user\":" text
  let (word, text) ← readField ",\"mode\":" text
  let mode ← AttestationMode.ofWord word
  let (address, text) ← readField ",\"address\":" text
  let (pubkey, text) ← readField ",\"pubkey\":" text
  let text ← expect ",\"signature\":" text
  let (signature, text) ← readBytes text
  let rest ← expect "\x7d" text
  if rest = [] then some ⟨domain, user, mode, address, pubkey, signature⟩ else none

/-- A written field is read back. -/
theorem readField_append (name text : String) (rest : List Char) :
    readField name (name.toList ++ ((jsonString text).toList ++ rest)) = some (text, rest) := by
  rw [readField, expect_append, Option.bind_some, readString_jsonString]

/-- A written attestation is read back. -/
theorem readStrict_toJson (attestation : Attestation) :
    readStrict attestation.toJson = some attestation := by
  have mode : AttestationMode.ofWord attestation.mode.word = some attestation.mode := by
    cases attestation.mode <;> decide
  have last : ∀ close : String, expect close close.toList = some [] := by
    intro close
    simpa using expect_append close []
  unfold readStrict Attestation.toJson
  -- The reader and the writer share the field names; as literals they would be evaluated.
  generalize "\x7b\"domain\":" = first, ",\"user\":" = second, ",\"mode\":" = third,
    ",\"address\":" = fourth, ",\"pubkey\":" = fifth, ",\"signature\":" = sixth,
    "\x7d" = close
  simp only [String.toList_append, List.append_assoc, readField_append, Option.bind_eq_bind,
    Option.bind_some, mode, expect_append, readBytes_jsonBytes, last, ↓reduceIte]

/-- The strict reader obeys the law. -/
def JsonReader.strict : JsonReader := ⟨readStrict, readStrict_toJson⟩

namespace Attestation

/-- `Attestation::from_json`. -/
def fromJson (json : JsonReader) (text : String) : Except AttestationError Attestation :=
  match json.read text with
  | none => .error .invalidKey
  | some attestation => .ok attestation

/-! ## Signing -/

/-- `Attestation::canonical_digest`, the bytes that are signed. -/
def canonicalDigest (crypto : Crypto) (attestation : Attestation) : Block 32 :=
  crypto.sha256 (bytes "zsmtp-attest-v1" ++ bytes attestation.domain ++ [0]
    ++ bytes attestation.user ++ [0] ++ bytes attestation.mode.word ++ [0]
    ++ bytes attestation.address ++ [0] ++ bytes attestation.pubkey)

/-- The bytes that are hashed. -/
def preimage (attestation : Attestation) : List UInt8 :=
  bytes "zsmtp-attest-v1" ++ bytes attestation.domain ++ [0] ++ bytes attestation.user ++ [0]
    ++ bytes attestation.mode.word ++ [0] ++ bytes attestation.address ++ [0]
    ++ bytes attestation.pubkey

/-- `Attestation::sign`. -/
def sign (crypto : Crypto) (domain user : String) (mode : AttestationMode)
    (address pubkey : String) (key : crypto.SigningKey) : Attestation :=
  let binding : Attestation := ⟨domain, user, mode, address, pubkey, []⟩
  { binding with signature := (crypto.sign key (binding.canonicalDigest crypto).val).val }

/-- `Attestation::verify`. -/
def verify (crypto : Crypto) (attestation : Attestation) (domainKey : crypto.VerifyingKey)
    (expectedDomain : String) : Except AttestationError Unit :=
  if attestation.domain ≠ expectedDomain then .error .domainMismatch
  else if size : attestation.signature.length = 64 then
    if crypto.verify domainKey (attestation.canonicalDigest crypto).val
        ⟨attestation.signature, size⟩ then .ok ()
    else .error .badSignature
  else .error .badSignature

/-- The server's own attestation verifies for its own domain. -/
theorem verify_sign (crypto : Crypto) (domain user : String) (mode : AttestationMode)
    (address pubkey : String) (key : crypto.SigningKey) :
    verify crypto (sign crypto domain user mode address pubkey key) (crypto.verifyingKey key)
      domain = .ok () := by
  have binding : (sign crypto domain user mode address pubkey key).canonicalDigest crypto =
      canonicalDigest crypto ⟨domain, user, mode, address, pubkey, []⟩ := rfl
  have size : (sign crypto domain user mode address pubkey key).signature.length = 64 :=
    (crypto.sign key _).property
  have accepted := crypto.verify_sign key
    (canonicalDigest crypto ⟨domain, user, mode, address, pubkey, []⟩).val
  rw [verify, if_neg (by simp [sign]), dif_pos size, binding]
  exact if_pos accepted

end Attestation

/-! ## Address providers -/

/-- `MintedAddress`. -/
structure MintedAddress where
  /-- The payment address. -/
  address : String
  /-- The encryption key, in hexadecimal. -/
  pubkey : String
  /-- The diversifier of a dynamic address. -/
  diversifier : Option String
  deriving DecidableEq

/-- `mint_pair`, with the random bytes as an argument. -/
def mintPair (random : Block 32) : String × String :=
  ("taddr-" ++ Hex.encode random.val, Hex.encode random.val)

/-- `PlaceholderAddressProvider::mint`, with the random bytes as an argument. -/
def placeholderMint (random : Block 32) : MintedAddress :=
  ⟨(mintPair random).1, (mintPair random).2, none⟩

/-! ## The size of an attestation -/

/-- The word of a mode is short. -/
theorem length_modeWord (mode : AttestationMode) : (bytes mode.word).length ≤ 9 := by
  cases mode <;> decide

/-- An attestation takes at most six times the bytes of its texts, four for each byte of the
signature, and its field names. -/
theorem length_toJson (attestation : Attestation) :
    (bytes attestation.toJson).length ≤
      6 * ((bytes attestation.domain).length + (bytes attestation.user).length
        + (bytes attestation.address).length + (bytes attestation.pubkey).length)
      + 4 * attestation.signature.length + 150 := by
  have domain := length_jsonString attestation.domain
  have user := length_jsonString attestation.user
  have mode := length_jsonString attestation.mode.word
  have modeWord := length_modeWord attestation.mode
  have address := length_jsonString attestation.address
  have pubkey := length_jsonString attestation.pubkey
  have signature := length_jsonBytes attestation.signature
  have names : (bytes "\x7b\"domain\":").length = 10 ∧ (bytes ",\"user\":").length = 8 ∧
      (bytes ",\"mode\":").length = 8 ∧ (bytes ",\"address\":").length = 11 ∧
      (bytes ",\"pubkey\":").length = 10 ∧ (bytes ",\"signature\":").length = 13 ∧
      (bytes "\x7d").length = 1 := by
    decide
  unfold Attestation.toJson
  -- Only the lengths of the field names matter; as literals they would be evaluated.
  generalize "\x7b\"domain\":" = first, ",\"user\":" = second, ",\"mode\":" = third,
    ",\"address\":" = fourth, ",\"pubkey\":" = fifth, ",\"signature\":" = sixth,
    "\x7d" = last at names ⊢
  simp only [Utf8.bytes_append, List.length_append]
  omega

end Talk.Protocol
