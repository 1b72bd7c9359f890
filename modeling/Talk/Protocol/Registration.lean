import Talk.Protocol.Attestation

/-!
# Registration attestations

The record a server signs when it registers a user, with its domain key: it binds the user's name to
the wallet's public key, and to the IVK commitment in dynamic-address mode.
-/

namespace Talk.Protocol

open Utf8 (bytes)
open Json Hex

/-- `REGISTRATION_ATTR_V1`. -/
def registrationAttrV1 : String := "reg-v1"

/-- `RegistrationAttestation`. -/
structure RegistrationAttestation where
  /-- The attesting server's domain. -/
  domain : String
  /-- The user registered. -/
  username : String
  /-- The wallet's public key, in hexadecimal. -/
  masterPubkey : String
  /-- The IVK commitment, in dynamic-address mode. -/
  ivkCommitment : Option String
  /-- Unix seconds of the registration. -/
  registeredAt : Int64
  /-- The domain key's signature. -/
  signature : List UInt8
  deriving DecidableEq

namespace RegistrationAttestation

/-- The bytes that are hashed. -/
def preimage (registration : RegistrationAttestation) : List UInt8 :=
  bytes registrationAttrV1 ++ bytes registration.domain ++ [0] ++ bytes registration.username
    ++ [0] ++ bytes registration.masterPubkey ++ [0]
    ++ bytes (registration.ivkCommitment.getD "") ++ [0]
    ++ Challenge.beBytes registration.registeredAt

/-- `RegistrationAttestation::digest`, the bytes that are signed. -/
def digest (crypto : Crypto) (registration : RegistrationAttestation) : Block 32 :=
  crypto.sha256 registration.preimage

/-- `RegistrationAttestation::sign`. -/
def sign (crypto : Crypto) (domain username : String) (masterPubkey : List UInt8)
    (ivkCommitment : Option String) (registeredAt : Int64) (key : crypto.SigningKey) :
    RegistrationAttestation :=
  let binding : RegistrationAttestation :=
    ⟨domain, username, Hex.encode masterPubkey, ivkCommitment, registeredAt, []⟩
  { binding with signature := (crypto.sign key (binding.digest crypto).val).val }

/-- `RegistrationAttestation::to_json`: the fields in their order, without spaces. -/
def toJson (registration : RegistrationAttestation) : String :=
  "\x7b\"domain\":" ++ jsonString registration.domain
    ++ ",\"username\":" ++ jsonString registration.username
    ++ ",\"master_pubkey\":" ++ jsonString registration.masterPubkey
    ++ ",\"ivk_commitment\":" ++ (match registration.ivkCommitment with
      | none => "null"
      | some commitment => jsonString commitment)
    ++ ",\"registered_at\":" ++ toString registration.registeredAt.toInt
    ++ ",\"signature\":" ++ jsonBytes registration.signature ++ "\x7d"

end RegistrationAttestation

/-! ## Reading -/

/-- The reader of registrations, with the one law the server relies on. -/
structure RegistrationReader where
  /-- `serde_json::from_str` at `RegistrationAttestation`. -/
  read : String → Option RegistrationAttestation
  /-- What the writer wrote is read back. -/
  read_toJson : ∀ registration, read registration.toJson = some registration

/-- `RegistrationAttestation::from_json`. -/
def RegistrationAttestation.fromJson (reader : RegistrationReader) (text : String) :
    Except AttestationError RegistrationAttestation :=
  match reader.read text with
  | none => .error .invalidKey
  | some registration => .ok registration

/-- A text, or `null`. -/
def readOptional (text : List Char) : Option (Option String × List Char) :=
  match expect "null" text with
  | some rest => some (none, rest)
  | none => (readString text).map fun (value, rest) => (some value, rest)

/-- The registration the writer has written, and nothing else. -/
def readRegistration (text : String) : Option RegistrationAttestation := do
  let (domain, text) ← readField "\x7b\"domain\":" text.toList
  let (username, text) ← readField ",\"username\":" text
  let (masterPubkey, text) ← readField ",\"master_pubkey\":" text
  let text ← expect ",\"ivk_commitment\":" text
  let (ivkCommitment, text) ← readOptional text
  let text ← expect ",\"registered_at\":" text
  let (number, text) ← Text.splitFirst ',' text
  let registeredAt ← Text.parseI64 (String.ofList number)
  let text ← expect "\"signature\":" text
  let (signature, text) ← readBytes text
  let rest ← expect "\x7d" text
  if rest = [] then
    some ⟨domain, username, masterPubkey, ivkCommitment, registeredAt, signature⟩
  else none

/-- A written commitment is read back. -/
theorem readOptional_append (value : Option String) (rest : List Char) :
    readOptional ((match value with
      | none => "null"
      | some commitment => jsonString commitment).toList ++ rest) = some (value, rest) := by
  unfold readOptional
  cases value with
  | none => rw [expect_append]
  | some commitment =>
    have quoted : expect "null" ((jsonString commitment).toList ++ rest) = none := by
      simp [expect, jsonString]
    dsimp only
    rw [quoted, readString_jsonString]
    rfl

/-- A written registration is read back. -/
theorem readRegistration_toJson (registration : RegistrationAttestation) :
    readRegistration registration.toJson = some registration := by
  have last : ∀ close : String, expect close close.toList = some [] := by
    intro close
    simpa using expect_append close []
  have number (rest : List Char) : Text.splitFirst ','
      ((toString registration.registeredAt.toInt).toList ++ ',' :: rest) =
        some ((toString registration.registeredAt.toInt).toList, rest) :=
    Text.splitFirst_join (Text.free_int _ (by decide) (by decide)) rest
  have comma : ",\"signature\":".toList = ',' :: "\"signature\":".toList := by decide
  unfold readRegistration RegistrationAttestation.toJson
  -- The reader and the writer share the field names; as literals they would be evaluated.
  generalize "\x7b\"domain\":" = first, ",\"username\":" = second,
    ",\"master_pubkey\":" = third, ",\"ivk_commitment\":" = fourth,
    ",\"registered_at\":" = fifth, ",\"signature\":" = sixth,
    "\"signature\":" = inner, "\x7d" = close at comma ⊢
  simp only [String.toList_append, List.append_assoc, comma, List.cons_append, readField_append,
    Option.bind_eq_bind, Option.bind_some, expect_append, readOptional_append, number,
    String.ofList_toList, Text.parseI64_toString, readBytes_jsonBytes, last, ↓reduceIte]

/-- The strict reader obeys the law. -/
def RegistrationReader.strict : RegistrationReader := ⟨readRegistration, readRegistration_toJson⟩

end Talk.Protocol
