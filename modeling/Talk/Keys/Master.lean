import Talk.Keys.Share

/-!
# Master keys

The X25519 key pair of a user, the envelopes that are sealed to its public half, and the data key
wrapped under it. The curve, the key derivation and what the random generator has drawn are
arguments.
-/

namespace Talk.Keys

open Hex

/-! ## Key agreement -/

/-- `PublicKey`. -/
abbrev PublicKey := Block 32

/-- X25519, with HKDF-SHA256 on the shared secret. -/
structure Agreement where
  /-- `PublicKey::from`. -/
  publicKey : SecretKey → PublicKey
  /-- `StaticSecret::diffie_hellman`. -/
  diffieHellman : SecretKey → PublicKey → Block 32
  /-- `Hkdf::expand` to 32 bytes, without a salt: the label and the shared secret. -/
  expand : List UInt8 → Block 32 → SecretKey

/-- `MasterKeyPair`. -/
structure MasterKeyPair where
  /-- The private half. -/
  priv : SecretKey
  /-- The public half. -/
  pub : PublicKey
  deriving DecidableEq

/-- `generate_master_pair_with`, from the bytes drawn. -/
def generateMasterPairWith (agreement : Agreement) (drawn : SecretKey) : MasterKeyPair :=
  ⟨drawn, agreement.publicKey drawn⟩

/-- `master_pubkey`. -/
def masterPubkey (agreement : Agreement) (priv : SecretKey) : PublicKey :=
  agreement.publicKey priv

/-! ## Envelopes -/

/-- `MAGIC`, the bytes of "TKS1". -/
def magic : List UInt8 := [0x54, 0x4b, 0x53, 0x31]

/-- `VERSION`. -/
def version : UInt8 := 1

/-- `HKDF_INFO`. -/
def hkdfInfo : List UInt8 := Utf8.bytes "talk/file-seal"

/-- `SealError`. -/
inductive SealError where
  /-- The first bytes are not the magic ones. -/
  | badMagic
  /-- Another version. -/
  | badVersion (version : UInt8)
  /-- No room for the head. -/
  | tooShort
  /-- The tag is wrong. -/
  | decryptFailed
  deriving DecidableEq

/-- `Display`. -/
def SealError.display : SealError → String
  | .badMagic => "not a sealed envelope (bad magic)"
  | .badVersion version => "unsupported envelope version " ++ toString version.toNat
  | .tooShort => "envelope too short"
  | .decryptFailed => "failed to decrypt (wrong key or corrupted data)"

/-- `derive_wrap_key`. -/
def deriveWrapKey (agreement : Agreement) (shared : Block 32) : SecretKey :=
  agreement.expand hkdfInfo shared

/-- `seal_envelope`, with the ephemeral key and the nonce it draws. -/
def sealEnvelope (agreement : Agreement) (aead : Aead) (masterPub : PublicKey)
    (data : List UInt8) (ephemeral : SecretKey) (nonce : Block 12) : List UInt8 :=
  let shared := agreement.diffieHellman ephemeral masterPub
  magic ++ [version] ++ (agreement.publicKey ephemeral).val ++
    aeadSeal aead (deriveWrapKey agreement shared) nonce data

/-- The bytes of an envelope after its magic and its version, read. -/
def openBody (agreement : Agreement) (aead : Aead) (priv : SecretKey) (ephemeralPub : PublicKey)
    (sealed : List UInt8) : Except SealError (List UInt8) :=
  let shared := agreement.diffieHellman priv ephemeralPub
  match aeadOpen aead (deriveWrapKey agreement shared) sealed with
  | none => .error .decryptFailed
  | some data => .ok data

/-- `open_envelope`. -/
def openEnvelope (agreement : Agreement) (aead : Aead) (priv : SecretKey)
    (envelope : List UInt8) : Except SealError (List UInt8) :=
  if room : 37 ≤ envelope.length then
    if envelope.take 4 ≠ magic then .error .badMagic
    else if envelope[4] ≠ version then .error (.badVersion envelope[4])
    else
      openBody agreement aead priv
        ⟨(envelope.drop 5).take 32, by rw [List.length_take, List.length_drop]; omega⟩
        (envelope.drop 37)
  else .error .tooShort

/-! ## Data keys -/

/-- `WrappedByMaster`. -/
structure WrappedByMaster where
  /-- The ephemeral public key. -/
  ephemeralPub : PublicKey
  /-- The sealed data key. -/
  wrapped : List UInt8
  deriving DecidableEq

namespace MasterKeyResolver

/-- The label of wrapped data keys. -/
def wrapInfo : List UInt8 := Utf8.bytes "talk/dk-wrap"

/-- `MasterKeyResolver::wrap`, with the ephemeral key and the nonce it draws. -/
def wrap (agreement : Agreement) (aead : Aead) (dk : SecretKey) (masterPub : PublicKey)
    (ephemeral : SecretKey) (nonce : Block 12) : WrappedByMaster :=
  let shared := agreement.diffieHellman ephemeral masterPub
  ⟨agreement.publicKey ephemeral,
    aeadSeal aead (agreement.expand wrapInfo shared) nonce dk.val⟩

/-- `MasterKeyResolver::unwrap`. -/
def unwrap (agreement : Agreement) (aead : Aead) (masterPriv : SecretKey)
    (wrapped : WrappedByMaster) : Except ResolverError SecretKey :=
  let shared := agreement.diffieHellman masterPriv wrapped.ephemeralPub
  match aeadOpen aead (agreement.expand wrapInfo shared) wrapped.wrapped with
  | none => .error .decryptFailed
  | some bytes =>
    if size : bytes.length = 32 then .ok ⟨bytes, size⟩ else .error .decryptFailed

end MasterKeyResolver

/-! ## The ladder, wrapped again -/

/-- `PerShareWrapper::rewrap`. -/
def rewrap (aead : Aead) (dk : SecretKey) (survivors : List Draw) : List WrappedByShare :=
  wrap aead dk survivors

/-! ## An ideal agreement -/

/-- The labels that keys are derived under. -/
def labels : List (List UInt8) := [hkdfInfo, MasterKeyResolver.wrapInfo]

/-- Two keys agree on one secret and other keys on other ones, and a derived key tells its label and
its secret. -/
structure Agreement.Ideal (agreement : Agreement) : Prop where
  /-- Both sides of an exchange agree. -/
  agree : ∀ left right, agreement.diffieHellman left (agreement.publicKey right) =
    agreement.diffieHellman right (agreement.publicKey left)
  /-- Keys that agree on a secret with one peer have one public key. -/
  one_peer : ∀ {left right peer}, agreement.diffieHellman left (agreement.publicKey peer) =
    agreement.diffieHellman right (agreement.publicKey peer) →
      agreement.publicKey left = agreement.publicKey right
  /-- Keys are derived apart, for the secrets that can be agreed on. -/
  apart : ∀ {label other}, label ∈ labels → other ∈ labels → ∀ {left right pub peer},
    agreement.expand label (agreement.diffieHellman left pub) =
      agreement.expand other (agreement.diffieHellman right peer) →
    label = other ∧ agreement.diffieHellman left pub = agreement.diffieHellman right peer

/-- Keys with one public key agree with every peer on the same secrets. -/
theorem Agreement.Ideal.same_peer {agreement : Agreement} (ideal : agreement.Ideal)
    {left right : SecretKey} (same : agreement.publicKey left = agreement.publicKey right)
    (peer : SecretKey) : agreement.diffieHellman left (agreement.publicKey peer) =
      agreement.diffieHellman right (agreement.publicKey peer) := by
  rw [ideal.agree, same, ideal.agree]

/-- A small agreement: a key is known by its first byte, and derived keys start with the length of
their label. -/
def Agreement.ofFirstByte : Agreement where
  publicKey key := .replicate 32 (key.val.headD 0)
  diffieHellman key pub := .replicate 32 (key.val.headD 0 ^^^ pub.val.headD 0)
  expand label shared :=
    ⟨UInt8.ofNat label.length :: List.replicate 31 (shared.val.headD 0), rfl⟩

/-- The labels differ in their length. -/
theorem labels_lengths {label other : List UInt8} (member : label ∈ labels)
    (inside : other ∈ labels) (same : UInt8.ofNat label.length = UInt8.ofNat other.length) :
    label = other := by
  simp only [labels, List.mem_cons, List.not_mem_nil, or_false] at member inside
  rcases member with rfl | rfl <;> rcases inside with rfl | rfl
  · rfl
  · exact absurd same (by decide)
  · exact absurd same (by decide)
  · rfl

/-- The agreement that takes first bytes is ideal. -/
theorem ideal_ofFirstByte : Agreement.Ideal .ofFirstByte := by
  have same {left right : UInt8} (blocks : Block.replicate 32 left = Block.replicate 32 right) :
      left = right := congrArg (fun block : Block 32 => block.val.headD 0) blocks
  refine ⟨fun left right => ?_, fun {left right peer} agreed => ?_,
    fun {label other} member inside {left right pub peer} derived => ?_⟩
  · exact congrArg (Block.replicate 32) (UInt8.xor_comm _ _)
  · have bytes : left.val.headD 0 ^^^ peer.val.headD 0 = right.val.headD 0 ^^^ peer.val.headD 0 :=
      same agreed
    exact congrArg (Block.replicate 32) ((UInt8.xor_left_inj _).mp bytes)
  · have parts := List.cons.inj (congrArg Subtype.val derived)
    exact ⟨labels_lengths member inside parts.1,
      congrArg (Block.replicate 32) (List.cons.inj parts.2).1⟩

end Talk.Keys
