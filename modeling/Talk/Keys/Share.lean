import Talk.Lib.Hex

/-!
# Shares

A data key is sealed under each of several shares, and a share is an app password. The cipher and
what the random generator has drawn are arguments. An ideal cipher opens exactly what was sealed
under the key, and under no other one.
-/

namespace Talk.Keys

open Hex

/-! ## Data keys -/

/-- `SecretKey`: a data key, or a share. -/
abbrev SecretKey := Block 32

/-- ChaCha20-Poly1305, with the key and the nonce. -/
structure Aead where
  /-- The ciphertext and its tag. -/
  encrypt : List UInt8 → List UInt8 → List UInt8 → List UInt8
  /-- The plaintext, if the tag is right. -/
  decrypt : List UInt8 → List UInt8 → List UInt8 → Option (List UInt8)

/-- `aead_seal`. -/
def aeadSeal (aead : Aead) (key : SecretKey) (nonce : Block 12) (plaintext : List UInt8) :
    List UInt8 :=
  nonce.val ++ aead.encrypt key.val nonce.val plaintext

/-- `aead_open`. -/
def aeadOpen (aead : Aead) (key : SecretKey) (ciphertext : List UInt8) : Option (List UInt8) :=
  if ciphertext.length < 12 then none
  else aead.decrypt key.val (ciphertext.take 12) (ciphertext.drop 12)

/-! ## The ladder -/

/-- `WrappedByShare`. -/
structure WrappedByShare where
  /-- The id of the share. -/
  shareId : Block 16
  /-- The sealed data key. -/
  wrapped : List UInt8
  deriving DecidableEq

/-- `ShareError`. -/
inductive ShareError where
  /-- The wrappers are those of another scheme. -/
  | schemeMismatch
  /-- No share is left. -/
  | noSurvivors
  /-- The wrapper does not open to a key. -/
  | decryptFailed
  deriving DecidableEq

/-- What is drawn for one share: the share, the id and the nonce. -/
structure Draw where
  /-- `Share::generate`. -/
  share : SecretKey
  /-- `PerShareWrapper::share_id`. -/
  shareId : Block 16
  /-- The nonce of the seal. -/
  nonce : Block 12
  deriving DecidableEq

/-- A draw of one byte, repeated. -/
def Draw.replicate (byte : UInt8) : Draw :=
  ⟨.replicate 32 byte, .replicate 16 byte, .replicate 12 byte⟩

/-- `PerShareWrapper::wrap`. -/
def wrap (aead : Aead) (dk : SecretKey) (draws : List Draw) : List WrappedByShare :=
  draws.map fun draw => ⟨draw.shareId, aeadSeal aead draw.share draw.nonce dk.val⟩

/-- `PerShareWrapper::unwrap`. -/
def unwrap (aead : Aead) (share : SecretKey) (wrapper : WrappedByShare) :
    Except ShareError SecretKey :=
  match aeadOpen aead share wrapper.wrapped with
  | none => .error .decryptFailed
  | some key => if size : key.length = 32 then .ok ⟨key, size⟩ else .error .decryptFailed

/-! ## Resolving a credential -/

/-- `ResolverError`. -/
inductive ResolverError where
  /-- No wrapper opens to a key. -/
  | decryptFailed
  /-- There is no wrapper, or the credential is no share. -/
  | shareMismatch
  deriving DecidableEq

/-- `From<ShareError>`. -/
def ResolverError.ofShareError (_ : ShareError) : ResolverError := .decryptFailed

/-- `Credential`. -/
inductive Credential where
  /-- The master private key. -/
  | master (key : SecretKey)
  /-- One share. -/
  | share (share : SecretKey)
  deriving DecidableEq

/-- The loop of `ShareResolver::unwrap`, with the last error. -/
def tryWrappers (aead : Aead) (share : SecretKey) :
    ResolverError → List WrappedByShare → Except ResolverError SecretKey
  | lastError, [] => .error lastError
  | _, wrapper :: wrappers =>
    match unwrap aead share wrapper with
    | .ok dk => .ok dk
    | .error error => tryWrappers aead share (.ofShareError error) wrappers

/-- `ShareResolver::unwrap`. -/
def resolve (aead : Aead) (wrappers : List WrappedByShare) (credential : Credential) :
    Except ResolverError SecretKey :=
  match credential with
  | .master _ => .error .shareMismatch
  | .share share => tryWrappers aead share .shareMismatch wrappers

variable {aead : Aead} {share dk : SecretKey}

/-- What opens under a key was sealed under it, and under no other one. That a ciphertext has one
key is an idealisation: a tag of 16 bytes is too short for keys of 32, and two keys under which the
same ciphertext is sealed are only hard to find. -/
structure Ideal (aead : Aead) : Prop where
  /-- What opens is what was sealed. -/
  opens_iff : ∀ key ciphertext plaintext, aeadOpen aead key ciphertext = some plaintext ↔
    ∃ nonce, ciphertext = aeadSeal aead key nonce plaintext
  /-- A ciphertext is sealed under one key. -/
  one_key : ∀ {left right : SecretKey} {nonce other : Block 12} {plaintext text : List UInt8},
    aeadSeal aead left nonce plaintext = aeadSeal aead right other text → left = right

/-- What is sealed under two keys is sealed under one, and is one plaintext. -/
theorem Ideal.sealed_once (ideal : Ideal aead) {left right : SecretKey} {nonce other : Block 12}
    {plaintext text : List UInt8}
    (same : aeadSeal aead left nonce plaintext = aeadSeal aead right other text) :
    left = right ∧ plaintext = text := by
  have one : left = right := ideal.one_key same
  have first := (ideal.opens_iff left (aeadSeal aead left nonce plaintext) plaintext).mpr
    ⟨nonce, rfl⟩
  have second := (ideal.opens_iff right (aeadSeal aead left nonce plaintext) text).mpr
    ⟨other, same⟩
  rw [← one, first] at second
  exact ⟨one, Option.some.inj second⟩

/-- A data key is sealed under a share. -/
def SealedUnder (aead : Aead) (share dk : SecretKey) (wrapped : List UInt8) : Prop :=
  ∃ nonce, wrapped = aeadSeal aead share nonce dk.val

/-- A wrapper opens to the key that is sealed under the share. -/
theorem unwrap_iff (ideal : Ideal aead) (wrapper : WrappedByShare) :
    unwrap aead share wrapper = .ok dk ↔ SealedUnder aead share dk wrapper.wrapped := by
  unfold SealedUnder
  rw [← ideal.opens_iff]
  unfold unwrap
  constructor
  · intro opens
    cases opened : aeadOpen aead share wrapper.wrapped with
    | none =>
      rw [opened] at opens
      cases opens
    | some key =>
      rw [opened] at opens
      dsimp only at opens
      by_cases size : key.length = 32
      · rw [dif_pos size] at opens
        rw [← Except.ok.inj opens]
      · rw [dif_neg size] at opens
        cases opens
  · intro opened
    rw [opened]
    exact dif_pos dk.property

/-- What is sealed under two shares is sealed under one, and wraps one key. -/
theorem sealedUnder_unique (ideal : Ideal aead) {other key : SecretKey} {wrapped : List UInt8}
    (one : SealedUnder aead share dk wrapped) (two : SealedUnder aead other key wrapped) :
    share = other ∧ dk = key := by
  obtain ⟨nonce, wrapped⟩ := one
  obtain ⟨again, same⟩ := two
  have both := ideal.sealed_once (wrapped.symm.trans same)
  exact ⟨both.1, Subtype.ext both.2⟩

/-- A cipher that writes the key before the plaintext. -/
def Aead.labelled : Aead where
  encrypt key _ plaintext := key ++ plaintext
  decrypt key _ body := if body.take 32 = key then some (body.drop 32) else none

/-- The cipher that writes the key before the plaintext is ideal. -/
theorem ideal_labelled : Ideal Aead.labelled := by
  have opens (key : SecretKey) (ciphertext plaintext : List UInt8) :
      aeadOpen .labelled key ciphertext = some plaintext ↔
        12 ≤ ciphertext.length ∧ ciphertext.drop 12 = key.val ++ plaintext := by
    unfold aeadOpen Aead.labelled
    dsimp only
    by_cases short : ciphertext.length < 12
    · rw [if_pos short]
      exact iff_of_false nofun fun both => by omega
    · rw [if_neg short]
      have long : 12 ≤ ciphertext.length := by omega
      by_cases same : (ciphertext.drop 12).take 32 = key.val
      · rw [if_pos same, Option.some.injEq, and_iff_right long,
          ← List.take_append_drop 32 (ciphertext.drop 12), same, List.append_cancel_left_eq,
          List.drop_append_of_le_length (le_of_eq key.property.symm),
          List.drop_eq_nil_of_le (le_of_eq key.property), List.nil_append]
      · rw [if_neg same]
        refine iff_of_false nofun fun both => same ?_
        rw [both.2]
        exact List.take_left' key.property
  refine ⟨fun key ciphertext plaintext => ?_,
    fun {left right nonce other plaintext text} same => ?_⟩
  · rw [opens]
    constructor
    · rintro ⟨long, body⟩
      refine ⟨⟨ciphertext.take 12, by rw [List.length_take]; omega⟩, ?_⟩
      show ciphertext = ciphertext.take 12 ++ (key.val ++ plaintext)
      rw [← body, List.take_append_drop]
    · rintro ⟨nonce, rfl⟩
      have long : 12 ≤ (aeadSeal .labelled key nonce plaintext).length := by
        unfold aeadSeal
        rw [List.length_append, nonce.property]
        omega
      refine ⟨long, ?_⟩
      exact List.drop_left' nonce.property
  · have bodies := congrArg (List.drop 12) same
    have dropped (key : SecretKey) (used : Block 12) (body : List UInt8) :
        (aeadSeal .labelled key used body).drop 12 = key.val ++ body :=
      List.drop_left' used.property
    rw [dropped, dropped] at bodies
    exact Subtype.ext (List.append_inj bodies (left.property.trans right.property.symm)).1

end Talk.Keys
