import Talk.Keys.Master

/-!
# Sealed envelopes

What `open_envelope` reads, byte for byte; who can open what `seal_envelope` writes; and that an
envelope is never taken for a wrapped data key, nor a wrapped data key for an envelope.
-/

namespace Talk.Verif.SealedEnvelopes

open Keys Hex

variable {agreement : Agreement} {aead : Aead}

/-! ## The format -/

/-- The key that an envelope to a private key is sealed under. -/
def envelopeKey (agreement : Agreement) (priv : SecretKey) (pub : PublicKey) : SecretKey :=
  deriveWrapKey agreement (agreement.diffieHellman priv pub)

/-- The bytes of an envelope: the magic ones, the version, the ephemeral key and the body. -/
def layout (version : UInt8) (pub : PublicKey) (body : List UInt8) : List UInt8 :=
  magic ++ [version] ++ pub.val ++ body

/-- What a private key makes of the bytes of an envelope. -/
inductive Reading (agreement : Agreement) (aead : Aead) (priv : SecretKey) :
    List UInt8 → Except SealError (List UInt8) → Prop
  /-- There is no room for the head. -/
  | tooShort {envelope : List UInt8} (short : envelope.length < 37) :
      Reading agreement aead priv envelope (.error .tooShort)
  /-- It starts otherwise. -/
  | badMagic {envelope : List UInt8} (room : 37 ≤ envelope.length)
      (other : ¬ magic <+: envelope) : Reading agreement aead priv envelope (.error .badMagic)
  /-- It is of another version. -/
  | badVersion {number : UInt8} (pub : PublicKey) (body : List UInt8) (other : number ≠ version) :
      Reading agreement aead priv (layout number pub body) (.error (.badVersion number))
  /-- The body is not sealed under the key. -/
  | decryptFailed (pub : PublicKey) {body : List UInt8}
      (unsealed : ∀ nonce data, body ≠ aeadSeal aead (envelopeKey agreement priv pub) nonce data) :
      Reading agreement aead priv (layout version pub body) (.error .decryptFailed)
  /-- The body is sealed under the key. -/
  | opened (pub : PublicKey) (nonce : Block 12) (data : List UInt8) :
      Reading agreement aead priv
        (layout version pub (aeadSeal aead (envelopeKey agreement priv pub) nonce data)) (.ok data)

/-- There is room in what is laid out. -/
theorem length_layout (number : UInt8) (pub : PublicKey) (body : List UInt8) :
    (layout number pub body).length = 37 + body.length := by
  have size := pub.property
  simp only [layout, magic, List.length_append, List.length_cons, List.length_nil]
  omega

/-- Bytes with room for a head, cut where its parts end. -/
theorem exists_layout {envelope : List UInt8} (room : 37 ≤ envelope.length)
    (starts : magic <+: envelope) : ∃ number pub body, envelope = layout number pub body := by
  obtain ⟨rest, rfl⟩ := starts
  have length : magic.length = 4 := rfl
  rw [List.length_append, length] at room
  cases rest with
  | nil => exact absurd room (by decide)
  | cons number rest =>
    rw [List.length_cons] at room
    refine ⟨number, ⟨rest.take 32, by rw [List.length_take]; omega⟩, rest.drop 32, ?_⟩
    rw [layout, List.append_assoc, List.take_append_drop, List.append_assoc]
    rfl

/-- The version is looked at after the magic bytes, and the body after both. -/
theorem openEnvelope_layout (priv : SecretKey) (number : UInt8) (pub : PublicKey)
    (body : List UInt8) : openEnvelope agreement aead priv (layout number pub body) =
      if number ≠ version then .error (.badVersion number)
      else openBody agreement aead priv pub body := by
  have room : 37 ≤ (layout number pub body).length := by
    rw [length_layout]
    exact Nat.le_add_right 37 _
  have first : (layout number pub body).take 4 = magic := rfl
  have behind : (layout number pub body).drop 5 = pub.val ++ body := rfl
  have key : ((layout number pub body).drop 5).take 32 = pub.val := by
    rw [behind, List.take_left' pub.property]
  have rest : (layout number pub body).drop 37 = body := by
    have parts : ((layout number pub body).drop 5).drop 32 = (layout number pub body).drop 37 :=
      List.drop_drop
    rw [← parts, behind, List.drop_left' pub.property]
  unfold openEnvelope
  rw [dif_pos room, if_neg (not_not_intro first)]
  simp only [key, rest]
  rfl

/-- A sealed body is opened. -/
theorem openBody_sealed (ideal : Ideal aead) (priv : SecretKey) (pub : PublicKey)
    (nonce : Block 12) (data : List UInt8) :
    openBody agreement aead priv pub
      (aeadSeal aead (envelopeKey agreement priv pub) nonce data) = .ok data := by
  have opens := (ideal.opens_iff _ _ data).mpr
    ⟨nonce, Eq.refl (aeadSeal aead (envelopeKey agreement priv pub) nonce data)⟩
  rw [envelopeKey] at opens ⊢
  rw [openBody, opens]

/-- A body that is not sealed under the key is not opened. -/
theorem openBody_unsealed (ideal : Ideal aead) (priv : SecretKey) (pub : PublicKey)
    {body : List UInt8}
    (unsealed : ∀ nonce data, body ≠ aeadSeal aead (envelopeKey agreement priv pub) nonce data) :
    openBody agreement aead priv pub body = .error .decryptFailed := by
  rw [openBody]
  cases found : aeadOpen aead (deriveWrapKey agreement (agreement.diffieHellman priv pub)) body with
  | none => rfl
  | some data =>
    obtain ⟨nonce, same⟩ := (ideal.opens_iff _ _ data).mp found
    exact absurd same (unsealed nonce data)

/-- What a private key makes of an envelope is what it reads. -/
theorem reading_openEnvelope (ideal : Ideal aead) (priv : SecretKey) (envelope : List UInt8) :
    Reading agreement aead priv envelope (openEnvelope agreement aead priv envelope) := by
  by_cases room : 37 ≤ envelope.length
  · by_cases starts : magic <+: envelope
    · obtain ⟨number, pub, body, rfl⟩ := exists_layout room starts
      rw [openEnvelope_layout]
      split
      · rename_i other
        exact .badVersion pub body other
      · rename_i same
        obtain rfl := not_not.mp same
        by_cases sealed : ∃ nonce data,
            body = aeadSeal aead (envelopeKey agreement priv pub) nonce data
        · obtain ⟨nonce, data, rfl⟩ := sealed
          rw [openBody_sealed ideal]
          exact .opened pub nonce data
        · have unsealed : ∀ nonce data,
              body ≠ aeadSeal aead (envelopeKey agreement priv pub) nonce data :=
            fun nonce data same => sealed ⟨nonce, data, same⟩
          rw [openBody_unsealed ideal priv pub unsealed]
          exact .decryptFailed pub unsealed
    · have other : envelope.take 4 ≠ magic := fun same =>
        starts (List.prefix_iff_eq_take.mpr same.symm)
      rw [openEnvelope, dif_pos room, if_pos other]
      exact .badMagic room starts
  · rw [openEnvelope, dif_neg room]
    exact .tooShort (Nat.lt_of_not_le room)

/-- What an envelope reads as is what a private key makes of it. -/
theorem openEnvelope_of_reading (ideal : Ideal aead) {priv : SecretKey} {envelope : List UInt8}
    {result : Except SealError (List UInt8)}
    (reading : Reading agreement aead priv envelope result) :
    openEnvelope agreement aead priv envelope = result := by
  cases reading with
  | tooShort short => exact dif_neg (Nat.not_le.mpr short)
  | badMagic room other =>
    have differs : envelope.take 4 ≠ magic := fun same =>
      other (List.prefix_iff_eq_take.mpr same.symm)
    rw [openEnvelope, dif_pos room, if_pos differs]
  | badVersion pub body other => rw [openEnvelope_layout, if_pos other]
  | decryptFailed pub unsealed =>
    rw [openEnvelope_layout, if_neg (not_not_intro rfl), openBody_unsealed ideal priv pub unsealed]
  | opened pub nonce data =>
    rw [openEnvelope_layout, if_neg (not_not_intro rfl), openBody_sealed ideal priv pub nonce data]

/-- `open_envelope` accepts what is laid out and sealed as an envelope to the key, with the data
that was sealed, and names the first thing that is wrong with anything else. Of the ideal cipher
this uses only `Ideal.opens_iff`, that what opens was sealed under the key, and not
`Ideal.one_key`. -/
theorem openEnvelope_eq_iff (ideal : Ideal aead) (priv : SecretKey) (envelope : List UInt8)
    (result : Except SealError (List UInt8)) :
    openEnvelope agreement aead priv envelope = result ↔
      Reading agreement aead priv envelope result := by
  constructor
  · rintro rfl
    exact reading_openEnvelope ideal priv envelope
  · exact openEnvelope_of_reading ideal

/-- An envelope that is opened. -/
theorem opened_reading :
    openEnvelope .ofFirstByte .labelled (.replicate 32 7)
        (sealEnvelope .ofFirstByte .labelled (.replicate 32 7) [1, 2] (.replicate 32 9)
          (.replicate 12 0)) = .ok [1, 2] ∧
      Reading .ofFirstByte .labelled (.replicate 32 7)
        (sealEnvelope .ofFirstByte .labelled (.replicate 32 7) [1, 2] (.replicate 32 9)
          (.replicate 12 0)) (.ok [1, 2]) :=
  have opened : openEnvelope .ofFirstByte .labelled (.replicate 32 7)
      (sealEnvelope .ofFirstByte .labelled (.replicate 32 7) [1, 2] (.replicate 32 9)
        (.replicate 12 0)) = .ok [1, 2] := by decide
  ⟨opened, (openEnvelope_eq_iff ideal_labelled _ _ _).mp opened⟩

/-! ## The recipient -/

/-- What is sealed to a key is laid out as an envelope. -/
theorem sealEnvelope_eq (masterPub : PublicKey) (data : List UInt8) (ephemeral : SecretKey)
    (nonce : Block 12) :
    sealEnvelope agreement aead masterPub data ephemeral nonce =
      layout version (agreement.publicKey ephemeral)
        (aeadSeal aead (envelopeKey agreement ephemeral masterPub) nonce data) := rfl

/-- An envelope is opened by whoever holds a private key of the public key it was sealed to, and by
nobody else; and what comes out is what went in. -/
theorem opens_for_recipient (cipher : Ideal aead) (curve : agreement.Ideal)
    (recipient holder : SecretKey) (data : List UInt8) (ephemeral : SecretKey) (nonce : Block 12) :
    openEnvelope agreement aead holder
        (sealEnvelope agreement aead (masterPubkey agreement recipient) data ephemeral nonce) =
      if masterPubkey agreement holder = masterPubkey agreement recipient then .ok data
      else .error .decryptFailed := by
  have agreed : envelopeKey agreement ephemeral (masterPubkey agreement recipient) =
      envelopeKey agreement recipient (agreement.publicKey ephemeral) :=
    congrArg (deriveWrapKey agreement) (curve.agree ephemeral recipient)
  rw [sealEnvelope_eq, openEnvelope_layout, if_neg (not_not_intro rfl), agreed]
  split
  · rename_i same
    have key : envelopeKey agreement recipient (agreement.publicKey ephemeral) =
        envelopeKey agreement holder (agreement.publicKey ephemeral) :=
      congrArg (deriveWrapKey agreement) (curve.same_peer same.symm ephemeral)
    rw [key]
    exact openBody_sealed cipher holder _ nonce data
  · rename_i differs
    refine openBody_unsealed cipher holder _ fun other text same => differs ?_
    have keys := cipher.one_key same
    have secrets := (curve.apart (List.mem_cons_self ..) (List.mem_cons_self ..) keys).2
    exact (curve.one_peer secrets).symm

/-- A key that was drawn opens what is sealed to it. -/
theorem drawn_opens :
    openEnvelope .ofFirstByte .labelled (.replicate 32 7)
      (sealEnvelope .ofFirstByte .labelled (masterPubkey .ofFirstByte (.replicate 32 7)) [1, 2]
        (.replicate 32 9) (.replicate 12 0)) = .ok [1, 2] :=
  (opens_for_recipient ideal_labelled ideal_ofFirstByte (.replicate 32 7) (.replicate 32 7) [1, 2]
    (.replicate 32 9) (.replicate 12 0)).trans (if_pos rfl)

/-! ## Wrapped data keys -/

/-- The key that a data key is sealed under for a private key. -/
def wrapKey (agreement : Agreement) (priv : SecretKey) (pub : PublicKey) : SecretKey :=
  agreement.expand MasterKeyResolver.wrapInfo (agreement.diffieHellman priv pub)

/-- The wrapping key is derived under the second label. -/
theorem wrapInfo_mem_labels : MasterKeyResolver.wrapInfo ∈ labels :=
  List.mem_cons_of_mem _ (List.mem_singleton_self _)

/-- A data key is unwrapped exactly if it is sealed under the key. -/
theorem unwrap_eq_ok_iff (cipher : Ideal aead) (holder : SecretKey) (wrapped : WrappedByMaster)
    (dk : SecretKey) : MasterKeyResolver.unwrap agreement aead holder wrapped = .ok dk ↔
      SealedUnder aead (wrapKey agreement holder wrapped.ephemeralPub) dk wrapped.wrapped := by
  unfold SealedUnder
  rw [← cipher.opens_iff, wrapKey, MasterKeyResolver.unwrap]
  cases aeadOpen aead (agreement.expand MasterKeyResolver.wrapInfo
    (agreement.diffieHellman holder wrapped.ephemeralPub)) wrapped.wrapped with
  | none => exact iff_of_false nofun nofun
  | some bytes =>
    dsimp only
    rw [Option.some.injEq]
    split
    · rename_i size
      exact ⟨fun same => congrArg Subtype.val (Except.ok.inj same),
        fun same => congrArg Except.ok (Subtype.ext same)⟩
    · rename_i size
      exact iff_of_false nofun fun same => size (same ▸ dk.property)

/-- What is not unwrapped fails to decrypt. -/
theorem unwrap_error (holder : SecretKey) (wrapped : WrappedByMaster)
    (refused : ∀ dk, MasterKeyResolver.unwrap agreement aead holder wrapped ≠ .ok dk) :
    MasterKeyResolver.unwrap agreement aead holder wrapped = .error .decryptFailed := by
  unfold MasterKeyResolver.unwrap at refused ⊢
  dsimp only at refused ⊢
  split
  · rfl
  · rename_i bytes opened
    rw [opened] at refused
    split
    · rename_i size
      exact absurd (dif_pos size) (refused ⟨bytes, size⟩)
    · rfl

/-- A wrapped data key is unwrapped by whoever holds a private key of the public key it was wrapped
under, and by nobody else. -/
theorem unwrap_wrap (cipher : Ideal aead) (curve : agreement.Ideal)
    (recipient holder dk ephemeral : SecretKey) (nonce : Block 12) :
    MasterKeyResolver.unwrap agreement aead holder (MasterKeyResolver.wrap agreement aead dk
        (masterPubkey agreement recipient) ephemeral nonce) =
      if masterPubkey agreement holder = masterPubkey agreement recipient then .ok dk
      else .error .decryptFailed := by
  have agreed : wrapKey agreement ephemeral (masterPubkey agreement recipient) =
      wrapKey agreement recipient (agreement.publicKey ephemeral) :=
    congrArg (agreement.expand _) (curve.agree ephemeral recipient)
  have wrapped : MasterKeyResolver.wrap agreement aead dk (masterPubkey agreement recipient)
      ephemeral nonce = ⟨agreement.publicKey ephemeral, aeadSeal aead
        (wrapKey agreement recipient (agreement.publicKey ephemeral)) nonce dk.val⟩ := by
    rw [← agreed]
    rfl
  rw [wrapped]
  split
  · rename_i same
    refine (unwrap_eq_ok_iff cipher holder _ dk).mpr ⟨nonce, ?_⟩
    have secrets := curve.same_peer same ephemeral
    rw [wrapKey, wrapKey, secrets]
  · rename_i differs
    refine unwrap_error holder _ fun other opened => differs ?_
    obtain ⟨again, same⟩ := (unwrap_eq_ok_iff cipher holder _ other).mp opened
    have keys := cipher.one_key same
    have secrets := (curve.apart wrapInfo_mem_labels wrapInfo_mem_labels keys).2
    exact (curve.one_peer secrets).symm

/-! ## Two labels -/

/-- No key is one for envelopes and one for wrappers. -/
theorem envelopeKey_ne_wrapKey (curve : agreement.Ideal) (priv holder : SecretKey)
    (pub peer : PublicKey) : envelopeKey agreement priv pub ≠ wrapKey agreement holder peer := by
  intro same
  have label := (curve.apart (List.mem_cons_self ..) wrapInfo_mem_labels same).1
  exact absurd label (by decide)

/-- The body of an envelope that some key opens is a wrapped data key to nobody, and a wrapped data
key that some key unwraps is the body of an envelope to nobody. -/
theorem envelopes_are_not_keys (cipher : Ideal aead) (curve : agreement.Ideal)
    (priv holder : SecretKey) (pub peer : PublicKey) (body : List UInt8) :
    ((∃ data, openEnvelope agreement aead priv (layout version pub body) = .ok data) →
      MasterKeyResolver.unwrap agreement aead holder ⟨peer, body⟩ = .error .decryptFailed) ∧
    ((∃ dk, MasterKeyResolver.unwrap agreement aead holder ⟨peer, body⟩ = .ok dk) →
      openEnvelope agreement aead priv (layout version pub body) = .error .decryptFailed) := by
  have apart : ∀ nonce data, body = aeadSeal aead (envelopeKey agreement priv pub) nonce data →
      ∀ dk, ¬ SealedUnder aead (wrapKey agreement holder peer) dk body := by
    rintro nonce data rfl dk ⟨again, same⟩
    exact envelopeKey_ne_wrapKey curve priv holder pub peer (cipher.one_key same)
  rw [openEnvelope_layout, if_neg (not_not_intro rfl)]
  constructor
  · rintro ⟨data, opened⟩
    refine unwrap_error holder _ fun dk unwrapped => ?_
    have wrapped := (unwrap_eq_ok_iff cipher holder _ dk).mp unwrapped
    rw [openBody_unsealed cipher priv pub fun nonce data same => apart nonce data same dk wrapped]
      at opened
    cases opened
  · rintro ⟨dk, unwrapped⟩
    refine openBody_unsealed cipher priv pub fun nonce data same => ?_
    exact apart nonce data same dk ((unwrap_eq_ok_iff cipher holder _ dk).mp unwrapped)

/-- An envelope is no wrapped data key. -/
theorem envelope_is_not_a_key :
    MasterKeyResolver.unwrap .ofFirstByte .labelled (.replicate 32 7)
      ⟨.replicate 32 9, aeadSeal .labelled
        (envelopeKey .ofFirstByte (.replicate 32 7) (.replicate 32 9)) (.replicate 12 0)
        (List.replicate 32 5)⟩ = .error .decryptFailed :=
  (envelopes_are_not_keys ideal_labelled ideal_ofFirstByte (.replicate 32 7) (.replicate 32 7)
    (.replicate 32 9) (.replicate 32 9) _).1 ⟨List.replicate 32 5, by decide⟩

end Talk.Verif.SealedEnvelopes
