import Talk.Lib.Separated
import Talk.Protocol.Registration

/-!
# What the signed bytes bind

A domain key signs three kinds of objects: challenges, address attestations and registration
attestations. Their bytes begin with different tags, and go on with texts that a zero byte ends or
separates. So the bytes of an object are those of no other, just when none of its texts holds a zero
itself and, in a registration, there is a commitment that is not empty.
-/

namespace Talk.Verif.SignedBytes

open Protocol Separated
open Utf8 (bytes)

/-! ## Encodings -/

/-- A text has no zero. -/
def NulFree (text : String) : Prop := '\x00' ∉ text.toList

/-- A text without a zero has no zero byte. -/
theorem zero_not_mem {text : String} (free : NulFree text) : 0 ∉ bytes text := by
  intro member
  exact free (Utf8.ascii_mem_bytes (by decide) member)

/-- A time takes eight bytes. -/
theorem length_beBytes (time : Int64) : (Challenge.beBytes time).length = 8 := by
  simp [Challenge.beBytes]

/-- The digits of a number below the eighth power of 256 determine it. -/
theorem eq_of_digits {left right : Nat} (leftSmall : left < 256 ^ 8) (rightSmall : right < 256 ^ 8)
    (same : ∀ k < 8, left / 256 ^ k % 256 = right / 256 ^ k % 256) : left = right := by
  have quotients : ∀ k ≤ 8, left / 256 ^ (8 - k) = right / 256 ^ (8 - k) := by
    intro k
    induction k with
    | zero =>
      intro _
      rw [Nat.div_eq_of_lt leftSmall, Nat.div_eq_of_lt rightSmall]
    | succ k ih =>
      intro bound
      have previous := ih (by omega)
      have digit := same (8 - (k + 1)) (by omega)
      have power : 256 ^ (8 - k) = 256 ^ (8 - (k + 1)) * 256 := by
        rw [← Nat.pow_succ]
        congr 1
        omega
      rw [power, ← Nat.div_div_eq_div_mul, ← Nat.div_div_eq_div_mul] at previous
      omega
  simpa using quotients 8 (Nat.le_refl 8)

/-- The bytes of a time determine it. -/
theorem beBytes_injective {left right : Int64}
    (same : Challenge.beBytes left = Challenge.beBytes right) : left = right := by
  have digits : ∀ k < 8, left.toUInt64.toNat / 256 ^ k % 256 =
      right.toUInt64.toNat / 256 ^ k % 256 := by
    intro k small
    have bytes := List.map_inj_left.mp same (7 - k) (List.mem_range.mpr (by omega))
    have number := congrArg UInt8.toNat bytes
    rw [show 7 - (7 - k) = k by omega, UInt8.toNat_ofNat', UInt8.toNat_ofNat'] at number
    exact number
  have value := eq_of_digits left.toUInt64.toNat_lt right.toUInt64.toNat_lt digits
  exact congrArg Int64.ofUInt64 (UInt64.toNat_inj.mp value)

/-- Two texts of which one has a zero have the bytes of two others. -/
theorem free_of_unshifted {left right : String}
    (fixed : ∀ first second : String,
      first.toList ++ '\x00' :: second.toList = left.toList ++ '\x00' :: right.toList →
      (∀ rest, bytes first ++ ([0] ++ (bytes second ++ rest)) =
        bytes left ++ ([0] ++ (bytes right ++ rest))) → first = left) :
    NulFree left ∧ NulFree right := by
  rw [NulFree, NulFree, ← not_or]
  intro member
  obtain ⟨first, second, differs, same⟩ := exists_shift member
  refine differs (String.ofList_inj.mp ?_)
  rw [String.ofList_toList]
  refine fixed (String.ofList first) (String.ofList second) ?_ fun rest => ?_
  · rw [String.toList_ofList, String.toList_ofList]
    exact same
  · have joined : ∀ before after : List Char,
        (before ++ '\x00' :: after).flatMap String.utf8EncodeChar ++ rest =
          bytes (String.ofList before) ++ ([0] ++ (bytes (String.ofList after) ++ rest)) := by
      intro before after
      have zero : String.utf8EncodeChar '\x00' = [0] := by decide
      simp [bytes, zero]
    have whole := joined first second
    rw [same, joined left.toList right.toList, String.ofList_toList, String.ofList_toList] at whole
    exact whole.symm

/-! ## Signed objects -/

/-- What kind of object is signed. -/
inductive Kind where
  /-- A challenge. -/
  | challenge
  /-- An address attestation. -/
  | attestation
  /-- A registration attestation. -/
  | registration
  deriving DecidableEq

/-- The tag of a kind. -/
def Kind.tag : Kind → List UInt8
  | .challenge => bytes "zsmtp-v1"
  | .attestation => bytes "zsmtp-attest-v1"
  | .registration => bytes registrationAttrV1

/-- No tag begins another. -/
theorem kind_of_tag {left right : Kind} (begins : left.tag <+: right.tag) : left = right := by
  revert begins
  cases left <;> cases right <;> decide

/-- An object that is signed with a domain key, as its parser admits it. -/
inductive SignedObject where
  /-- A challenge, which the wire has carried. -/
  | challenge (challenge : Challenge) (carried : challenge.Carried)
  /-- An address attestation. -/
  | attestation (attestation : Attestation)
  /-- A registration attestation. -/
  | registration (registration : RegistrationAttestation)

namespace SignedObject

/-- The bytes that are hashed and signed. -/
def preimage : SignedObject → List UInt8
  | .challenge issued _ => issued.preimage
  | .attestation bound => bound.preimage
  | .registration record => record.preimage

/-- The object without its signature. -/
def unsigned : SignedObject → SignedObject
  | .challenge issued carried => .challenge issued carried
  | .attestation bound => .attestation { bound with signature := [] }
  | .registration record => .registration { record with signature := [] }

/-- No other object has the same bytes: they bind the kind and every field but the signature. -/
def Determined (object : SignedObject) : Prop :=
  ∀ other : SignedObject, other.preimage = object.preimage → other.unsigned = object.unsigned

/-- No text of the object has a zero, and a registration has a commitment that is not empty. -/
def Unambiguous : SignedObject → Prop
  | .challenge issued _ => NulFree issued.senderDomain ∧ NulFree issued.receiverDomain
  | .attestation bound => (NulFree bound.domain ∧ NulFree bound.user) ∧
      (NulFree bound.address ∧ NulFree bound.pubkey)
  | .registration record => (NulFree record.domain ∧ NulFree record.username) ∧
      ∃ commitment, record.ivkCommitment = some commitment ∧ commitment ≠ "" ∧
        NulFree record.masterPubkey ∧ NulFree commitment

/-! ## Unambiguous objects -/

/-- The kind of an object. -/
def kind : SignedObject → Kind
  | .challenge _ _ => .challenge
  | .attestation _ => .attestation
  | .registration _ => .registration

/-- The texts that zeros separate. -/
def texts : SignedObject → List String
  | .challenge issued _ => [issued.senderDomain, issued.receiverDomain]
  | .attestation bound =>
    [bound.domain, bound.user, bound.mode.word, bound.address, bound.pubkey]
  | .registration record =>
    [record.domain, record.username, record.masterPubkey, record.ivkCommitment.getD ""]

/-- What follows the texts, of a fixed size. -/
def rest : SignedObject → List UInt8
  | .challenge issued _ => 0 :: (issued.nonce.val ++ Challenge.beBytes issued.issuedAt)
  | .attestation _ => []
  | .registration record => 0 :: Challenge.beBytes record.registeredAt

/-- The bytes are laid out so. -/
theorem preimage_eq (object : SignedObject) : object.preimage = object.kind.tag ++
    (List.intercalate [0] (object.texts.map bytes) ++ object.rest) := by
  cases object <;> simp [preimage, kind, Kind.tag, texts, rest, Challenge.preimage,
    Attestation.preimage, RegistrationAttestation.preimage]

/-- Objects with the same bytes are of the same kind. -/
theorem kind_eq {object other : SignedObject} (same : other.preimage = object.preimage) :
    other.kind = object.kind := by
  have objectTag : object.kind.tag <+: object.preimage := by
    rw [preimage_eq]
    exact List.prefix_append _ _
  have otherTag : other.kind.tag <+: object.preimage := by
    rw [← same, preimage_eq]
    exact List.prefix_append _ _
  rcases List.prefix_or_prefix_of_prefix otherTag objectTag with begins | begins
  · exact kind_of_tag begins
  · exact (kind_of_tag begins).symm

/-- Objects of one layout with the same bytes have the same texts and the same rest, if the texts of
one have no zero. -/
theorem parts_eq {object other : SignedObject} (same : other.preimage = object.preimage)
    (count : other.texts.length = object.texts.length)
    (size : other.rest.length = object.rest.length)
    (free : ∀ text ∈ object.texts, NulFree text) :
    other.texts = object.texts ∧ other.rest = object.rest := by
  have kinds := kind_eq same
  rw [preimage_eq, preimage_eq, kinds] at same
  obtain ⟨joined, rests⟩ := List.append_inj' (List.append_cancel_left same) size
  have lists : other.texts.map bytes = object.texts.map bytes := by
    refine intercalate_inj (fun field member => ?_) (by simpa using count) joined
    obtain ⟨text, inside, rfl⟩ := List.mem_map.mp member
    exact zero_not_mem (free text inside)
  have injective : Function.Injective bytes := fun _ _ => Utf8.bytes_injective
  exact ⟨List.map_injective_iff.mpr injective lists, rests⟩

/-- The word of a mode has no zero. -/
theorem nulFree_word (mode : AttestationMode) : NulFree mode.word := by
  cases mode <;> rw [NulFree] <;> decide

/-- The word of a mode determines it. -/
theorem word_injective {left right : AttestationMode} (same : left.word = right.word) :
    left = right := by
  cases left <;> cases right <;> first | rfl | exact absurd same (by decide)

/-- The bytes of an unambiguous object determine it. -/
theorem determined_of_unambiguous {object : SignedObject} (clear : object.Unambiguous) :
    object.Determined := by
  intro other same
  have kinds := kind_eq same
  match object, other with
  | .challenge issued carried, .challenge presented also =>
    obtain ⟨sender, receiver⟩ := clear
    have size : (SignedObject.challenge presented also).rest.length =
        (SignedObject.challenge issued carried).rest.length := by
      simp [rest, length_beBytes, issued.nonce.property, presented.nonce.property]
    obtain ⟨texts, rests⟩ := parts_eq same rfl size (by
      simp [SignedObject.texts, sender, receiver])
    simp only [SignedObject.texts, List.cons.injEq, and_true] at texts
    obtain ⟨nonces, times⟩ := List.append_inj (List.cons.inj rests).2
      (presented.nonce.property.trans issued.nonce.property.symm)
    have equal : presented = issued := by
      cases presented
      cases issued
      simp_all only [Challenge.mk.injEq]
      exact ⟨trivial, trivial, Subtype.ext nonces, beBytes_injective times⟩
    subst equal
    rfl
  | .attestation bound, .attestation presented =>
    obtain ⟨⟨domain, user⟩, address, pubkey⟩ := clear
    obtain ⟨texts, -⟩ := parts_eq same rfl rfl (by
      simp [SignedObject.texts, domain, user, address, pubkey, nulFree_word])
    simp only [SignedObject.texts, List.cons.injEq, and_true] at texts
    obtain ⟨domains, users, words, addresses, pubkeys⟩ := texts
    simp [unsigned, domains, users, word_injective words, addresses, pubkeys]
  | .registration record, .registration presented =>
    obtain ⟨⟨domain, username⟩, commitment, given, named, pubkey, free⟩ := clear
    have size : (SignedObject.registration presented).rest.length =
        (SignedObject.registration record).rest.length := by
      simp [rest, length_beBytes]
    obtain ⟨texts, rests⟩ := parts_eq same rfl size (by
      simp [SignedObject.texts, domain, username, pubkey, given, free])
    simp only [SignedObject.texts, given, Option.getD_some, List.cons.injEq, and_true] at texts
    obtain ⟨domains, usernames, pubkeys, commitments⟩ := texts
    have times := beBytes_injective (List.cons.inj rests).2
    cases found : presented.ivkCommitment with
    | none =>
      rw [found] at commitments
      exact absurd commitments.symm named
    | some other =>
      rw [found] at commitments
      simp [unsigned, domains, usernames, pubkeys, found, given, times] at commitments ⊢
      exact commitments
  | .challenge _ _, .attestation _ | .challenge _ _, .registration _
  | .attestation _, .challenge _ _ | .attestation _, .registration _
  | .registration _, .challenge _ _ | .registration _, .attestation _ => cases kinds

/-! ## Ambiguous objects -/

/-- The texts of a determined challenge have no zero. -/
theorem free_challenge {issued : Challenge} {carried : issued.Carried}
    (determined : (SignedObject.challenge issued carried).Determined) :
    NulFree issued.senderDomain ∧ NulFree issued.receiverDomain := by
  refine free_of_unshifted fun first second shifted same => ?_
  have free : ∀ c ∈ first.toList ++ '\x00' :: second.toList, c ≠ '|' := by
    rw [shifted]
    rintro c member rfl
    rcases List.mem_append.mp member with inside | inside
    · exact carried.1 inside
    · rcases List.mem_cons.mp inside with zero | inside
      · exact absurd zero (by decide)
      · exact carried.2 inside
  have also : Challenge.Carried ⟨first, second, issued.nonce, issued.issuedAt⟩ :=
    ⟨fun inside => free '|' (List.mem_append_left _ inside) rfl,
      fun inside => free '|' (List.mem_append_right _ (List.mem_cons_of_mem _ inside)) rfl⟩
  have equal := determined (.challenge ⟨first, second, issued.nonce, issued.issuedAt⟩ also) (by
    simp only [preimage, Challenge.preimage, List.append_assoc, same])
  exact congrArg Challenge.senderDomain (SignedObject.challenge.inj equal)

/-- The texts of a determined attestation have no zero. -/
theorem free_attestation {bound : Attestation}
    (determined : (SignedObject.attestation bound).Determined) :
    (NulFree bound.domain ∧ NulFree bound.user) ∧
      (NulFree bound.address ∧ NulFree bound.pubkey) := by
  constructor
  · refine free_of_unshifted fun first second _ same => ?_
    have equal := determined (.attestation { bound with domain := first, user := second }) (by
      simp only [preimage, Attestation.preimage, List.append_assoc, same])
    exact congrArg Attestation.domain (SignedObject.attestation.inj equal)
  · refine free_of_unshifted fun first second _ same => ?_
    have equal := determined (.attestation { bound with address := first, pubkey := second }) (by
      have ends := same []
      rw [List.append_nil, List.append_nil] at ends
      simp only [preimage, Attestation.preimage, List.append_assoc, ends])
    exact congrArg Attestation.address (SignedObject.attestation.inj equal)

/-- A determined registration has a commitment that is not empty. -/
theorem commitment_of_determined {record : RegistrationAttestation}
    (determined : (SignedObject.registration record).Determined) :
    ∃ commitment, record.ivkCommitment = some commitment ∧ commitment ≠ "" := by
  have flattened : ∀ other : Option String, other.getD "" = record.ivkCommitment.getD "" →
      other = record.ivkCommitment := by
    intro other flat
    have equal := determined (.registration { record with ivkCommitment := other }) (by
      simp only [preimage, RegistrationAttestation.preimage, flat])
    exact congrArg RegistrationAttestation.ivkCommitment (SignedObject.registration.inj equal)
  cases given : record.ivkCommitment with
  | none =>
    rw [given] at flattened
    cases flattened (some "") rfl
  | some commitment =>
    refine ⟨commitment, rfl, fun empty => ?_⟩
    rw [given, empty] at flattened
    cases flattened none rfl

/-- The texts of a determined registration have no zero. -/
theorem free_registration {record : RegistrationAttestation} {commitment : String}
    (given : record.ivkCommitment = some commitment)
    (determined : (SignedObject.registration record).Determined) :
    (NulFree record.domain ∧ NulFree record.username) ∧
      (NulFree record.masterPubkey ∧ NulFree commitment) := by
  constructor
  · refine free_of_unshifted fun first second _ same => ?_
    have equal := determined (.registration { record with domain := first, username := second }) (by
      simp only [preimage, RegistrationAttestation.preimage, List.append_assoc, same])
    exact congrArg RegistrationAttestation.domain (SignedObject.registration.inj equal)
  · refine free_of_unshifted fun first second _ same => ?_
    have equal := determined
      (.registration { record with masterPubkey := first, ivkCommitment := some second }) (by
        simp only [preimage, RegistrationAttestation.preimage, List.append_assoc, given,
          Option.getD_some, same])
    exact congrArg RegistrationAttestation.masterPubkey (SignedObject.registration.inj equal)

/-- For every object that is signed: its bytes are those of no object of any kind that differs in
more than the signature, just when none of its texts has a zero and, if it is a registration, it has
a commitment that is not empty. -/
theorem signed_bytes_bind_iff (object : SignedObject) :
    object.Determined ↔ object.Unambiguous := by
  refine ⟨fun determined => ?_, determined_of_unambiguous⟩
  cases object with
  | challenge issued carried => exact free_challenge determined
  | attestation bound => exact free_attestation determined
  | registration record =>
    obtain ⟨commitment, given, named⟩ := commitment_of_determined determined
    obtain ⟨names, pubkey, free⟩ := free_registration given determined
    exact ⟨names, commitment, given, named, pubkey, free⟩

/-- A registration without a commitment, and one with an empty commitment. -/
theorem empty_commitment_unbound :
    let without : RegistrationAttestation := ⟨"b.io", "bob", "00", none, 0, []⟩
    let empty : RegistrationAttestation := ⟨"b.io", "bob", "00", some "", 0, []⟩
    (registration without).preimage = (registration empty).preimage ∧
      (registration without).unsigned ≠ (registration empty).unsigned := by
  refine ⟨rfl, fun same => ?_⟩
  cases congrArg RegistrationAttestation.ivkCommitment (SignedObject.registration.inj same)

end SignedObject

end Talk.Verif.SignedBytes
