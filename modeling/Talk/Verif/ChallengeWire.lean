import Talk.Protocol.Handshake

/-!
# The wire format of a challenge

A challenge can be read from several texts, since a nonce may be written in capitals and a time with
a plus sign or with zeros before it. It is always written in one way, and read back from that when
its domains hold no separator, as in every challenge that was read. The last separator cuts off the
signature that an answer has behind the challenge.
-/

namespace Talk.Verif.ChallengeWire

open Protocol Text

/-- Hexadecimal text behind a challenge is cut off at the last separator. -/
theorem rsplitOnce_signature (challenge : Challenge) {signatureHex : String}
    {signature : List UInt8} (read : Hex.decode signatureHex = some signature) :
    rsplitOnce '|' (challenge.toWire ++ "|" ++ signatureHex) =
      some (challenge.toWire, signatureHex) :=
  rsplitOnce_join challenge.toWire (Hex.free_of_decode read (by decide) (by decide))

/-- A carried challenge is read back from its wire text; what is read from any text is a carried
challenge; and a signature behind the wire text of any challenge is cut off again. -/
theorem wire_format :
    (∀ challenge : Challenge, challenge.Carried →
      Challenge.fromWire challenge.toWire = some challenge) ∧
    (∀ text challenge, Challenge.fromWire text = some challenge →
      challenge.Carried ∧ Challenge.fromWire challenge.toWire = some challenge) ∧
    (∀ (challenge : Challenge) (signature : List UInt8),
      rsplitOnce '|' (challenge.toWire ++ "|" ++ Hex.encode signature) =
        some (challenge.toWire, Hex.encode signature)) ∧
    ∀ (challenge : Challenge) signatureHex, (Hex.decode signatureHex).isSome →
      rsplitOnce '|' (challenge.toWire ++ "|" ++ signatureHex) =
        some (challenge.toWire, signatureHex) := by
  refine ⟨fun challenge carried => Challenge.fromWire_toWire carried, fun text challenge read => ?_,
    fun challenge signature => ?_, fun challenge signatureHex valid => ?_⟩
  · have carried := Challenge.carried_of_fromWire read
    exact ⟨carried, Challenge.fromWire_toWire carried⟩
  · exact rsplitOnce_signature challenge (Hex.decode_encode signature)
  · obtain ⟨signature, read⟩ := Option.isSome_iff_exists.mp valid
    exact rsplitOnce_signature challenge read

/-- Capitals, a plus sign and zeros are not written again. -/
example : (Challenge.fromWire "a.org|b.org|0A0B0C0D0E0F00010203040506070809|+007").map
    Challenge.toWire = some "a.org|b.org|0a0b0c0d0e0f00010203040506070809|7" := by
  decide +kernel

end Talk.Verif.ChallengeWire
