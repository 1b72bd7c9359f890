import Talk.Protocol.Handshake

/-!
# The age of a challenge

The time of a challenge is a number of the peer's choice, and its age is computed from it before
anything is checked. A build with overflow checks panics where the difference leaves the signed
64-bit range, other builds wrap around. Both are compared here with the difference over the
integers.
-/

namespace Talk.Verif.ChallengeAge

open Protocol

/-! ## Differences of 64-bit integers -/

/-- The difference of two `i64` over the integers. -/
def difference (left right : Int64) : Int := left.toInt - right.toInt

/-- A difference that is an `i64`. -/
def Fits (left right : Int64) : Prop :=
  -2 ^ 63 ≤ difference left right ∧ difference left right < 2 ^ 63

instance (left right : Int64) : Decidable (Fits left right) :=
  inferInstanceAs (Decidable (_ ∧ _))

/-- `i64` subtraction in a build with overflow checks; `none` is the panic. -/
def checkedSub (left right : Int64) : Option Int64 :=
  if Fits left right then some (left - right) else none

/-- A difference that fits is computed. -/
theorem toInt_sub_of_fits {left right : Int64} (fits : Fits left right) :
    (left - right).toInt = difference left right := by
  rw [Int64.toInt_sub]
  exact Int.bmod_eq_of_le fits.1 fits.2

/-- A difference below the range wraps around to above zero, and one above it to below zero. -/
theorem toInt_sub_of_not_fits {left right : Int64} (large : ¬Fits left right) :
    (2 ^ 63 ≤ difference left right ∧ (left - right).toInt = difference left right - 2 ^ 64) ∨
      (difference left right < -2 ^ 63 ∧
        (left - right).toInt = difference left right + 2 ^ 64) := by
  have leftLow := Int64.le_toInt left
  have leftHigh := Int64.toInt_lt left
  have rightLow := Int64.le_toInt right
  have rightHigh := Int64.toInt_lt right
  rw [Int64.toInt_sub]
  change (2 ^ 63 ≤ difference left right ∧ (difference left right).bmod (2 ^ 64) = _) ∨
    (difference left right < -2 ^ 63 ∧ (difference left right).bmod (2 ^ 64) = _)
  have spread : -2 ^ 64 < difference left right ∧ difference left right < 2 ^ 64 := by
    unfold difference
    omega
  unfold Fits at large
  rw [Int.bmod_def]
  omega

/-! ## The verification in both builds -/

/-- `ChallengeResponse::verify` in a build with overflow checks; `none` is the panic. -/
def verifyChecked (crypto : Crypto) (response : ChallengeResponse)
    (receiverPub : crypto.VerifyingKey) (maxAge now : Int64) :
    Option (Except HandshakeError Unit) :=
  if response.challenge.senderDomain = "" ∨ response.challenge.receiverDomain = "" then
    some (.error .domainMismatch)
  else
    match checkedSub now response.challenge.issuedAt with
    | none => none
    | some age =>
      if maxAge < age ∨ age < 0 then some (.error (.stale maxAge))
      else if size : response.signature.length = 64 then
        if crypto.verify receiverPub (response.challenge.digest crypto).val
            ⟨response.signature, size⟩ then some (.ok ())
        else some (.error .badSignature)
      else some (.error .badSignature)

/-- Both domains of a challenge are named. -/
def Named (challenge : Challenge) : Prop :=
  challenge.senderDomain ≠ "" ∧ challenge.receiverDomain ≠ ""

/-- The age computation does not overflow, and the age check passes exactly when the age over the
integers is between zero and the limit. -/
def AgeSafe (crypto : Crypto) (response : ChallengeResponse) (receiverPub : crypto.VerifyingKey)
    (maxAge now : Int64) : Prop :=
  verifyChecked crypto response receiverPub maxAge now ≠ none ∧
    (Named response.challenge →
      (response.verify crypto receiverPub maxAge now ≠ .error (.stale maxAge) ↔
        0 ≤ difference now response.challenge.issuedAt ∧
          difference now response.challenge.issuedAt ≤ maxAge.toInt))

variable {crypto : Crypto} {response : ChallengeResponse} {receiverPub : crypto.VerifyingKey}
  {maxAge now : Int64}

/-- The build with overflow checks panics exactly when both domains are named and the age is no
`i64`. -/
theorem verifyChecked_eq_none_iff :
    verifyChecked crypto response receiverPub maxAge now = none ↔
      Named response.challenge ∧ ¬Fits now response.challenge.issuedAt := by
  by_cases unnamed : response.challenge.senderDomain = "" ∨ response.challenge.receiverDomain = ""
  · have other : ¬Named response.challenge := fun named => unnamed.elim named.1 named.2
    simp [verifyChecked, unnamed, other]
  · have named : Named response.challenge := not_or.mp unnamed
    by_cases fits : Fits now response.challenge.issuedAt
    · simp only [verifyChecked, if_neg unnamed, checkedSub, if_pos fits]
      split_ifs <;> simp [fits]
    · simp [verifyChecked, unnamed, checkedSub, fits, named]

/-- Where the build with overflow checks does not panic, both builds agree. -/
theorem verify_of_verifyChecked {result : Except HandshakeError Unit}
    (returned : verifyChecked crypto response receiverPub maxAge now = some result) :
    response.verify crypto receiverPub maxAge now = result := by
  by_cases unnamed : response.challenge.senderDomain = "" ∨ response.challenge.receiverDomain = ""
  · rw [verifyChecked, if_pos unnamed] at returned
    rw [ChallengeResponse.verify, if_pos unnamed, Option.some.inj returned]
  · have fits : Fits now response.challenge.issuedAt := by
      by_contra large
      rw [verifyChecked_eq_none_iff.mpr ⟨not_or.mp unnamed, large⟩] at returned
      cases returned
    have stale : (maxAge < now - response.challenge.issuedAt ∨
        now - response.challenge.issuedAt < 0) ↔
        ChallengeResponse.fresh response.challenge maxAge now = false := by
      simp only [ChallengeResponse.fresh, decide_eq_false_iff_not, Int64.lt_iff_toInt_lt,
        Int64.le_iff_toInt_le]
      omega
    simp only [verifyChecked, if_neg unnamed, checkedSub, if_pos fits, stale] at returned
    simp only [ChallengeResponse.verify, if_neg unnamed]
    split_ifs at returned ⊢ <;> exact Option.some.inj returned

/-- A challenge with both domains is refused as stale exactly when its age check fails. -/
theorem verify_stale_iff (named : Named response.challenge) :
    response.verify crypto receiverPub maxAge now ≠ .error (.stale maxAge) ↔
      ChallengeResponse.fresh response.challenge maxAge now = true := by
  have unnamed : ¬(response.challenge.senderDomain = "" ∨
      response.challenge.receiverDomain = "") := not_or.mpr named
  rw [ChallengeResponse.verify, if_neg unnamed]
  split_ifs <;> simp_all

/-! ## When the age is safe -/

/-- An age that is an `i64` is checked as over the integers. -/
theorem fresh_iff_of_fits {challenge : Challenge} (fits : Fits now challenge.issuedAt) :
    ChallengeResponse.fresh challenge maxAge now = true ↔
      0 ≤ difference now challenge.issuedAt ∧
        difference now challenge.issuedAt ≤ maxAge.toInt := by
  have age := toInt_sub_of_fits fits
  have zero : (0 : Int64).toInt = 0 := by decide
  simp only [ChallengeResponse.fresh, decide_eq_true_eq, Int64.le_iff_toInt_le, age, zero]
  exact and_comm

/-- With a clock that stands after 1970 the build that wraps around decides as over the integers,
whatever time the challenge carries. -/
theorem fresh_iff_of_clock {challenge : Challenge} (clock : 0 ≤ now.toInt) :
    ChallengeResponse.fresh challenge maxAge now = true ↔
      0 ≤ difference now challenge.issuedAt ∧
        difference now challenge.issuedAt ≤ maxAge.toInt := by
  by_cases fits : Fits now challenge.issuedAt
  · exact fresh_iff_of_fits fits
  · have low := Int64.le_toInt challenge.issuedAt
    have high := Int64.toInt_lt challenge.issuedAt
    have present := Int64.toInt_lt now
    have limit := Int64.toInt_lt maxAge
    have large := toInt_sub_of_not_fits fits
    have zero : (0 : Int64).toInt = 0 := by decide
    simp only [ChallengeResponse.fresh, decide_eq_true_eq, Int64.le_iff_toInt_le, zero]
    -- The difference is too large, so what wraps around is negative.
    unfold difference at large ⊢
    omega

/-- The age of a challenge is safe exactly when a domain is missing or the challenge's time is
less than 2^63 seconds before the clock and at most 2^63 seconds after it. -/
theorem age_safe_iff (crypto : Crypto) (response : ChallengeResponse)
    (receiverPub : crypto.VerifyingKey) (maxAge now : Int64) :
    AgeSafe crypto response receiverPub maxAge now ↔
      response.challenge.senderDomain = "" ∨ response.challenge.receiverDomain = "" ∨
        now.toInt - 2 ^ 63 < response.challenge.issuedAt.toInt ∧
          response.challenge.issuedAt.toInt ≤ now.toInt + 2 ^ 63 := by
  have range : Fits now response.challenge.issuedAt ↔
      now.toInt - 2 ^ 63 < response.challenge.issuedAt.toInt ∧
        response.challenge.issuedAt.toInt ≤ now.toInt + 2 ^ 63 := by
    unfold Fits difference
    omega
  rw [← range, AgeSafe, Ne, verifyChecked_eq_none_iff, not_and, not_not]
  by_cases named : Named response.challenge
  · rw [or_iff_right named.1, or_iff_right named.2]
    constructor
    · intro safe
      exact safe.1 named
    · intro fits
      exact ⟨fun _ => fits, fun _ => (verify_stale_iff named).trans (fresh_iff_of_fits fits)⟩
  · have missing : response.challenge.senderDomain = "" ∨
        response.challenge.receiverDomain = "" := by
      by_contra both
      exact named (not_or.mp both)
    rw [← or_assoc]
    exact iff_of_true ⟨fun other => absurd other named, fun other => absurd other named⟩
      (.inl missing)

/-- What the build with overflow checks returns the other build returns too; and with a clock that
stands after 1970 the other build refuses a challenge as stale exactly when its age over the
integers is not between zero and the limit, whatever time it carries. -/
theorem wrapping_is_safe (crypto : Crypto) (response : ChallengeResponse)
    (receiverPub : crypto.VerifyingKey) (maxAge now : Int64) :
    (∀ result, verifyChecked crypto response receiverPub maxAge now = some result →
      response.verify crypto receiverPub maxAge now = result) ∧
    (0 ≤ now.toInt → Named response.challenge →
      (response.verify crypto receiverPub maxAge now = .error (.stale maxAge) ↔
        ¬(0 ≤ difference now response.challenge.issuedAt ∧
          difference now response.challenge.issuedAt ≤ maxAge.toInt))) := by
  refine ⟨fun result returned => verify_of_verifyChecked returned, fun clock named => ?_⟩
  rw [← fresh_iff_of_clock clock, ← verify_stale_iff named, ne_eq, not_not]

/-- A challenge whose time is the least 64-bit number. -/
def ancient : Challenge := ⟨"a.org", "b.org", Hex.Block.replicate 16 7, Int64.minValue⟩

/-- The least 64-bit time is read from the wire, and its age is no `i64` in 2023. -/
theorem least_time_overflows :
    ¬∀ text challenge, Challenge.fromWire text = some challenge →
      ∀ signature now, AgeSafe Crypto.mirror ⟨challenge, signature⟩ () maxChallengeAge now := by
  intro safe
  have read : Challenge.fromWire ancient.toWire = some ancient :=
    Challenge.fromWire_toWire (by decide)
  have panics : verifyChecked Crypto.mirror ⟨ancient, []⟩ () maxChallengeAge 1700000000 = none :=
    verifyChecked_eq_none_iff.mpr ⟨⟨by decide, by decide⟩, by decide⟩
  exact (safe _ _ read [] 1700000000).1 panics

end Talk.Verif.ChallengeAge
