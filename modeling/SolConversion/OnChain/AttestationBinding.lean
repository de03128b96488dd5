import SolConversion.Foundation.DecimalText
import SolConversion.OnChain.LocalDeployment

/-!
# What an attestation binds

The text an oracle signs determines the swap rate and the timestamp in it, so a signature accepted
for a price is a signature of this very price.  The age of a price is compared in machine arithmetic
that aborts on overflow, which accepts exactly the prices that are fresh over the integers.
-/

namespace SolConversion.OnChain

open FixedWidth Fallible

/-- The text an oracle signs for a swap rate and a timestamp. -/
def attestationText (swapRate : UInt64) (timestamp : Int64) : String :=
  toString swapRate.toNat ++ "|" ++ toString timestamp.toInt

theorem attestationMessage_eq (oraclePriceData : OraclePriceData) :
    attestationMessage oraclePriceData =
      (attestationText oraclePriceData.swapRate oraclePriceData.timestamp).toUTF8.toList := rfl

/-- The text determines both numbers. -/
theorem attestationText_inj {swapRate swapRate' : UInt64} {timestamp timestamp' : Int64}
    (same : attestationText swapRate timestamp = attestationText swapRate' timestamp') :
    swapRate = swapRate' ∧ timestamp = timestamp' := by
  obtain ⟨rate_eq, time_eq⟩ :=
    DecimalText.toString_separated_inj (show "|".toList = ['|'] by decide) (by decide) same
  exact ⟨UInt64.toNat_inj.mp rate_eq, Int64.toInt_inj.mp time_eq⟩

private theorem age_of_fresh {now timestamp priceMaximumAge : Int64}
    (fresh : |now.toInt - timestamp.toInt| ≤ priceMaximumAge.toInt) :
    ∃ elapsed difference, subI64 now timestamp = some elapsed ∧
      absI64 elapsed = some difference ∧ difference ≤ priceMaximumAge := by
  have age_lt := priceMaximumAge.toInt_lt
  have bounds := abs_le.mp fresh
  obtain ⟨elapsed, elapsed_eq⟩ : ∃ elapsed : Int64, now.toInt - timestamp.toInt = elapsed.toInt :=
    ⟨Int64.ofInt (now.toInt - timestamp.toInt),
      (Int64.toInt_ofInt_of_le (by omega) (by omega)).symm⟩
  have magnitude_nonneg := abs_nonneg (now.toInt - timestamp.toInt)
  obtain ⟨difference, difference_eq⟩ :
      ∃ difference : Int64, |now.toInt - timestamp.toInt| = difference.toInt :=
    ⟨Int64.ofInt |now.toInt - timestamp.toInt|,
      (Int64.toInt_ofInt_of_le (by omega) (by omega)).symm⟩
  refine ⟨elapsed, difference, subI64_eq_some.mpr elapsed_eq, ?_, ?_⟩
  · rw [absI64_eq_some, ← elapsed_eq, difference_eq]
  · rw [Int64.le_iff_toInt_le, ← difference_eq]
    exact fresh

private theorem verifyAttestation_of_attested {platform : Platform} {clock : Clock}
    {oraclePriceData : OraclePriceData} {oraclePublicKey : Pubkey} {priceMaximumAge : Int64}
    (attested : Attested platform oraclePublicKey priceMaximumAge clock oraclePriceData) :
    verifyAttestation platform clock oraclePriceData oraclePublicKey priceMaximumAge = .ok () := by
  obtain ⟨⟨signature, decoded, valid⟩, positive, fresh⟩ := attested
  obtain ⟨elapsed, difference, subtracted, magnitude, young⟩ := age_of_fresh fresh
  simp only [verifyAttestation, bind_eq_ok, orFail_eq_ok, require_eq_ok, checked_eq_ok]
  exact ⟨signature, decoded, (), valid, (), positive, elapsed, subtracted, difference, magnitude,
    young⟩

/-- Verification accepts the attested prices and no others. -/
theorem verifyAttestation_eq_ok {platform : Platform} {clock : Clock}
    {oraclePriceData : OraclePriceData} {oraclePublicKey : Pubkey} {priceMaximumAge : Int64} :
    verifyAttestation platform clock oraclePriceData oraclePublicKey priceMaximumAge = .ok () ↔
      Attested platform oraclePublicKey priceMaximumAge clock oraclePriceData :=
  ⟨attested_of_verifyAttestation, verifyAttestation_of_attested⟩

/-- The key signed the prices of `pairs` only: every message it verifies is the text of one. -/
def SignsOnly (platform : Platform) (oraclePublicKey : Pubkey) (pairs : Set (UInt64 × Int64)) :
    Prop :=
  ∀ message signature, platform.sigVerify oraclePublicKey message signature = true →
    ∃ pair ∈ pairs, message = (attestationText pair.1 pair.2).toUTF8.toList

/-- A price verified under a key that signed some prices only is one of these. -/
theorem mem_of_attested {platform : Platform} {clock : Clock}
    {oraclePriceData : OraclePriceData} {oraclePublicKey : Pubkey} {priceMaximumAge : Int64}
    {pairs : Set (UInt64 × Int64)} (signs : SignsOnly platform oraclePublicKey pairs)
    (attested : Attested platform oraclePublicKey priceMaximumAge clock oraclePriceData) :
    (oraclePriceData.swapRate, oraclePriceData.timestamp) ∈ pairs := by
  obtain ⟨signature, -, valid⟩ := attested.signed
  obtain ⟨⟨swapRate, timestamp⟩, member, message_eq⟩ := signs _ signature valid
  rw [attestationMessage_eq, DecimalText.toUTF8_toList_inj] at message_eq
  obtain ⟨rate_eq, time_eq⟩ := attestationText_inj message_eq
  rwa [rate_eq, time_eq]

/-- The signed text binds both numbers, and verification accepts exactly the positive prices whose
own text is signed and whose distance from the clock is at most the maximum age. -/
theorem attestation_binds (platform : Platform) (oraclePublicKey : Pubkey) :
    (∀ (swapRate swapRate' : UInt64) (timestamp timestamp' : Int64),
      attestationText swapRate timestamp = attestationText swapRate' timestamp' →
        swapRate = swapRate' ∧ timestamp = timestamp') ∧
    ∀ (clock : Clock) (oraclePriceData : OraclePriceData) (priceMaximumAge : Int64),
      (verifyAttestation platform clock oraclePriceData oraclePublicKey priceMaximumAge = .ok () ↔
        (∃ signature, platform.base64Decode oraclePriceData.signature = some signature ∧
          platform.sigVerify oraclePublicKey (attestationText oraclePriceData.swapRate
            oraclePriceData.timestamp).toUTF8.toList signature = true) ∧
        0 < oraclePriceData.swapRate ∧
        |clock.unixTimestamp.toInt - oraclePriceData.timestamp.toInt| ≤
          priceMaximumAge.toInt) ∧
      ∀ pairs, SignsOnly platform oraclePublicKey pairs →
        verifyAttestation platform clock oraclePriceData oraclePublicKey priceMaximumAge = .ok () →
        (oraclePriceData.swapRate, oraclePriceData.timestamp) ∈ pairs := by
  refine ⟨fun _ _ _ _ => attestationText_inj, fun clock oraclePriceData priceMaximumAge => ?_⟩
  rw [verifyAttestation_eq_ok]
  refine ⟨⟨?_, ?_⟩, fun pairs signs => mem_of_attested signs⟩
  · rintro ⟨signed, positive, fresh⟩
    exact ⟨signed, positive, fresh⟩
  · rintro ⟨signed, positive, fresh⟩
    exact ⟨signed, positive, fresh⟩

theorem signsOnly_local :
    SignsOnly Local.platform Local.oraclePubkey {(200000000, 1700000000)} := by
  intro message signature valid
  have facts : Local.oraclePubkey = Local.oraclePubkey ∧ message = Local.priceMessage ∧
      signature = Local.priceSignature := of_decide_eq_true valid
  refine ⟨_, Set.mem_singleton _, ?_⟩
  rw [facts.2.1]
  decide +kernel

theorem attestation_binds_local :
    SignsOnly Local.platform Local.oraclePubkey {(200000000, 1700000000)} ∧
      (Local.price.swapRate, Local.price.timestamp) ∈
        ({(200000000, 1700000000)} : Set (UInt64 × Int64)) :=
  ⟨signsOnly_local, ((attestation_binds Local.platform Local.oraclePubkey).2
    (Local.context 200 Local.ledger).clock Local.price 324).2 _ signsOnly_local Local.verified⟩

end SolConversion.OnChain
