import LowestTerms.Proofs.Decimal.Quotient
import LowestTerms.Proofs.Fraction.Closure
import LowestTerms.Proofs.Fraction.Order

/-!
Fractions and decimals. Reading a decimal is exact on both of its paths, and the parts of what is
read fit a mantissa again. Parts that fit are written as the library rounds their quotient, also
where no quotient is computed, so a decimal that is read and written again is the same number.
-/

namespace LowestTerms

namespace Decimal

theorem ofInt_valid {value : Int} (fits : value.natAbs < limit) : (ofInt value).Valid :=
  ⟨fits, Nat.zero_le _⟩

theorem value_ofInt (value : Int) : (ofInt value).value = value := by
  have restored : Numeral.withSign (decide (value < 0)) value.natAbs = value := by
    simp only [Numeral.withSign, decide_eq_true_eq]
    split <;> omega
  rw [ofInt, value_whole, ← withSign_eq, restored]

theorem ofInt?_of_fits {value : Int} (fits : value.natAbs < limit) :
    ofInt? value = some (ofInt value) :=
  if_pos fits

theorem value_eq_div (d : Decimal) : d.value = d.signedMantissa / 10 ^ d.scale := by
  rw [value, Rat.mkRat_eq_div, Nat.pow_eq]
  push_cast
  rfl

theorem value_num_fits {d : Decimal} (valid : d.Valid) : d.value.num.natAbs < limit := by
  have divides : d.value.num ∣ d.signedMantissa := by
    rw [value, Rat.mkRat_eq_divInt]
    exact Rat.num_dvd _ (by exact_mod_cast (powerOfTen_pos d.scale).ne')
  have mantissa : d.signedMantissa.natAbs = d.mantissa := natAbs_withSign _ _
  by_cases isZero : d.mantissa = 0
  · -- Everything divides zero, so here the divisor has no bound from the dividend.
    rw [(value_eq_zero_iff d).mpr isZero]
    decide
  · have atMost : d.value.num.natAbs ≤ d.mantissa := by
      rw [← mantissa]
      exact Nat.le_of_dvd (by omega) (Int.natAbs_dvd_natAbs.mpr divides)
    exact lt_of_le_of_lt atMost valid.1

theorem value_den_fits {d : Decimal} (valid : d.Valid) : d.value.den < limit := by
  have divides : (d.value.den : Int) ∣ (10 ^ d.scale : Nat) := by
    rw [value, Rat.mkRat_eq_divInt]
    exact Rat.den_dvd _ _
  have atMost : d.value.den ≤ 10 ^ d.scale :=
    Nat.le_of_dvd (powerOfTen_pos d.scale) (Int.natCast_dvd_natCast.mp divides)
  have largest : 10 ^ d.scale ≤ 10 ^ maxScale := Nat.pow_le_pow_right (by decide) valid.2
  exact lt_of_le_of_lt (atMost.trans largest) (by decide)

end Decimal

namespace Fraction

open Decimal (IsRounded limit ofInt_valid ofInt?_of_fits value_ofInt)

theorem reduce_signedMantissa (d : Decimal) :
    reduce d.signedMantissa (Int.pow 10 d.scale) = ofRat d.value := by
  rw [reduce_powerOfTen, d.value_eq_div]

theorem ofDecimal_eq_ofRat (d : Decimal) : ofDecimal d = ofRat d.value := by
  unfold ofDecimal
  split
  · rename_i isWhole
    have rest : d.value - d.trunc.value = 0 := by
      rw [← d.value_fract]
      exact (Decimal.isZero_iff d.fract).mp isWhole
    have whole : d.trunc.value = d.trunc.signedMantissa := by
      rw [d.trunc.value_eq_div]
      exact div_one _
    rw [ofInt_eq_ofRat, sub_eq_zero.mp rest, whole]
  · exact reduce_signedMantissa d

theorem value_ofDecimal (d : Decimal) : (ofDecimal d).value = d.value := by
  rw [ofDecimal_eq_ofRat, value_ofRat]

theorem toDecimal_whole (library : Decimal.Library) {x : Fraction} (whole : x.isWhole = true) :
    x.toDecimal library =
      if x.numerator.natAbs < limit then .ok (.ofInt x.numerator)
      else .error (.overflow .wholeDecimal) := by
  rw [toDecimal, if_pos (beq_iff_eq.mp whole), Decimal.ofInt?]
  by_cases fits : x.numerator.natAbs < limit
  · rw [if_pos fits, if_pos fits]
  · rw [if_neg fits, if_neg fits]

theorem toDecimal_whole_overflow_iff (library : Decimal.Library) {x : Fraction}
    (whole : x.isWhole = true) :
    (∃ result, x.toDecimal library = .error (.overflow result)) ↔
      2 ^ 96 ≤ x.numerator.natAbs := by
  rw [toDecimal_whole library whole]
  change _ ↔ limit ≤ _
  split
  · rename_i fits
    simpa using fits
  · rename_i tooLarge
    simpa using tooLarge

section

variable {library : Decimal.Library} (rounds : library.RoundsQuotients) {x : Fraction}
  (valid : x.Valid)

include rounds valid

theorem exactQuotient?_rounds (numeratorFits : x.numerator.natAbs < limit)
    (denominatorFits : x.denominator.natAbs < limit) :
    ∃ d, x.exactQuotient? library = some d ∧ IsRounded x.value d := by
  have nonzero : (Decimal.ofInt x.denominator).mantissa ≠ 0 :=
    Int.natAbs_ne_zero.mpr valid.denominator_ne_zero
  obtain ⟨d, found, rounded⟩ := rounds _ _ (ofInt_valid numeratorFits)
    (ofInt_valid denominatorFits) rfl rfl nonzero
  rw [value_ofInt, value_ofInt, ← valid.value_eq_parts] at rounded
  refine ⟨d, ?_, rounded⟩
  simp only [exactQuotient?, ofInt?_of_fits numeratorFits, ofInt?_of_fits denominatorFits,
    Option.bind_eq_bind, Option.bind_some, found]

/-- Writing never fails on parts that fit, and always rounds the value as a quotient is rounded. -/
theorem toDecimal_rounds (numeratorFits : x.numerator.natAbs < limit)
    (denominatorFits : x.denominator.natAbs < limit) :
    ∃ d, x.toDecimal library = .ok d ∧ IsRounded x.value d := by
  by_cases whole : x.isWhole = true
  · have value : (Decimal.ofInt x.numerator).value = x.value := by
      rw [value_ofInt, valid.value_eq_parts, beq_iff_eq.mp whole, Int.cast_one, div_one]
    rw [toDecimal_whole library whole, if_pos numeratorFits, ← value]
    exact ⟨_, rfl, Decimal.isRounded_value (ofInt_valid numeratorFits)⟩
  · rw [toDecimal, if_neg (mt beq_iff_eq.mpr whole)]
    by_cases isZero : x.isZero = true
    · -- A zero that exists is whole, but the answer would be right even if this one were not.
      have value : Decimal.zero.value = x.value := by
        rw [valid.isZero_iff.mp isZero, Decimal.value_eq_zero_iff]
        rfl
      rw [if_pos isZero, ← value]
      exact ⟨_, rfl, Decimal.isRounded_value (by decide)⟩
    · obtain ⟨d, found, rounded⟩ :=
        exactQuotient?_rounds rounds valid numeratorFits denominatorFits
      rw [if_neg isZero, found]
      exact ⟨d, rfl, rounded⟩

theorem toDecimal_exact {d : Decimal} (dValid : d.Valid) (same : d.value = x.value) :
    ∃ written, x.toDecimal library = .ok written ∧ written.Valid ∧ written.value = x.value := by
  have numeratorFits : x.numerator.natAbs < limit := by
    rw [valid.numerator_eq, ← same]
    exact Decimal.value_num_fits dValid
  have denominatorFits : x.denominator.natAbs < limit := by
    rw [valid.denominator_eq, ← same]
    exact Decimal.value_den_fits dValid
  obtain ⟨written, found, rounded⟩ :=
    toDecimal_rounds rounds valid numeratorFits denominatorFits
  exact ⟨written, found, rounded.1, rounded.exact dValid same⟩

end

/-- Every decimal is read exactly and written back as the same number. -/
theorem decimal_round_trip {library : Decimal.Library} (rounds : library.RoundsQuotients) :
    (∀ d : Decimal, d.Valid →
      (ofDecimal d).value = d.signedMantissa / 10 ^ d.scale ∧
      ofDecimal d = reduce d.signedMantissa (Int.pow 10 d.scale) ∧
      ∃ written, (ofDecimal d).toDecimal library = .ok written ∧ written.Valid ∧
        written.value = d.value) ∧
    (∀ d e : Decimal, (ofDecimal d == ofDecimal e) = true ↔ d.value = e.value) ∧
    (∀ (x : Fraction) (d : Decimal), x.Valid → d.Valid → d.value = x.value →
      ∃ written, x.toDecimal library = .ok written ∧ (ofDecimal written == x) = true) ∧
    (∀ x : Fraction, x.isWhole = true →
      ((∃ result, x.toDecimal library = .error (.overflow result)) ↔
        2 ^ 96 ≤ x.numerator.natAbs)) := by
  have readValid : ∀ d : Decimal, (ofDecimal d).Valid := fun d => Or.inl (canonical_ofDecimal d)
  refine ⟨?reads, ?equal, ?writes, ?overflows⟩
  case reads =>
    intro d valid
    refine ⟨?_, ?_, ?_⟩
    · rw [value_ofDecimal, d.value_eq_div]
    · rw [ofDecimal_eq_ofRat, reduce_signedMantissa]
    · obtain ⟨written, found, writtenValid, value⟩ :=
        toDecimal_exact rounds (readValid d) valid (value_ofDecimal d).symm
      exact ⟨written, found, writtenValid, value.trans (value_ofDecimal d)⟩
  case equal =>
    intro d e
    rw [beq_iff_value_eq (readValid d) (readValid e), value_ofDecimal, value_ofDecimal]
  case writes =>
    intro x d valid dValid same
    obtain ⟨written, found, _, value⟩ := toDecimal_exact rounds valid dValid same
    refine ⟨written, found, ?_⟩
    rw [beq_iff_value_eq (readValid written) valid, value_ofDecimal, value]
  case overflows =>
    intro x whole
    exact toDecimal_whole_overflow_iff library whole

theorem decimal_round_trip_at_limits :
    (∃ written, (ofDecimal ⟨true, 2 ^ 96 - 1, 28⟩).toDecimal .standard = .ok written ∧
      written.Valid ∧ written.value = -79228162514264337593543950335 / 10 ^ 28) ∧
    (ofDecimal ⟨false, 400, 2⟩ == ofDecimal ⟨false, 4, 0⟩) = true ∧
    (∃ written, undefined.toDecimal .standard = .ok written ∧
      (ofDecimal written == undefined) = true) ∧
    (∃ result, (ofInt (2 ^ 96)).toDecimal .standard = .error (.overflow result)) := by
  obtain ⟨reads, equal, writes, overflows⟩ := decimal_round_trip Decimal.standard_rounds
  refine ⟨?_, ?_, ?_, ?_⟩
  · obtain ⟨_, _, written, found, valid, value⟩ := reads ⟨true, 2 ^ 96 - 1, 28⟩ (by decide)
    refine ⟨written, found, valid, ?_⟩
    rw [value, Decimal.value_eq]
    norm_num [Decimal.signFactor]
  · rw [equal]
    decide +kernel
  · exact writes undefined ⟨true, 0, 28⟩ (Or.inr rfl) (by decide) (by decide +kernel)
  · exact (overflows (ofInt (2 ^ 96)) rfl).mpr (by decide)

end Fraction

end LowestTerms
