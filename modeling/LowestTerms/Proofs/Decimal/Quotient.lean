import Mathlib.Data.Nat.Find
import LowestTerms.Proofs.Decimal.Exact
import LowestTerms.Proofs.Decimal.Modes

/-!
Quotients that are rounded. A number is rounded to nearest, ties to even, at the finest scale at
which the mantissa still fits; a number that some decimal has as its value comes out exactly. The
standard library rounds quotients of integers this way, and what is proved from
`Library.RoundsQuotients` holds of every library that does.
-/

namespace LowestTerms

theorem nearestInteger_even_le (dividend : Nat) {divisor : Nat} (positive : 0 < divisor) :
    nearestInteger .even dividend divisor ≤ dividend := by
  have split := Nat.div_add_mod dividend divisor
  have whole : dividend / divisor ≤ divisor * (dividend / divisor) :=
    Nat.le_mul_of_pos_left _ positive
  simp only [nearestInteger, Tie.choose]
  split
  · exact Nat.div_le_self _ _
  · split
    · omega
    · omega

theorem nearestInteger_even_eq (dividend : Nat) {divisor : Nat} (positive : 0 < divisor) :
    (nearestInteger .even dividend divisor : Int) =
      RoundingMode.halfEven.integer (dividend / divisor) := by
  have divisorPositive : (0 : Rat) < divisor := by exact_mod_cast positive
  have nonnegative : (0 : Rat) ≤ dividend / divisor := by positivity
  have below : ⌊(dividend / divisor : Rat)⌋ = ((dividend / divisor : Nat) : Int) :=
    Rat.floor_natCast_div_natCast dividend divisor
  have above := Decimal.ceil_quotient dividend positive
  have larger : (1 / 2 : Rat) < Int.fract (dividend / divisor : Rat) ↔
      divisor < 2 * (dividend % divisor) := by
    rw [Int.fract_div_natCast_eq_div_natCast_mod, div_lt_div_iff₀ two_pos divisorPositive, one_mul,
      mul_comm]
    exact_mod_cast Iff.rfl
  have notSmaller : (1 / 2 : Rat) ≤ Int.fract (dividend / divisor : Rat) ↔
      divisor ≤ 2 * (dividend % divisor) := by
    rw [Int.fract_div_natCast_eq_div_natCast_mod, div_le_div_iff₀ two_pos divisorPositive, one_mul,
      mul_comm]
    exact_mod_cast Iff.rfl
  simp only [RoundingMode.integer, RoundingMode.nearestTowardZero,
    RoundingMode.nearestAwayFromZero, abs_of_nonneg nonnegative, larger, notSmaller,
    RoundingMode.towardZero_of_nonneg nonnegative, RoundingMode.awayFromZero_of_nonneg nonnegative,
    below, above, Int.even_coe_nat, Nat.even_iff, nearestInteger, Tie.choose]
  generalize dividend / divisor = whole
  generalize dividend % divisor = rest
  split_ifs <;> omega

namespace Decimal

def nearestMantissa (number : Rat) (scale : Nat) : Int :=
  RoundingMode.halfEven.integer (number * 10 ^ scale)

structure IsFinestScale (number : Rat) (scale : Nat) : Prop where
  within : scale ≤ maxScale
  fits : (nearestMantissa number scale).natAbs < limit
  finest (larger : Nat) : scale < larger → larger ≤ maxScale →
    limit ≤ (nearestMantissa number larger).natAbs

def IsRounded (number : Rat) (d : Decimal) : Prop :=
  d.Valid ∧ ∃ scale, IsFinestScale number scale ∧
    d.value = nearestMantissa number scale / 10 ^ scale

def Library.RoundsQuotients (library : Library) : Prop :=
  ∀ x y : Decimal, x.Valid → y.Valid → x.scale = 0 → y.scale = 0 → y.mantissa ≠ 0 →
    ∃ result, library.quotient x y = some result ∧ IsRounded (x.value / y.value) result

theorem nearestMantissa_neg (number : Rat) (scale : Nat) :
    nearestMantissa (-number) scale = -nearestMantissa number scale := by
  rw [nearestMantissa, neg_mul]
  exact RoundingMode.integer_neg .halfEven _

theorem nearestMantissa_value {d : Decimal} {scale : Nat} (enough : d.scale ≤ scale) :
    nearestMantissa d.value scale = Numeral.withSign d.negative (d.mantissaAt scale) := by
  rw [nearestMantissa, ← signed_mantissaAt enough, RoundingMode.integer_intCast]

theorem nearestMantissa_own (d : Decimal) :
    (nearestMantissa d.value d.scale).natAbs = d.mantissa := by
  rw [nearestMantissa_value le_rfl, natAbs_withSign]
  simp [mantissaAt]

/-- At the finest scale all digits of a decimal are kept, as they would fit at its own scale. -/
theorem IsFinestScale.keeps {d : Decimal} {scale : Nat} (finest : IsFinestScale d.value scale)
    (valid : d.Valid) : d.scale ≤ scale := by
  by_contra tooCoarse
  have overflows := finest.finest d.scale (by omega) valid.2
  rw [nearestMantissa_own] at overflows
  exact absurd valid.1 (not_lt.mpr overflows)

theorem IsRounded.exact {number : Rat} {rounded d : Decimal}
    (isRounded : IsRounded number rounded) (valid : d.Valid) (same : d.value = number) :
    rounded.value = number := by
  obtain ⟨_, scale, finest, value⟩ := isRounded
  subst same
  have powerNonzero : (10 ^ scale : Rat) ≠ 0 := by positivity
  have enough := finest.keeps valid
  rw [value, nearestMantissa_value enough, signed_mantissaAt enough,
    mul_div_cancel_right₀ _ powerNonzero]

theorem exists_isFinestScale {number : Rat} {scale : Nat} (within : scale ≤ maxScale)
    (fits : (nearestMantissa number scale).natAbs < limit) :
    ∃ finest, IsFinestScale number finest := by
  let hasRoom (candidate : Nat) : Prop := (nearestMantissa number candidate).natAbs < limit
  refine ⟨Nat.findGreatest hasRoom maxScale, Nat.findGreatest_le maxScale, ?_, ?_⟩
  · exact Nat.findGreatest_spec (P := hasRoom) within fits
  · intro larger finer allowed
    exact not_lt.mp (Nat.findGreatest_is_greatest (P := hasRoom) finer allowed)

theorem isRounded_value {d : Decimal} (valid : d.Valid) : IsRounded d.value d := by
  have fits : (nearestMantissa d.value d.scale).natAbs < limit := by
    rw [nearestMantissa_own]
    exact valid.1
  obtain ⟨scale, finest⟩ := exists_isFinestScale valid.2 fits
  have powerNonzero : (10 ^ scale : Rat) ≠ 0 := by positivity
  have enough := finest.keeps valid
  refine ⟨valid, scale, finest, ?_⟩
  rw [nearestMantissa_value enough, signed_mantissaAt enough,
    mul_div_cancel_right₀ _ powerNonzero]

section

variable (negative : Bool) (dividend : Nat) {divisor : Nat} (positive : 0 < divisor)

include positive

theorem nearestMantissa_quotient (scale : Nat) :
    nearestMantissa (signFactor negative * (dividend / divisor)) scale =
      Numeral.withSign negative (quotientMantissa dividend divisor scale) := by
  have magnitude : nearestMantissa (dividend / divisor) scale =
      quotientMantissa dividend divisor scale := by
    rw [quotientMantissa, nearestInteger_even_eq _ positive, nearestMantissa, Nat.pow_eq]
    push_cast
    rw [div_mul_eq_mul_div]
  cases negative with
  | false =>
      simpa [signFactor, Numeral.withSign] using magnitude
  | true =>
      simpa [signFactor, Numeral.withSign, nearestMantissa_neg] using magnitude

theorem ofParts?_rounds {scale : Nat} (within : scale ≤ maxScale)
    (hasRoom : quotientMantissa dividend divisor scale < limit)
    (tooFine : ∀ larger, scale < larger → larger ≤ maxScale →
      limit ≤ quotientMantissa dividend divisor larger) :
    ∃ result, ofParts? negative (quotientMantissa dividend divisor scale) scale = some result ∧
      IsRounded (signFactor negative * (dividend / divisor)) result := by
  obtain ⟨result, found, valid, value⟩ := ofParts?_fits negative hasRoom within
  have mantissa := nearestMantissa_quotient negative dividend positive
  have finest : IsFinestScale (signFactor negative * (dividend / divisor)) scale := by
    refine ⟨within, ?_, ?_⟩
    · rwa [mantissa, natAbs_withSign]
    · intro larger finer allowed
      rw [mantissa, natAbs_withSign]
      exact tooFine larger finer allowed
  refine ⟨result, found, valid, scale, finest, ?_⟩
  rw [value, mantissa, withSign_eq, mul_div_assoc]

/-- Every finer scale has been ruled out, so the first one that fits is the finest. -/
theorem ofQuotient?_rounds (fits : dividend < limit) {bound : Nat} (within : bound ≤ maxScale)
    (tooFine : ∀ larger, bound < larger → larger ≤ maxScale →
      limit ≤ quotientMantissa dividend divisor larger) :
    ∃ result, ofQuotient? negative dividend divisor bound = some result ∧
      IsRounded (signFactor negative * (dividend / divisor)) result := by
  induction bound with
  | zero =>
      have whole : quotientMantissa dividend divisor 0 ≤ dividend := by
        simpa [quotientMantissa] using nearestInteger_even_le dividend positive
      exact ofParts?_rounds negative dividend positive within (lt_of_le_of_lt whole fits) tooFine
  | succ bound ih =>
      rw [ofQuotient?]
      by_cases hasRoom : quotientMantissa dividend divisor (bound + 1) < limit
      · obtain ⟨result, parts, rounded⟩ :=
          ofParts?_rounds negative dividend positive within hasRoom tooFine
        rw [parts]
        exact ⟨result, rfl, rounded⟩
      · have noRoom : ofParts? negative (quotientMantissa dividend divisor (bound + 1))
            (bound + 1) = none := if_neg hasRoom
        rw [noRoom]
        apply ih (by omega)
        intro larger finer allowed
        rcases (Nat.succ_le_of_lt finer).eq_or_lt with same | beyond
        · rw [← same]
          exact not_lt.mp hasRoom
        · exact tooFine larger beyond allowed

end

theorem standard_rounds : Library.standard.RoundsQuotients := by
  intro x y left _ leftWhole rightWhole nonzero
  have notZero : y.isZero = false := beq_eq_false_iff_ne.mpr nonzero
  have target : x.value / y.value =
      signFactor (x.negative != y.negative) * (x.mantissa / y.mantissa) := by
    rw [signFactor_bne, value_eq, value_eq, leftWhole, rightWhole, pow_zero, div_one, div_one]
    rcases signFactor_cases y.negative with ⟨_, factor⟩ | ⟨_, factor⟩ <;>
    · rw [factor]
      ring
  rw [target]
  simp only [Library.standard, notZero, leftWhole, rightWhole, Nat.pow_eq, pow_zero, mul_one,
    Bool.false_eq_true, if_false]
  apply ofQuotient?_rounds _ _ (Nat.pos_of_ne_zero nonzero) left.1 le_rfl
  intro larger finer allowed
  omega

end Decimal

end LowestTerms
