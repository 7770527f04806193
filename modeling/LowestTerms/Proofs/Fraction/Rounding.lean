import LowestTerms.Proofs.Decimal.Stages
import LowestTerms.Proofs.Fraction.Decimal
import LowestTerms.Proofs.Fraction.Truncation

/-!
Rounding decimals and rounding fractions. A fraction has no digits after the point to discard, but
it can be multiplied by a power of ten, made whole and divided again. For a fraction read from a
decimal that is the fraction read from the rounded decimal, whatever the number of digits.
-/

namespace LowestTerms

namespace RoundingMode

theorem sign_mul_floor_abs_add_half (number : Rat) :
    (SignType.sign number : Rat) * ⌊|number| + 1 / 2⌋ = nearestAwayFromZero number := by
  rw [← round_eq, nearestAwayFromZero]
  by_cases atLeastHalf : 1 / 2 ≤ Int.fract |number|
  · have rounded : round |number| = ⌈|number|⌉ := if_neg (by linarith)
    rw [if_pos atLeastHalf, rounded, sign_mul_ceil_abs]
  · have rounded : round |number| = ⌊|number|⌋ := if_pos (by linarith)
    rw [if_neg atLeastHalf, rounded, sign_mul_floor_abs]

end RoundingMode

namespace Fraction

/-- What four of the modes make of a fraction, computed by multiplying with a power of ten, making
the product whole and dividing again. -/
structure RoundsTo (x power : Fraction) (rounded : RoundingMode → Fraction) : Prop where
  floor : (x * power).floor.divideOrAbort power = .ok (rounded .floor)
  ceiling : (x * power).ceil.divideOrAbort power = .ok (rounded .ceiling)
  down : (x * power).quotientAndRemainder.1.divideOrAbort power = .ok (rounded .down)
  halfUp : ((x.abs * power + ofPartsOrZero 1 2).floor.mulInt x.sign).divideOrAbort power =
    .ok (rounded .halfUp)

section

variable {x : Fraction} (valid : x.Valid) (digits : Nat)

include valid

theorem Valid.mul_powerOfTen : x * ofInt (10 ^ digits) = ofRat (x.value * 10 ^ digits) := by
  rw [mul_eq_ofRat valid (valid_ofInt _), value_ofInt]
  push_cast
  rfl

theorem Valid.divide_powerOfTen :
    x.divideOrAbort (ofInt (10 ^ digits)) = .ok (ofRat (x.value / 10 ^ digits)) := by
  have nonzero : (ofInt (10 ^ digits)).value ≠ 0 := by
    rw [value_ofInt]
    positivity
  rw [divideOrAbort_eq_ok_iff, divide_eq_ok valid (valid_ofInt _) nonzero, value_ofInt]
  push_cast
  rfl

theorem Valid.nearestAway_powerOfTen :
    (x.abs * ofInt (10 ^ digits) + ofPartsOrZero 1 2).floor.mulInt x.sign =
      ofInt (RoundingMode.nearestAwayFromZero (x.value * 10 ^ digits)) := by
  have positive : (0 : Rat) < 10 ^ digits := by positivity
  have magnitude : x.abs * ofInt (10 ^ digits) = ofRat |x.value * 10 ^ digits| := by
    have absValid : x.abs.Valid := abs_eq_ofRat valid ▸ valid_ofRat _
    rw [absValid.mul_powerOfTen, abs_eq_ofRat valid, value_ofRat, abs_mul, abs_of_pos positive]
  have half : ofPartsOrZero 1 2 = ofRat (1 / 2) := by
    rw [ofPartsOrZero, if_neg (by decide), reduce_eq_ofRat (by decide), Int.cast_one,
      Int.cast_ofNat]
  have signed : x.sign = (SignType.sign (x.value * 10 ^ digits) : Int) := by
    rw [valid.sign_eq, sign_mul, sign_pos positive, mul_one]
  rw [magnitude, half, add_eq_ofRat (valid_ofRat _) (valid_ofRat _), value_ofRat, value_ofRat,
    (valid_ofRat _).floor_eq, value_ofRat, mulInt_eq_mul (valid_ofInt _),
    mul_eq_ofRat (valid_ofInt _) (valid_ofInt _), value_ofInt, value_ofInt, ofInt_eq_ofRat,
    ← RoundingMode.sign_mul_floor_abs_add_half, signed, SignType.intCast_cast, mul_comm]

end

/-- Four of the rounding modes of decimals are floor, ceiling, truncation and rounding half up of
fractions. -/
theorem round_agrees {library : Decimal.Library} (exact : library.Exact) {d : Decimal}
    (valid : d.Valid) (digits : Nat) :
    ∃ rounded : RoundingMode → Decimal,
      (∀ mode, Decimal.round library d digits mode = .ok (rounded mode)) ∧
        RoundsTo (ofDecimal d) (ofInt (10 ^ digits)) (fun mode => ofDecimal (rounded mode)) := by
  choose rounded found _ rounded_value using Decimal.round_onGrid exact valid digits
  refine ⟨rounded, found, ?_⟩
  have read : (ofDecimal d).Valid := ofDecimal_eq_ofRat d ▸ valid_ofRat _
  have divided (mode : RoundingMode) :
      (ofInt (mode.integer (d.value * 10 ^ digits))).divideOrAbort (ofInt (10 ^ digits)) =
        .ok (ofDecimal (rounded mode)) := by
    rw [(valid_ofInt _).divide_powerOfTen, value_ofInt, ofDecimal_eq_ofRat, rounded_value,
      RoundingMode.onGrid]
  constructor
  case floor =>
    rw [read.mul_powerOfTen, (valid_ofRat _).floor_eq, value_ofRat, value_ofDecimal]
    exact divided .floor
  case ceiling =>
    rw [read.mul_powerOfTen, (valid_ofRat _).ceil_eq, value_ofRat, value_ofDecimal]
    exact divided .ceiling
  case down =>
    rw [read.mul_powerOfTen, (valid_ofRat _).quotient_eq, value_ofRat, value_ofDecimal]
    exact divided .down
  case halfUp =>
    rw [read.nearestAway_powerOfTen, value_ofDecimal]
    exact divided .halfUp

theorem round_agrees_negative_tie :
    ∃ rounded : RoundingMode → Decimal,
      (∀ mode, Decimal.round .standard ⟨true, 2345, 3⟩ 2 mode = .ok (rounded mode)) ∧
        RoundsTo ⟨-469, 200⟩ ⟨100, 1⟩ (fun mode => ofDecimal (rounded mode)) ∧
        ofDecimal (rounded .halfUp) = ⟨-47, 20⟩ ∧ ofDecimal (rounded .down) = ⟨-117, 50⟩ := by
  obtain ⟨rounded, found, rounds⟩ :=
    round_agrees Decimal.standard_exact (d := ⟨true, 2345, 3⟩) (by decide) 2
  refine ⟨rounded, found, rounds, ?_, ?_⟩
  · exact (Except.ok.inj rounds.halfUp).symm
  · exact (Except.ok.inj rounds.down).symm

end Fraction

end LowestTerms
