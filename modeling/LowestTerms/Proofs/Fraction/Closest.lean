import LowestTerms.Proofs.Decimal.Closest
import LowestTerms.Proofs.Fraction.Decimal

/-!
Which decimal a fraction is written as, if both of its parts fit a mantissa. There always is one, in
the order of the fractions and with their signs, and none lies between it and the fraction. It is
the closest one unless the value is just at the limit of a scale.
-/

namespace LowestTerms.Fraction

open Decimal (limit IsRounded NearLimit StrictlyBetween)

structure Fits (x : Fraction) : Prop where
  numerator : x.numerator.natAbs < limit
  denominator : x.denominator.natAbs < limit

instance (x : Fraction) : Decidable x.Fits :=
  decidable_of_iff (x.numerator.natAbs < limit ∧ x.denominator.natAbs < limit)
    ⟨fun ⟨numerator, denominator⟩ => ⟨numerator, denominator⟩,
      fun fits => ⟨fits.numerator, fits.denominator⟩⟩

section

variable {x : Fraction} (valid : x.Valid)

include valid

theorem Fits.neg (fits : x.Fits) : (-x).Fits := by
  obtain ⟨numerator, denominator⟩ := fits
  rw [valid.numerator_eq] at numerator
  rw [valid.denominator_eq] at denominator
  constructor
  · rwa [valid.neg.numerator_eq, valid.value_neg, Rat.num_neg_eq_neg_num, Int.natAbs_neg]
  · rwa [valid.neg.denominator_eq, valid.value_neg, Rat.den_neg_eq_den]

end

/-- What is written is closest, except at the limit of a scale. -/
theorem toDecimal_closest_iff {library : Decimal.Library} (rounds : library.RoundsQuotients)
    {x : Fraction} (valid : x.Valid) (fits : x.Fits) :
    ∃ d, x.toDecimal library = .ok d ∧ d.Valid ∧
      ((∀ c : Decimal, c.Valid → |d.value - x.value| ≤ |c.value - x.value|) ↔
        ¬NearLimit x.value) := by
  obtain ⟨d, written, rounded⟩ := toDecimal_rounds rounds valid fits.numerator fits.denominator
  refine ⟨d, written, rounded.1, ?_⟩
  constructor
  · intro closest near
    obtain ⟨c, cValid, nearer⟩ := rounded.nearer_of_nearLimit near
    exact absurd (closest c cValid) (not_le.mpr nearer)
  · intro notNear c cValid
    exact rounded.closest_of_not_nearLimit notNear cValid

theorem toDecimal_closest_iff_third :
    ∃ d, (⟨-1, 3⟩ : Fraction).toDecimal .standard = .ok d ∧
      ∀ c : Decimal, c.Valid → |d.value - -1 / 3| ≤ |c.value - -1 / 3| := by
  have third : value ⟨-1, 3⟩ = -1 / 3 := by decide +kernel
  obtain ⟨d, written, _, closest⟩ := toDecimal_closest_iff Decimal.standard_rounds
    (x := ⟨-1, 3⟩) (Or.inl ⟨by decide, by decide⟩) (by decide)
  rw [third] at closest
  exact ⟨d, written, closest.mpr (by decide +kernel)⟩

/-- The quotient is `7922816251426433759354395033` and two thirds. With one digit after the point it
would be rounded to a mantissa that has no room, so it is written without any; but one half instead
of two thirds has room, and is nearer. -/
theorem toDecimal_not_closest_at_limit :
    ¬∀ x : Fraction, x.Valid → x.Fits →
      ∃ d, x.toDecimal .standard = .ok d ∧
        ∀ c : Decimal, c.Valid → |d.value - x.value| ≤ |c.value - x.value| := by
  intro closest
  obtain ⟨d, written, nearest⟩ := closest ⟨23768448754279301278063185101, 3⟩
    (Or.inl ⟨by decide, by decide⟩) (by decide)
  have answer : (⟨23768448754279301278063185101, 3⟩ : Fraction).toDecimal .standard =
      .ok ⟨false, 7922816251426433759354395034, 0⟩ := by decide +kernel
  have same : d = ⟨false, 7922816251426433759354395034, 0⟩ :=
    Except.ok.inj (written.symm.trans answer)
  subst same
  have nearer := nearest ⟨false, 79228162514264337593543950335, 1⟩ (by decide)
  exact absurd nearer (by decide +kernel)

/-- Parts that fit are always written, without logarithms; opposites as opposites and in order, and
never beyond another decimal. -/
theorem toDecimal_total_odd_monotone {library : Decimal.Library}
    (rounds : library.RoundsQuotients) {x y : Fraction} (left : x.Valid) (right : y.Valid)
    (leftFits : x.Fits) (rightFits : y.Fits) :
    ∃ d e opposite : Decimal,
      x.toDecimal library = .ok d ∧ y.toDecimal library = .ok e ∧
      (-x).toDecimal library = .ok opposite ∧ d.Valid ∧
      (∃ quotient, x.exactQuotient? library = some quotient) ∧
      opposite.value = -d.value ∧
      (x.atMost y = true → d.value ≤ e.value) ∧
      ∀ c : Decimal, c.Valid → ¬StrictlyBetween c.value x.value d.value := by
  obtain ⟨d, dWritten, dRounded⟩ :=
    toDecimal_rounds rounds left leftFits.numerator leftFits.denominator
  obtain ⟨e, eWritten, eRounded⟩ :=
    toDecimal_rounds rounds right rightFits.numerator rightFits.denominator
  have oppositeFits := leftFits.neg left
  obtain ⟨opposite, oppositeWritten, oppositeRounded⟩ :=
    toDecimal_rounds rounds left.neg oppositeFits.numerator oppositeFits.denominator
  obtain ⟨quotient, found, _⟩ :=
    exactQuotient?_rounds rounds left leftFits.numerator leftFits.denominator
  refine ⟨d, e, opposite, dWritten, eWritten, oppositeWritten, dRounded.1, ⟨quotient, found⟩, ?odd,
    ?monotone, ?noneBetween⟩
  case odd =>
    rw [left.value_neg] at oppositeRounded
    rw [oppositeRounded.unique dRounded.opposite, Decimal.value_opposite]
  case monotone =>
    intro atMost
    exact dRounded.mono eRounded ((atMost_iff left right).mp atMost)
  case noneBetween =>
    intro c valid
    exact dRounded.none_between valid

/-- The first quotient still has room for a digit after the point, the second has none. -/
theorem toDecimal_total_odd_monotone_across_grids :
    ∃ d e opposite : Decimal,
      (⟨23768448754279301278063185100, 3⟩ : Fraction).toDecimal .standard = .ok d ∧
      (⟨23768448754279301278063185101, 3⟩ : Fraction).toDecimal .standard = .ok e ∧
      (⟨-23768448754279301278063185100, 3⟩ : Fraction).toDecimal .standard = .ok opposite ∧
      opposite.value = -d.value ∧ d.value ≤ e.value ∧
      ∀ c : Decimal, c.Valid →
        ¬StrictlyBetween c.value (23768448754279301278063185100 / 3) d.value := by
  have value : (⟨23768448754279301278063185100, 3⟩ : Fraction).value =
      23768448754279301278063185100 / 3 := by decide +kernel
  obtain ⟨d, e, opposite, dWritten, eWritten, oppositeWritten, _, _, odd, monotone, noneBetween⟩ :=
    toDecimal_total_odd_monotone Decimal.standard_rounds
      (x := ⟨23768448754279301278063185100, 3⟩) (y := ⟨23768448754279301278063185101, 3⟩)
      (Or.inl ⟨by decide, by decide⟩) (Or.inl ⟨by decide, by decide⟩) (by decide) (by decide)
  rw [value] at noneBetween
  exact ⟨d, e, opposite, dWritten, eWritten, oppositeWritten, odd, monotone (by decide),
    noneBetween⟩

end LowestTerms.Fraction
