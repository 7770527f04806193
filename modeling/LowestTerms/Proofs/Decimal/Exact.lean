import Mathlib.Tactic.LinearCombination
import LowestTerms.Decimal.Quotient
import LowestTerms.Proofs.Decimal.Value

/-!
Products and quotients without loss. A library is exact if it finds a decimal with the value of a
product or a quotient whenever there is one; which of the decimals with that value it finds is left
open. The standard library is exact: an exact quotient at one scale is exact at every larger scale,
so the first scale at which its mantissa fits gives it without rounding.
-/

namespace LowestTerms

theorem nearestInteger_mul (tie : Tie) (quotient : Nat) {divisor : Nat} (positive : 0 < divisor) :
    nearestInteger tie (quotient * divisor) divisor = quotient := by
  simp only [nearestInteger, Nat.mul_mod_left, Nat.mul_div_cancel quotient positive, Nat.mul_zero,
    positive, if_true]

namespace Decimal

def Finds (found : Option Decimal) (number : Rat) : Prop :=
  ∀ d : Decimal, d.Valid → d.value = number →
    ∃ result, found = some result ∧ result.Valid ∧ result.value = number

structure Library.Exact (library : Library) : Prop where
  product (x y : Decimal) : x.Valid → y.Valid → Finds (library.product x y) (x.value * y.value)
  quotient (x y : Decimal) : x.Valid → y.Valid → y.value ≠ 0 →
    Finds (library.quotient x y) (x.value / y.value)

theorem ofParts?_fits (negative : Bool) {mantissa scale : Nat} (fits : mantissa < limit)
    (within : scale ≤ maxScale) :
    ∃ result, ofParts? negative mantissa scale = some result ∧ result.Valid ∧
      result.value = signFactor negative * (mantissa / 10 ^ scale) := by
  refine ⟨⟨negative && mantissa != 0, mantissa, scale⟩, if_pos fits, ⟨fits, within⟩, ?_⟩
  rw [value_eq]
  by_cases isZero : mantissa = 0
  · simp [isZero]
  · have nonzero : (mantissa != 0) = true := bne_iff_ne.mpr isZero
    simp only [nonzero, Bool.and_true]

section

variable {dividend divisor mantissa scale : Nat} (positive : 0 < divisor)
  (exact : mantissa * divisor = dividend * 10 ^ scale)

include positive exact

theorem quotientMantissa_exact {larger : Nat} (enough : scale ≤ larger) :
    quotientMantissa dividend divisor larger = mantissa * 10 ^ (larger - scale) := by
  have power : 10 ^ larger = 10 ^ scale * 10 ^ (larger - scale) := by
    rw [← pow_add, Nat.add_sub_cancel' enough]
  have scaled : dividend * Nat.pow 10 larger = mantissa * 10 ^ (larger - scale) * divisor := by
    rw [Nat.pow_eq, power, ← mul_assoc, ← exact]
    ring
  rw [quotientMantissa, scaled, nearestInteger_mul _ _ positive]

theorem quotient_eq {larger : Nat} (enough : scale ≤ larger) :
    ((mantissa * 10 ^ (larger - scale) : Nat) : Rat) / 10 ^ larger = dividend / divisor := by
  have divisorNonzero : (divisor : Rat) ≠ 0 := by exact_mod_cast positive.ne'
  have cross : (mantissa : Rat) * divisor = dividend * 10 ^ scale := by exact_mod_cast exact
  have power : (10 : Rat) ^ larger = 10 ^ (larger - scale) * 10 ^ scale := by
    rw [← pow_add, Nat.sub_add_cancel enough]
  rw [div_eq_div_iff (by positivity) divisorNonzero, power]
  push_cast
  linear_combination 10 ^ (larger - scale) * cross

theorem ofQuotient?_exact (negative : Bool) {bound : Nat} (fits : mantissa < limit)
    (reached : scale ≤ bound) (within : bound ≤ maxScale) :
    ∃ result, ofQuotient? negative dividend divisor bound = some result ∧ result.Valid ∧
      result.value = signFactor negative * (dividend / divisor) := by
  induction bound with
  | zero =>
      have scaleZero : scale = 0 := Nat.le_zero.mp reached
      subst scaleZero
      rw [ofQuotient?, quotientMantissa_exact positive exact reached,
        ← quotient_eq positive exact reached, Nat.sub_zero, pow_zero, mul_one]
      simpa using ofParts?_fits negative fits within
  | succ bound ih =>
      rw [ofQuotient?, quotientMantissa_exact positive exact reached]
      by_cases hasRoom : mantissa * 10 ^ (bound + 1 - scale) < limit
      · obtain ⟨result, found, valid, value⟩ := ofParts?_fits negative hasRoom within
        rw [found]
        exact ⟨result, rfl, valid, by rw [value, quotient_eq positive exact reached]⟩
      · have smaller : scale ≤ bound := by
          by_contra tooLarge
          have same : scale = bound + 1 := by omega
          rw [same, Nat.sub_self, pow_zero, mul_one] at hasRoom
          exact hasRoom fits
        have noRoom : ofParts? negative (mantissa * 10 ^ (bound + 1 - scale)) (bound + 1) = none :=
          if_neg hasRoom
        rw [noRoom]
        exact ih smaller (by omega)

end

/-- The scale of the decimal that has the value does not matter, only that some scale is reached. -/
theorem ofQuotient?_finds (negative : Bool) {dividend divisor bound : Nat}
    (positive : 0 < divisor) (within : bound ≤ maxScale)
    (reaches : ∀ mantissa scale, mantissa < limit → scale ≤ maxScale →
      mantissa * divisor = dividend * 10 ^ scale →
        ∃ fitting places, fitting < limit ∧ places ≤ bound ∧
          fitting * divisor = dividend * 10 ^ places) :
    Finds (ofQuotient? negative dividend divisor bound)
      (signFactor negative * (dividend / divisor)) := by
  rintro d ⟨fits, allowed⟩ same
  have divisorNonzero : (divisor : Rat) ≠ 0 := by exact_mod_cast positive.ne'
  have magnitudes : (d.mantissa : Rat) / (10 ^ d.scale : Nat) = dividend / divisor := by
    rw [← abs_value_eq, same, abs_mul, abs_signFactor, one_mul, abs_of_nonneg (by positivity)]
  rw [div_eq_div_iff (by positivity) divisorNonzero] at magnitudes
  have cross : d.mantissa * divisor = dividend * 10 ^ d.scale := by exact_mod_cast magnitudes
  obtain ⟨fitting, places, fittingFits, reached, exact⟩ := reaches _ _ fits allowed cross
  exact ofQuotient?_exact positive exact negative fittingFits reached within

theorem standard_product_exact (x y : Decimal) :
    Finds (Library.standard.product x y) (x.value * y.value) := by
  have target : x.value * y.value = signFactor (x.negative != y.negative) *
      ((x.mantissa * y.mantissa : Nat) / (Nat.pow 10 (x.scale + y.scale) : Nat)) := by
    rw [signFactor_bne, value_eq, value_eq, Nat.pow_eq]
    push_cast
    rw [pow_add]
    ring
  rw [target]
  apply ofQuotient?_finds _ (powerOfTen_pos _) (min_le_left _ _)
  intro mantissa scale fits allowed cross
  by_cases enough : scale ≤ x.scale + y.scale
  · exact ⟨mantissa, scale, fits, le_min allowed enough, cross⟩
  · -- A finer decimal than the factors allow ends in zeros, which are dropped.
    have power : 10 ^ scale = 10 ^ (scale - (x.scale + y.scale)) * 10 ^ (x.scale + y.scale) := by
      rw [← pow_add, Nat.sub_add_cancel (by omega)]
    have divided : mantissa = x.mantissa * y.mantissa * 10 ^ (scale - (x.scale + y.scale)) := by
      rw [power, ← mul_assoc] at cross
      exact Nat.eq_of_mul_eq_mul_right (powerOfTen_pos _) cross
    have smaller : x.mantissa * y.mantissa ≤ mantissa := by
      rw [divided]
      exact Nat.le_mul_of_pos_right _ (powerOfTen_pos _)
    exact ⟨x.mantissa * y.mantissa, x.scale + y.scale, lt_of_le_of_lt smaller fits,
      le_min (by omega) le_rfl, rfl⟩

theorem standard_quotient_exact (x : Decimal) {y : Decimal} (nonzero : y.value ≠ 0) :
    Finds (Library.standard.quotient x y) (x.value / y.value) := by
  have mantissaPositive : 0 < y.mantissa :=
    Nat.pos_of_ne_zero (mt (value_eq_zero_iff y).mpr nonzero)
  have notZero : y.isZero = false := by
    simpa [isZero] using mantissaPositive.ne'
  have divisorNonzero : (y.mantissa : Rat) ≠ 0 := by exact_mod_cast mantissaPositive.ne'
  have target : x.value / y.value = signFactor (x.negative != y.negative) *
      ((x.mantissa * Nat.pow 10 y.scale : Nat) / (y.mantissa * Nat.pow 10 x.scale : Nat)) := by
    rw [signFactor_bne, value_eq, value_eq, Nat.pow_eq, Nat.pow_eq]
    push_cast
    rcases signFactor_cases y.negative with ⟨_, factor⟩ | ⟨_, factor⟩ <;>
    · rw [factor]
      field_simp
  rw [target]
  simp only [Library.standard, notZero, Bool.false_eq_true, if_false]
  apply ofQuotient?_finds _ (Nat.mul_pos mantissaPositive (powerOfTen_pos _)) le_rfl
  intro mantissa scale fits allowed cross
  exact ⟨mantissa, scale, fits, allowed, cross⟩

theorem standard_exact : Library.standard.Exact where
  product x y _ _ := standard_product_exact x y
  quotient x _ _ _ nonzero := standard_quotient_exact x nonzero

end Decimal

end LowestTerms
