import Mathlib.Algebra.GroupWithZero.Basic
import Mathlib.Tactic.NormNum
import LowestTerms.Proofs.Fraction.Field

/-!
Integer powers. Numerator and denominator are raised on their own, which leaves them coprime; a
negative exponent inverts the base first. Zero has only its positive powers. All other powers are
those of the values, so the laws of exponents hold of fractions part by part.
-/

namespace LowestTerms.Fraction

theorem pow_ofRat (base : Rat) (exponent : Nat) :
    (⟨Int.pow (ofRat base).num exponent, Int.pow (ofRat base).den exponent⟩ : Fraction) =
      ofRat (base ^ exponent) := by
  simp only [ofRat, Rat.num_pow, Rat.den_pow, Int.natCast_pow]
  rfl

section

variable {x : Fraction} (valid : x.Valid) (exponent : Int)

include valid

theorem pow_eq_ok (nonzero : x.value ≠ 0) : x.pow exponent = .ok (ofRat (x.value ^ exponent)) := by
  have notZero : x.isZero = false := by
    simpa [← valid.isZero_iff] using nonzero
  simp only [Fraction.pow, notZero, Bool.false_and, Bool.false_or, Bool.false_eq_true, if_false]
  split
  · rename_i isZero
    rw [isZero, zpow_zero, one_eq_ofRat]
  · split
    · rename_i shortcut
      rw [valid.defined_eq]
      rcases Bool.or_eq_true_iff.mp shortcut with isOne | isUnit
      · rw [(isOne_iff x).mp isOne, one_eq_ofRat, value_ofRat, one_zpow]
      · rw [beq_iff_eq.mp isUnit, zpow_one]
    · split
      · rename_i negative
        obtain ⟨magnitude, rfl⟩ := Int.eq_negSucc_of_lt_zero negative
        rw [invert_eq_ok valid nonzero]
        simp only [bind, Except.bind, pure, Except.pure, pow_ofRat, Int.natAbs_negSucc,
          zpow_negSucc, inv_pow, Nat.succ_eq_add_one]
      · rename_i notNegative
        obtain ⟨magnitude, rfl⟩ := Int.eq_ofNat_of_zero_le (not_lt.mp notNegative)
        rw [valid.eq_ofRat_of_ne_zero nonzero]
        simp only [bind, Except.bind, pure, Except.pure, pow_ofRat, Int.natAbs_natCast,
          zpow_natCast, value_ofRat]

theorem pow_of_zero (isZero : x.value = 0) :
    x.pow exponent =
      if exponent = 0 then .error (.domain .zeroToZero)
      else if exponent < 0 then .error (.domain .zeroToNegative)
      else .ok zero := by
  simp only [Fraction.pow, valid.isZero_iff.mpr isZero, Bool.true_and, Bool.true_or, if_true,
    decide_eq_true_eq, valid.defined_eq, isZero, ← zero_eq_ofRat]

theorem pow_fails_iff :
    (∃ failure, x.pow exponent = .error failure) ↔ x.value = 0 ∧ exponent ≤ 0 := by
  by_cases isZero : x.value = 0
  · rw [pow_of_zero valid exponent isZero]
    split
    · rename_i noExponent
      simp [isZero, noExponent]
    · split
      · rename_i negative
        simp [isZero, negative.le]
      · rename_i notNegative
        have positive : ¬exponent ≤ 0 := by omega
        simp [positive]
  · simp [pow_eq_ok valid exponent isZero, isZero]

theorem pow_value (defined : ¬(x.value = 0 ∧ exponent ≤ 0)) :
    x.pow exponent = .ok (ofRat (x.value ^ exponent)) := by
  by_cases isZero : x.value = 0
  · have positive : 0 < exponent := by
      by_contra notPositive
      exact defined ⟨isZero, not_lt.mp notPositive⟩
    rw [pow_of_zero valid exponent isZero, if_neg positive.ne', if_neg positive.le.not_gt, isZero,
      zero_zpow _ positive.ne', zero_eq_ofRat]
  · exact pow_eq_ok valid exponent isZero

end

structure ExponentLaws (x y : Fraction) (a b : Int) : Prop where
  fails : (∃ failure, x.pow a = .error failure) ↔ x.value = 0 ∧ a ≤ 0
  zero_to_zero : x.value = 0 → a = 0 → x.pow a = .error (.domain .zeroToZero)
  zero_to_negative : x.value = 0 → a < 0 → x.pow a = .error (.domain .zeroToNegative)
  power_value : ¬(x.value = 0 ∧ a ≤ 0) →
    ∃ power, x.pow a = .ok power ∧ power.Canonical ∧ power.value = x.value ^ a
  exponents_add : x.value ≠ 0 → ∃ first second,
    x.pow a = .ok first ∧ x.pow b = .ok second ∧ x.pow (a + b) = .ok (first * second)
  exponent_neg : x.value ≠ 0 → ∃ power inverse,
    x.pow a = .ok power ∧ power.invert = .ok inverse ∧ x.pow (-a) = .ok inverse
  bases_mul : x.value ≠ 0 → y.value ≠ 0 → ∃ first second,
    x.pow a = .ok first ∧ y.pow a = .ok second ∧ (x * y).pow a = .ok (first * second)

theorem pow_is_exact {x y : Fraction} (left : x.Valid) (right : y.Valid) (a b : Int) :
    ExponentLaws x y a b := by
  constructor
  case fails => exact pow_fails_iff left a
  case zero_to_zero =>
    intro isZero noExponent
    rw [pow_of_zero left a isZero, if_pos noExponent]
  case zero_to_negative =>
    intro isZero negative
    rw [pow_of_zero left a isZero, if_neg negative.ne, if_pos negative]
  case power_value =>
    intro defined
    exact ⟨_, pow_value left a defined, canonical_ofRat _, value_ofRat _⟩
  case exponents_add =>
    intro nonzero
    refine ⟨_, _, pow_eq_ok left a nonzero, pow_eq_ok left b nonzero, ?_⟩
    rw [pow_eq_ok left (a + b) nonzero, mul_eq_ofRat (valid_ofRat _) (valid_ofRat _),
      value_ofRat, value_ofRat, zpow_add₀ nonzero]
  case exponent_neg =>
    intro nonzero
    have powerNonzero : (ofRat (x.value ^ a)).value ≠ 0 := by
      rw [value_ofRat]
      exact zpow_ne_zero a nonzero
    refine ⟨_, _, pow_eq_ok left a nonzero, invert_eq_ok (valid_ofRat _) powerNonzero, ?_⟩
    rw [pow_eq_ok left (-a) nonzero, value_ofRat, zpow_neg]
  case bases_mul =>
    intro leftNonzero rightNonzero
    have product : x * y = ofRat (x.value * y.value) := mul_eq_ofRat left right
    have productNonzero : (ofRat (x.value * y.value)).value ≠ 0 := by
      rw [value_ofRat]
      exact mul_ne_zero leftNonzero rightNonzero
    refine ⟨_, _, pow_eq_ok left a leftNonzero, pow_eq_ok right a rightNonzero, ?_⟩
    rw [product, pow_eq_ok (valid_ofRat _) a productNonzero,
      mul_eq_ofRat (valid_ofRat _) (valid_ofRat _), value_ofRat, value_ofRat, value_ofRat, mul_zpow]

/-- The second law covers the least and the greatest exponent of 32 bits. -/
theorem pow_is_exact_negative_base :
    (⟨-2, 3⟩ : Fraction).Valid ∧ (⟨3, 4⟩ : Fraction).Valid ∧
      (∃ power, (⟨-2, 3⟩ : Fraction).pow (-3) = .ok power ∧ power.value = -27 / 8) ∧
      ExponentLaws ⟨-2, 3⟩ ⟨3, 4⟩ (-2147483648) 2147483647 := by
  have negative : (⟨-2, 3⟩ : Fraction).Valid := Or.inl ⟨by decide, by decide⟩
  have positive : (⟨3, 4⟩ : Fraction).Valid := Or.inl ⟨by decide, by decide⟩
  have base : (⟨-2, 3⟩ : Fraction).value = -2 / 3 := by decide +kernel
  obtain ⟨power, found, _, value⟩ :=
    (pow_is_exact negative positive (-3) 0).power_value (by rw [base]; norm_num)
  refine ⟨negative, positive, ⟨power, found, ?_⟩,
    pow_is_exact negative positive (-2147483648) 2147483647⟩
  rw [value, base]
  norm_num

end LowestTerms.Fraction
