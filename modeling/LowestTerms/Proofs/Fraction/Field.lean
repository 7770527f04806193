import Mathlib.Algebra.Field.Basic
import Mathlib.Algebra.Field.Rat
import Mathlib.Algebra.Order.Ring.Unbundled.Rat
import Mathlib.Tactic.FieldSimp
import LowestTerms.Fraction.Arithmetic
import LowestTerms.Proofs.Fraction.Lowest

/-!
The field operations refine those of the rational numbers. Each of them finds the fraction in lowest
terms of the sum, difference, product or quotient of the values, on the paths that multiply and on
those that answer an operand.
-/

namespace LowestTerms.Fraction

theorem commonDenominator_eq_lcm (first second : Int) :
    commonDenominator first second = Int.lcm first second := by
  have divides : (Int.gcd first second : Int) ∣ first.natAbs := by
    exact_mod_cast Nat.gcd_dvd_left first.natAbs second.natAbs
  rw [commonDenominator, Int.tdiv_eq_ediv_of_dvd divides]
  have exactQuotient : (first.natAbs / Int.gcd first second * second.natAbs : Nat) =
      Int.lcm first second := by
    exact Nat.div_mul_right_comm (Nat.gcd_dvd_left first.natAbs second.natAbs) second.natAbs
  exact_mod_cast exactQuotient

theorem commonDenominator_ne_zero {first second : Int} (firstNonzero : first ≠ 0)
    (secondNonzero : second ≠ 0) : commonDenominator first second ≠ 0 := by
  rw [commonDenominator_eq_lcm]
  exact_mod_cast Int.lcm_ne_zero firstNonzero secondNonzero

theorem dvd_commonDenominator_left (first second : Int) :
    first ∣ commonDenominator first second := by
  rw [commonDenominator_eq_lcm]
  exact Int.dvd_lcm_left first second

theorem dvd_commonDenominator_right (first second : Int) :
    second ∣ commonDenominator first second := by
  rw [commonDenominator_eq_lcm]
  exact Int.dvd_lcm_right first second

/-- Widening loses nothing, since the quotient of the denominators is exact. -/
theorem Valid.widened_eq {x : Fraction} {shared : Int} (valid : x.Valid)
    (multiple : x.denominator ∣ shared) : (x.widened shared : Rat) = x.value * shared := by
  obtain ⟨factor, rfl⟩ := multiple
  have nonzero : (x.denominator : Rat) ≠ 0 := by exact_mod_cast valid.denominator_ne_zero
  rw [widened, Int.mul_tdiv_cancel_left factor valid.denominator_ne_zero, valid.value_eq_parts]
  push_cast
  field_simp

theorem Valid.widened_div {x : Fraction} {shared : Int} (valid : x.Valid)
    (multiple : x.denominator ∣ shared) (nonzero : shared ≠ 0) :
    (x.widened shared : Rat) / shared = x.value := by
  have sharedNonzero : (shared : Rat) ≠ 0 := by exact_mod_cast nonzero
  rw [valid.widened_eq multiple, mul_div_cancel_right₀ _ sharedNonzero]

section Operations

variable {x y : Fraction} (left : x.Valid) (right : y.Valid)

include left right

theorem add_eq_ofRat : x + y = ofRat (x.value + y.value) := by
  change add x y = _
  unfold add
  split
  · rename_i isZero
    rw [right.defined_eq, left.isZero_iff.mp isZero, zero_add]
  · split
    · rename_i isZero
      rw [left.defined_eq, right.isZero_iff.mp isZero, add_zero]
    · split
      · rename_i same
        rw [reduce_eq_ofRat left.denominator_ne_zero, right.value_eq_parts, left.value_eq_parts,
          ← same]
        push_cast
        rw [add_div]
      · have sharedNonzero :=
          commonDenominator_ne_zero left.denominator_ne_zero right.denominator_ne_zero
        rw [reduce_eq_ofRat sharedNonzero, Int.cast_add, add_div,
          left.widened_div (dvd_commonDenominator_left _ _) sharedNonzero,
          right.widened_div (dvd_commonDenominator_right _ _) sharedNonzero]

omit right in
theorem neg_eq_ofRat : -x = ofRat (-x.value) := by
  change neg x = _
  rw [neg, left.numerator_eq, left.denominator_eq]
  simp [ofRat]

omit right in
theorem Valid.neg : (-x).Valid := by
  rw [neg_eq_ofRat left]
  exact valid_ofRat _

omit right in
theorem Valid.value_neg : (-x).value = -x.value := by
  rw [neg_eq_ofRat left, value_ofRat]

omit right in
theorem abs_eq_ofRat : x.abs = ofRat |x.value| := by
  rw [abs, left.numerator_eq, left.denominator_eq, ofRat, Rat.num_abs_eq_abs_num,
    Rat.den_abs_eq_den, Int.natCast_natAbs]

theorem sub_eq_ofRat : x - y = ofRat (x.value - y.value) := by
  change sub x y = _
  unfold sub
  split
  · rename_i isZero
    rw [left.defined_eq, right.isZero_iff.mp isZero, sub_zero]
  · split
    · rename_i isZero
      change -y = _
      rw [neg_eq_ofRat right, left.isZero_iff.mp isZero, zero_sub]
    · split
      · rename_i same
        rw [reduce_eq_ofRat left.denominator_ne_zero, right.value_eq_parts, left.value_eq_parts,
          ← same]
        push_cast
        rw [sub_div]
      · have sharedNonzero :=
          commonDenominator_ne_zero left.denominator_ne_zero right.denominator_ne_zero
        rw [reduce_eq_ofRat sharedNonzero, Int.cast_sub, sub_div,
          left.widened_div (dvd_commonDenominator_left _ _) sharedNonzero,
          right.widened_div (dvd_commonDenominator_right _ _) sharedNonzero]

theorem mul_eq_ofRat : x * y = ofRat (x.value * y.value) := by
  change mul x y = _
  unfold mul
  split
  · rename_i someZero
    have valueZero : x.value = 0 ∨ y.value = 0 := by
      simpa [left.isZero_iff, right.isZero_iff] using someZero
    rw [zero_eq_ofRat, mul_eq_zero.mpr valueZero]
  · rename_i noneZero
    have bothNonzero : x.value ≠ 0 ∧ y.value ≠ 0 := by
      simpa [left.isZero_iff, right.isZero_iff] using noneZero
    split
    · rename_i isOne
      rw [(isOne_iff x).mp isOne, one_eq_ofRat, value_ofRat, one_mul]
      exact right.eq_ofRat_of_ne_zero bothNonzero.2
    · split
      · rename_i isOne
        rw [(isOne_iff y).mp isOne, one_eq_ofRat, value_ofRat, mul_one]
        exact left.eq_ofRat_of_ne_zero bothNonzero.1
      · rw [reduce_eq_ofRat (mul_ne_zero left.denominator_ne_zero right.denominator_ne_zero),
          left.value_eq_parts, right.value_eq_parts]
        push_cast
        rw [mul_div_mul_comm]

theorem mul_comm_of_valid : x * y = y * x := by
  rw [mul_eq_ofRat left right, mul_eq_ofRat right left, mul_comm]

omit left in
theorem divide_eq_error (isZero : y.value = 0) : x.divide y = .error .divisionByZero := by
  rw [divide, if_pos (right.isZero_iff.mpr isZero)]

theorem divide_eq_ok (nonzero : y.value ≠ 0) :
    x.divide y = .ok (ofRat (x.value / y.value)) := by
  unfold divide
  rw [if_neg (by simpa [right.isZero_iff] using nonzero)]
  split
  · rename_i isZero
    rw [left.isZero_iff.mp isZero, zero_div, zero_eq_ofRat]
  · rename_i numeratorNonzero
    have dividendNonzero : x.value ≠ 0 := by simpa [left.isZero_iff] using numeratorNonzero
    split
    · rename_i isOne
      rw [(isOne_iff y).mp isOne, one_eq_ofRat, value_ofRat, div_one,
        ← left.eq_ofRat_of_ne_zero dividendNonzero]
    · have numeratorNonzero : y.numerator ≠ 0 := by
        simpa [right.numerator_eq] using nonzero
      rw [reduce_eq_ofRat (mul_ne_zero left.denominator_ne_zero numeratorNonzero),
        left.value_eq_parts, right.value_eq_parts]
      push_cast
      rw [div_div_div_eq]

omit right in
theorem invert_eq_error (isZero : x.value = 0) : x.invert = .error .divisionByZero := by
  rw [invert, if_pos (left.isZero_iff.mpr isZero)]

omit right in
theorem invert_eq_ok (nonzero : x.value ≠ 0) : x.invert = .ok (ofRat x.value⁻¹) := by
  unfold invert
  rw [if_neg (by simpa [left.isZero_iff] using nonzero), left.numerator_eq, left.denominator_eq]
  have numNonzero : x.value.num ≠ 0 := by simpa using nonzero
  split
  · rename_i negative
    rw [ofRat, Rat.num_inv, Rat.den_inv, if_neg numNonzero, Int.sign_eq_neg_one_of_neg negative,
      Int.neg_one_mul, Int.ofNat_natAbs_of_nonpos negative.le]
  · rename_i notNegative
    have positive : 0 < x.value.num := by omega
    rw [ofRat, Rat.num_inv, Rat.den_inv, if_neg numNonzero, Int.sign_eq_one_of_pos positive,
      Int.one_mul, Int.natAbs_of_nonneg positive.le]

end Operations

theorem divideOrAbort_eq_ok_iff (x y quotient : Fraction) :
    x.divideOrAbort y = .ok quotient ↔ x.divide y = .ok quotient := by
  rw [divideOrAbort]
  cases x.divide y <;> simp [Except.mapError]

theorem divideOrAbort_aborts_iff (x y : Fraction) :
    (∃ abort, x.divideOrAbort y = .error abort) ↔ ∃ failure, x.divide y = .error failure := by
  rw [divideOrAbort]
  cases x.divide y <;> simp [Except.mapError]

/-- What the operations on two fractions have to do with those on their values. The formulas over
the parts take no shortcut, `ofRat` brings them into lowest terms. -/
structure RefinesRationals (x y : Fraction) : Prop where
  add_value : (x + y).value = x.value + y.value
  sub_value : (x - y).value = x.value - y.value
  mul_value : (x * y).value = x.value * y.value
  neg_value : (-x).value = -x.value
  add_formula : x + y = ofRat (Rat.divInt
    (x.numerator * y.denominator + x.denominator * y.numerator) (x.denominator * y.denominator))
  sub_formula : x - y = ofRat (Rat.divInt
    (x.numerator * y.denominator - x.denominator * y.numerator) (x.denominator * y.denominator))
  mul_formula : x * y = ofRat (Rat.divInt
    (x.numerator * y.numerator) (x.denominator * y.denominator))
  divide_fails : x.divide y = .error .divisionByZero ↔ y.value = 0
  divide_value : y.value ≠ 0 → ∃ quotient, x.divide y = .ok quotient ∧
    quotient.value = x.value / y.value ∧
    quotient = ofRat (Rat.divInt (x.numerator * y.denominator) (x.denominator * y.numerator))
  divideOrAbort_aborts :
    (∃ abort, x.divideOrAbort y = .error abort) ↔ ∃ failure, x.divide y = .error failure
  divideOrAbort_value :
    ∀ quotient, x.divideOrAbort y = .ok quotient ↔ x.divide y = .ok quotient
  invert_fails : (∃ failure, x.invert = .error failure) ↔ x.value = 0
  invert_value : x.value ≠ 0 → ∃ inverse, x.invert = .ok inverse ∧ inverse.value = 1 / x.value

theorem field_operations_refine {x y : Fraction} (left : x.Valid) (right : y.Valid) :
    RefinesRationals x y := by
  have leftNonzero : (x.denominator : Rat) ≠ 0 := by exact_mod_cast left.denominator_ne_zero
  have rightNonzero : (y.denominator : Rat) ≠ 0 := by exact_mod_cast right.denominator_ne_zero
  constructor
  case add_value => rw [add_eq_ofRat left right, value_ofRat]
  case sub_value => rw [sub_eq_ofRat left right, value_ofRat]
  case mul_value => rw [mul_eq_ofRat left right, value_ofRat]
  case neg_value => rw [neg_eq_ofRat left, value_ofRat]
  case add_formula =>
    rw [add_eq_ofRat left right, left.value_eq_parts, right.value_eq_parts,
      div_add_div _ _ leftNonzero rightNonzero, Rat.divInt_eq_div]
    push_cast
    rfl
  case sub_formula =>
    rw [sub_eq_ofRat left right, left.value_eq_parts, right.value_eq_parts,
      div_sub_div _ _ leftNonzero rightNonzero, Rat.divInt_eq_div]
    push_cast
    rfl
  case mul_formula =>
    rw [mul_eq_ofRat left right, left.value_eq_parts, right.value_eq_parts, div_mul_div_comm,
      Rat.divInt_eq_div]
    push_cast
    rfl
  case divide_fails =>
    constructor
    · intro fails
      by_contra nonzero
      rw [divide_eq_ok left right nonzero] at fails
      cases fails
    · exact divide_eq_error right
  case divide_value =>
    intro nonzero
    refine ⟨_, divide_eq_ok left right nonzero, value_ofRat _, ?_⟩
    rw [left.value_eq_parts, right.value_eq_parts, div_div_div_eq, Rat.divInt_eq_div]
    push_cast
    rfl
  case divideOrAbort_aborts => exact divideOrAbort_aborts_iff x y
  case divideOrAbort_value => exact divideOrAbort_eq_ok_iff x y
  case invert_fails =>
    constructor
    · rintro ⟨failure, fails⟩
      by_contra nonzero
      rw [invert_eq_ok left nonzero] at fails
      cases fails
    · exact fun isZero => ⟨_, invert_eq_error left isZero⟩
  case invert_value =>
    intro nonzero
    exact ⟨_, invert_eq_ok left nonzero, by rw [value_ofRat, one_div]⟩

theorem field_operations_refine_unequal_denominators :
    (⟨-5, 6⟩ : Fraction).Valid ∧ (⟨3, 4⟩ : Fraction).Valid ∧
      RefinesRationals ⟨-5, 6⟩ ⟨3, 4⟩ := by
  have left : (⟨-5, 6⟩ : Fraction).Valid := Or.inl ⟨by decide, by decide⟩
  have right : (⟨3, 4⟩ : Fraction).Valid := Or.inl ⟨by decide, by decide⟩
  exact ⟨left, right, field_operations_refine left right⟩

end LowestTerms.Fraction
