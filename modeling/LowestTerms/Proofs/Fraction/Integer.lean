import Mathlib.Tactic.Ring
import LowestTerms.Proofs.Fraction.Closure
import LowestTerms.Proofs.Fraction.Order

/-!
Operations with an integer give what they give with the whole fraction of that integer. Neither
needs the other's path: both are the fraction in lowest terms of the same number.
-/

namespace LowestTerms.Fraction

theorem valid_ofInt (n : Int) : (ofInt n).Valid :=
  .inl (canonical_ofInt n)

theorem value_ofInt (n : Int) : (ofInt n).value = n := by
  rw [ofInt_eq_ofRat, value_ofRat]

section

variable {x : Fraction} (valid : x.Valid) (n : Int)

include valid

theorem Valid.cast_numerator : (x.numerator : Rat) = x.value * x.denominator := by
  have nonzero : (x.denominator : Rat) ≠ 0 := by exact_mod_cast valid.denominator_ne_zero
  rw [valid.value_eq_parts, div_mul_cancel₀ _ nonzero]

theorem reduce_over_denominator {dividend : Int} {number : Rat}
    (widened : (dividend : Rat) = number * x.denominator) :
    reduce dividend x.denominator = ofRat number := by
  have nonzero : (x.denominator : Rat) ≠ 0 := by exact_mod_cast valid.denominator_ne_zero
  rw [reduce_eq_ofRat valid.denominator_ne_zero, widened, mul_div_cancel_right₀ _ nonzero]

theorem addInt_eq_add : x.addInt n = x + ofInt n := by
  rw [add_eq_ofRat valid (valid_ofInt n), value_ofInt, addInt]
  apply reduce_over_denominator valid
  push_cast
  rw [valid.cast_numerator]
  ring

theorem subInt_eq_sub : x.subInt n = x - ofInt n := by
  rw [sub_eq_ofRat valid (valid_ofInt n), value_ofInt, subInt]
  apply reduce_over_denominator valid
  push_cast
  rw [valid.cast_numerator]
  ring

theorem intSub_eq_sub : intSub n x = ofInt n - x := by
  rw [sub_eq_ofRat (valid_ofInt n) valid, value_ofInt, intSub]
  apply reduce_over_denominator valid
  push_cast
  rw [valid.cast_numerator]
  ring

theorem mulInt_eq_mul : x.mulInt n = x * ofInt n := by
  rw [mul_eq_ofRat valid (valid_ofInt n), value_ofInt, mulInt]
  split
  · rename_i isZero
    rw [isZero, Int.cast_zero, mul_zero, zero_eq_ofRat]
  · apply reduce_over_denominator valid
    push_cast
    rw [valid.cast_numerator]
    ring

theorem divideInt_eq_divide : x.divideInt n = x.divideOrAbort (ofInt n) := by
  rw [divideInt, divideOrAbort]
  by_cases isZero : n = 0
  · have fails : x.divide (ofInt n) = .error .divisionByZero :=
      divide_eq_error (valid_ofInt n) (by rw [value_ofInt, isZero, Int.cast_zero])
    rw [if_pos isZero, fails]
    rfl
  · have nonzero : (ofInt n).value ≠ 0 := by
      rw [value_ofInt]
      exact_mod_cast isZero
    rw [if_neg isZero, divide_eq_ok valid (valid_ofInt n) nonzero,
      reduce_eq_ofRat (mul_ne_zero valid.denominator_ne_zero isZero), value_ofInt,
      valid.value_eq_parts, Int.cast_mul, div_div]
    rfl

theorem intDivide_eq_divide : intDivide n x = (ofInt n).divideOrAbort x := by
  rw [intDivide, divideOrAbort]
  by_cases isZero : x.isZero = true
  · rw [if_pos isZero, divide_eq_error valid (valid.isZero_iff.mp isZero)]
    rfl
  · have nonzero : x.value ≠ 0 := mt valid.isZero_iff.mpr isZero
    have numeratorNonzero : x.numerator ≠ 0 := by
      rw [valid.numerator_eq]
      exact Rat.num_ne_zero.mpr nonzero
    rw [if_neg isZero, divide_eq_ok (valid_ofInt n) valid nonzero, reduce_eq_ofRat numeratorNonzero,
      value_ofInt, valid.value_eq_parts, Int.cast_mul, div_div_eq_mul_div, mul_comm]
    rfl

theorem orderInt_eq_order : x.orderInt n = x.order (ofInt n) := by
  have nonzero : (x.denominator : Rat) ≠ 0 := by exact_mod_cast valid.denominator_ne_zero
  rw [order_eq_compare valid (valid_ofInt n), orderInt,
    ← compare_quotients _ _ valid.denominator_pos, value_ofInt, valid.value_eq_parts, Int.cast_mul,
    mul_div_cancel_left₀ _ nonzero]

theorem intOrder_eq_order : intOrder n x = (ofInt n).order x := by
  rw [intOrder, orderInt_eq_order valid, order_eq_compare valid (valid_ofInt n),
    order_eq_compare (valid_ofInt n) valid]
  exact Std.OrientedOrd.eq_swap.symm

end

theorem equalsInt_eq_beq (x : Fraction) (n : Int) : x.equalsInt n = (x == ofInt n) :=
  Bool.and_comm _ _

theorem beq_swap (x y : Fraction) : (x == y) = (y == x) := by
  change (x.parts == y.parts) = (y.parts == x.parts)
  rw [Bool.eq_iff_iff, beq_iff_eq, beq_iff_eq, eq_comm]

end LowestTerms.Fraction
