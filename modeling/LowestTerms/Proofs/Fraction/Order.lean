import Mathlib.Algebra.Order.Group.Unbundled.Basic
import Mathlib.Algebra.Order.Field.Basic
import Mathlib.Algebra.Order.Field.Rat
import Mathlib.Data.Rat.Lemmas
import Mathlib.Order.Compare
import LowestTerms.Fraction.Order
import LowestTerms.Proofs.Fraction.Field

/-!
Fractions are ordered as their values are, whether the order compares numerators or products. Since
a value has only one pair of parts, equality and hashing see values too, and none of the three can
tell an undefined fraction from zero.
-/

namespace LowestTerms

theorem compare_quotients (first second : Int) {divisor : Int} (positive : 0 < divisor) :
    compare ((first : Rat) / divisor) (second / divisor) = compare first second := by
  have divisorPositive : (0 : Rat) < divisor := by exact_mod_cast positive
  have increasing : StrictMono (fun dividend : Int => (dividend : Rat) / divisor) := by
    intro smaller larger less
    apply (div_lt_div_iff_of_pos_right divisorPositive).mpr
    exact_mod_cast less
  rw [← cmp_eq_compare, ← cmp_eq_compare]
  exact increasing.cmp_map_eq first second

theorem compare_sign_num (number : Rat) : compare number.num.sign 0 = compare number 0 := by
  rcases lt_trichotomy number 0 with negative | isZero | positive
  · have signed : number.num.sign < 0 := Int.sign_neg_iff.mpr (Rat.num_neg.mpr negative)
    rw [compare_lt_iff_lt.mpr negative, compare_lt_iff_lt.mpr signed]
  · rw [isZero]
    rfl
  · have signed : 0 < number.num.sign := Int.sign_pos_iff.mpr (Rat.num_pos.mpr positive)
    rw [compare_gt_iff_gt.mpr positive, compare_gt_iff_gt.mpr signed]

namespace Fraction

section

variable {x y : Fraction} (left : x.Valid) (right : y.Valid)

include left right

theorem order_eq_compare : x.order y = compare x.value y.value := by
  have leftPositive := left.denominator_pos
  have rightPositive := right.denominator_pos
  rw [left.value_eq_parts, right.value_eq_parts]
  unfold order
  split
  · rename_i same
    rw [← same, compare_quotients _ _ leftPositive]
  · have leftNonzero : (x.denominator : Rat) ≠ 0 := by exact_mod_cast leftPositive.ne'
    have rightNonzero : (y.denominator : Rat) ≠ 0 := by exact_mod_cast rightPositive.ne'
    rw [← compare_quotients _ _ (Int.mul_pos leftPositive rightPositive)]
    push_cast
    rw [mul_div_mul_right _ _ rightNonzero, mul_div_mul_left _ _ leftNonzero]

theorem parts_eq_iff : x.parts = y.parts ↔ x.value = y.value := by
  rw [parts, parts, left.numerator_eq, left.denominator_eq, right.numerator_eq,
    right.denominator_eq, Prod.mk.injEq, Int.ofNat_inj]
  exact ⟨fun same => Rat.ext same.1 same.2, fun same => same ▸ ⟨rfl, rfl⟩⟩

theorem beq_iff_value_eq : (x == y) = true ↔ x.value = y.value := by
  change (x.parts == y.parts) = true ↔ _
  rw [beq_iff_eq, parts_eq_iff left right]

theorem order_eq_iff : x.order y = .eq ↔ x.value = y.value := by
  rw [order_eq_compare left right, compare_eq_iff_eq]

theorem order_lt_iff : x.order y = .lt ↔ x.value < y.value := by
  rw [order_eq_compare left right, compare_lt_iff_lt]

theorem atMost_iff : x.atMost y = true ↔ x.value ≤ y.value := by
  rw [atMost, bne_iff_ne, order_eq_compare left right, compare_le_iff_le]

theorem order_eq_compare_sign : x.order y = compare (x - y).sign 0 := by
  have difference : (x - y).sign = (x.value - y.value).num.sign := by
    rw [sub_eq_ofRat left right]
    rfl
  rw [difference, compare_sign_num, order_eq_compare left right, ← cmp_eq_compare,
    ← cmp_eq_compare, cmp_sub_zero]

end

structure Coherent (x y : Fraction) : Prop where
  order_value : x.order y = compare x.value y.value
  order_reversed : y.order x = (x.order y).swap
  partialOrder_total : x.partialOrder y = some (x.order y)
  order_difference : x.order y = compare (x - y).sign 0
  equal_iff_order : (x == y) = true ↔ x.order y = .eq
  equal_iff_value : (x == y) = true ↔ x.value = y.value
  equal_iff_hashKey : (x == y) = true ↔ x.hashKey = y.hashKey

/-- Order, equality and hash agree on all fractions that exist, and the order is total. -/
theorem order_is_order_of_values {x y z : Fraction} (first : x.Valid) (second : y.Valid)
    (third : z.Valid) :
    Coherent x y ∧
      (x.atMost y = true ∨ y.atMost x = true) ∧
      (x.atMost y = true → y.atMost x = true → (x == y) = true) ∧
      (x.atMost y = true → y.atMost z = true → x.atMost z = true) := by
  have coherent : Coherent x y := by
    constructor
    case order_value => exact order_eq_compare first second
    case order_reversed =>
      rw [order_eq_compare first second, order_eq_compare second first]
      exact Std.OrientedOrd.eq_swap
    case partialOrder_total => rfl
    case order_difference => exact order_eq_compare_sign first second
    case equal_iff_order => rw [beq_iff_value_eq first second, order_eq_iff first second]
    case equal_iff_value => exact beq_iff_value_eq first second
    case equal_iff_hashKey =>
      rw [beq_iff_value_eq first second]
      exact (parts_eq_iff first second).symm
  rw [atMost_iff first second, atMost_iff second first, atMost_iff second third,
    atMost_iff first third, coherent.equal_iff_value]
  exact ⟨coherent, le_total x.value y.value, le_antisymm, le_trans⟩

theorem order_is_order_of_values_across_branches :
    (⟨-1, 2⟩ : Fraction).Valid ∧ undefined.Valid ∧ (⟨1, 3⟩ : Fraction).Valid ∧
      Coherent ⟨-1, 2⟩ undefined ∧ (⟨-1, 2⟩ : Fraction).atMost ⟨1, 3⟩ = true := by
  have negative : (⟨-1, 2⟩ : Fraction).Valid := Or.inl ⟨by decide, by decide⟩
  have isUndefined : undefined.Valid := Or.inr rfl
  have positive : (⟨1, 3⟩ : Fraction).Valid := Or.inl ⟨by decide, by decide⟩
  obtain ⟨coherent, _, _, transitive⟩ := order_is_order_of_values negative isUndefined positive
  exact ⟨negative, isUndefined, positive, coherent, transitive (by decide) (by decide)⟩

end Fraction

end LowestTerms
