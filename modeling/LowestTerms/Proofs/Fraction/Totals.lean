import Mathlib.Algebra.BigOperators.Group.List.Basic
import Mathlib.Algebra.BigOperators.Ring.List
import LowestTerms.Proofs.Fraction.Closure

/-!
Sums and products of lists. One step of either finds the fraction in lowest terms of its new value,
also where it hands back the member or the total so far, so that a whole list is answered by the sum
or product of its values and neither the order of its members nor where it is cut can be told.
-/

namespace LowestTerms.Fraction

/-- If each step follows an operation on values, so does the whole list. -/
theorem foldl_ofRat {combine : Fraction → Fraction → Fraction} {operation : Rat → Rat → Rat}
    (step : ∀ (total : Rat) (x : Fraction), x.Valid →
      combine (ofRat total) x = ofRat (operation total x.value))
    {xs : List Fraction} (valid : ∀ x ∈ xs, x.Valid) (total : Rat) :
    xs.foldl combine (ofRat total) = ofRat ((xs.map value).foldl operation total) := by
  induction xs generalizing total with
  | nil => rfl
  | cons x rest ih =>
      obtain ⟨firstValid, restValid⟩ := List.forall_mem_cons.mp valid
      rw [List.foldl_cons, step total x firstValid, ih restValid, List.map_cons, List.foldl_cons]

theorem add_step (total : Rat) (x : Fraction) (valid : x.Valid) :
    add (ofRat total) x = ofRat (total + x.value) := by
  have added := add_eq_ofRat (valid_ofRat total) valid
  rwa [value_ofRat] at added

theorem mul_step (total : Rat) (x : Fraction) (valid : x.Valid) :
    mul (ofRat total) x = ofRat (total * x.value) := by
  have multiplied := mul_eq_ofRat (valid_ofRat total) valid
  rwa [value_ofRat] at multiplied

section

variable {xs : List Fraction} (valid : ∀ x ∈ xs, x.Valid)

include valid

theorem sum_eq_ofRat : sum xs = ofRat (xs.map value).sum := by
  rw [sum, zero_eq_ofRat, foldl_ofRat add_step valid, List.sum_eq_foldl]

theorem product_eq_ofRat : product xs = ofRat (xs.map value).prod := by
  rw [product, one_eq_ofRat, foldl_ofRat mul_step valid, List.prod_eq_foldl]

theorem sum_perm {ys : List Fraction} (permuted : xs.Perm ys) : sum xs = sum ys := by
  have permutedValid : ∀ y ∈ ys, y.Valid := fun y member => valid y (permuted.mem_iff.mpr member)
  rw [sum_eq_ofRat valid, sum_eq_ofRat permutedValid, (permuted.map value).sum_eq]

theorem product_perm {ys : List Fraction} (permuted : xs.Perm ys) : product xs = product ys := by
  have permutedValid : ∀ y ∈ ys, y.Valid := fun y member => valid y (permuted.mem_iff.mpr member)
  rw [product_eq_ofRat valid, product_eq_ofRat permutedValid, (permuted.map value).prod_eq]

theorem sum_append {ys : List Fraction} (otherValid : ∀ y ∈ ys, y.Valid) :
    sum (xs ++ ys) = sum xs + sum ys := by
  have bothValid := List.forall_mem_append.mpr ⟨valid, otherValid⟩
  rw [add_eq_ofRat (.inl (canonical_sum valid)) (.inl (canonical_sum otherValid)),
    sum_eq_ofRat bothValid, sum_eq_ofRat valid, sum_eq_ofRat otherValid, value_ofRat, value_ofRat,
    List.map_append, List.sum_append]

theorem product_append {ys : List Fraction} (otherValid : ∀ y ∈ ys, y.Valid) :
    product (xs ++ ys) = product xs * product ys := by
  have bothValid := List.forall_mem_append.mpr ⟨valid, otherValid⟩
  rw [mul_eq_ofRat (.inl (canonical_product valid)) (.inl (canonical_product otherValid)),
    product_eq_ofRat bothValid, product_eq_ofRat valid, product_eq_ofRat otherValid, value_ofRat,
    value_ofRat, List.map_append, List.prod_append]

theorem product_eq_zero_iff : product xs = zero ↔ ∃ x ∈ xs, x = zero ∨ x = undefined := by
  -- The value of a member is zero in two ways, which its product does not tell apart.
  have isZero_iff : ∀ x ∈ xs, x.value = 0 ↔ x = zero ∨ x = undefined := by
    intro x member
    constructor
    · intro isZero
      exact (valid x member).zero_stored (beq_iff_eq.mp ((valid x member).isZero_iff.mpr isZero))
    · rintro (rfl | rfl)
      · rw [zero_eq_ofRat, value_ofRat]
      · exact value_undefined
  rw [product_eq_ofRat valid, zero_eq_ofRat, ofRat_injective.eq_iff, List.prod_eq_zero_iff,
    List.mem_map]
  constructor
  · rintro ⟨x, member, isZero⟩
    exact ⟨x, member, (isZero_iff x member).mp isZero⟩
  · rintro ⟨x, member, isZero⟩
    exact ⟨x, member, (isZero_iff x member).mpr isZero⟩

end

/-- The sum and the product of a list are those of its values, in lowest terms. Members in another
order give the same parts, two lists give what their results give together, and a product is zero
only through a member that is. -/
theorem sum_and_product_of_values :
    (∀ xs : List Fraction, (∀ x ∈ xs, x.Valid) →
      (sum xs).value = (xs.map value).sum ∧ (sum xs).Canonical ∧
      (product xs).value = (xs.map value).prod ∧ (product xs).Canonical ∧
      (sum xs).isUndefined = false ∧ (product xs).isUndefined = false ∧
      (product xs = zero ↔ ∃ x ∈ xs, x = zero ∨ x = undefined)) ∧
    (∀ xs ys : List Fraction, (∀ x ∈ xs, x.Valid) → xs.Perm ys →
      sum xs = sum ys ∧ product xs = product ys) ∧
    ∀ xs ys : List Fraction, (∀ x ∈ xs, x.Valid) → (∀ y ∈ ys, y.Valid) →
      sum (xs ++ ys) = sum xs + sum ys ∧ product (xs ++ ys) = product xs * product ys := by
  refine ⟨?results, ?permuted, ?appended⟩
  case results =>
    intro xs valid
    have sumCanonical := canonical_sum valid
    have productCanonical := canonical_product valid
    refine ⟨?_, sumCanonical, ?_, productCanonical, sumCanonical.isUndefined_eq_false,
      productCanonical.isUndefined_eq_false, product_eq_zero_iff valid⟩
    · rw [sum_eq_ofRat valid, value_ofRat]
    · rw [product_eq_ofRat valid, value_ofRat]
  case permuted =>
    intro xs ys valid permuted
    exact ⟨sum_perm valid permuted, product_perm valid permuted⟩
  case appended =>
    intro xs ys valid otherValid
    exact ⟨sum_append valid otherValid, product_append valid otherValid⟩

theorem sum_and_product_of_values_through_zero :
    (sum [⟨1, 2⟩, ⟨-1, 2⟩, undefined, ⟨3, 4⟩]).value = 3 / 4 ∧
      product [⟨1, 2⟩, ⟨-1, 2⟩, undefined, ⟨3, 4⟩] = zero ∧
      sum [⟨1, 2⟩, ⟨-1, 2⟩, undefined, ⟨3, 4⟩] = sum [⟨3, 4⟩, undefined, ⟨-1, 2⟩, ⟨1, 2⟩] ∧
      product ([⟨1, 2⟩] ++ [⟨2, 1⟩]) = product [⟨1, 2⟩] * product [⟨2, 1⟩] := by
  obtain ⟨results, permuted, appended⟩ := sum_and_product_of_values
  have half : (⟨1, 2⟩ : Fraction).Valid := .inl ⟨by decide, by decide⟩
  have two : (⟨2, 1⟩ : Fraction).Valid := .inl ⟨by decide, by decide⟩
  have valid : ∀ x ∈ [⟨1, 2⟩, ⟨-1, 2⟩, undefined, (⟨3, 4⟩ : Fraction)], x.Valid := by
    intro x member
    simp only [List.mem_cons, List.not_mem_nil, or_false] at member
    rcases member with rfl | rfl | rfl | rfl
    · exact half
    · exact .inl ⟨by decide, by decide⟩
    · exact .inr rfl
    · exact .inl ⟨by decide, by decide⟩
  obtain ⟨sumValue, _, _, _, _, _, zero_iff⟩ := results _ valid
  refine ⟨?_, ?_, ?_, ?_⟩
  · rw [sumValue]
    decide +kernel
  · exact zero_iff.mpr ⟨undefined, by simp, .inr rfl⟩
  · exact (permuted _ _ valid (List.reverse_perm _).symm).1
  · exact (appended _ _ (by simpa using half) (by simpa using two)).2

end LowestTerms.Fraction
