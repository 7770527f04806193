import LowestTerms.Proofs.Fraction.Order

/-!
Fractions made of two integers. Their parts stand in the proportion of the integers, in lowest terms
and over a positive denominator, and there is only one such pair; so two quotients make the same
fraction exactly when their cross products are equal, and a factor that both integers share is lost,
whatever its sign.
-/

namespace LowestTerms.Fraction

theorem ofParts_eq_error_iff (dividend divisor : Int) :
    ofParts dividend divisor = .error .divisionByZero ↔ divisor = 0 := by
  by_cases isZero : divisor = 0
  · simp [ofParts, isZero]
  · simp [ofParts, isZero]

theorem ofParts_eq_ok (dividend : Int) {divisor : Int} (nonzero : divisor ≠ 0) :
    ofParts dividend divisor = .ok (ofRat (dividend / divisor)) := by
  rw [ofParts, if_neg nonzero, reduce_eq_ofRat nonzero]

theorem ofParts_scaled (dividend divisor : Int) {factor : Int} (nonzero : factor ≠ 0) :
    ofParts (dividend * factor) (divisor * factor) = ofParts dividend divisor := by
  by_cases isZero : divisor = 0
  · simp [ofParts, isZero]
  · have factorNonzero : (factor : Rat) ≠ 0 := by exact_mod_cast nonzero
    rw [ofParts_eq_ok _ isZero, ofParts_eq_ok _ (mul_ne_zero isZero nonzero)]
    push_cast
    rw [mul_div_mul_right _ _ factorNonzero]

theorem Valid.ofParts_parts {x : Fraction} (valid : x.Valid) :
    ofParts x.numerator x.denominator = .ok (ofRat x.value) := by
  rw [ofParts_eq_ok _ valid.denominator_ne_zero, ← valid.value_eq_parts]

theorem parts_ofRat (number : Rat) : (ofRat number).parts = (number.num, (number.den : Int)) := by
  have valid := valid_ofRat number
  rw [parts, valid.numerator_eq, valid.denominator_eq, value_ofRat]

structure IsReduced (dividend divisor : Int) (x : Fraction) : Prop where
  proportional : x.numerator * divisor = dividend * x.denominator
  positive : 0 < x.denominator
  coprime : Int.gcd x.numerator x.denominator = 1

theorem isReduced_ofRat (dividend : Int) {divisor : Int} (nonzero : divisor ≠ 0) :
    IsReduced dividend divisor (ofRat (dividend / divisor)) := by
  generalize isQuotient : (dividend / divisor : Rat) = number
  obtain ⟨numerator, denominator⟩ := Prod.mk.inj (parts_ofRat number)
  constructor
  case proportional =>
    have divisorNonzero : (divisor : Rat) ≠ 0 := by exact_mod_cast nonzero
    have denominatorNonzero : (number.den : Rat) ≠ 0 := by exact_mod_cast number.den_nz
    have cross : (number.num : Rat) * divisor = dividend * number.den := by
      rw [← div_eq_div_iff denominatorNonzero divisorNonzero, number.num_div_den, isQuotient]
    rw [numerator, denominator]
    exact_mod_cast cross
  case positive =>
    rw [denominator]
    exact_mod_cast number.den_pos
  case coprime =>
    rw [numerator, denominator]
    exact number.reduced

theorem quotient_eq_iff {dividend divisor other otherDivisor : Int} (nonzero : divisor ≠ 0)
    (otherNonzero : otherDivisor ≠ 0) :
    (dividend / divisor : Rat) = other / otherDivisor ↔
      dividend * otherDivisor = other * divisor := by
  rw [div_eq_div_iff (by exact_mod_cast nonzero) (by exact_mod_cast otherNonzero)]
  exact_mod_cast Iff.rfl

/-- Two integers make a fraction unless the second is zero; which one depends on their proportion
alone, and its own parts make it again. -/
theorem ofParts_reduces_uniquely :
    (∀ dividend divisor : Int, ofParts dividend divisor = .error .divisionByZero ↔ divisor = 0) ∧
    (∀ dividend divisor : Int, divisor ≠ 0 →
      ∃ x, ofParts dividend divisor = .ok x ∧ IsReduced dividend divisor x) ∧
    (∀ dividend divisor other otherDivisor : Int, divisor ≠ 0 → otherDivisor ≠ 0 →
      ∃ x y, ofParts dividend divisor = .ok x ∧ ofParts other otherDivisor = .ok y ∧
        (x.parts = y.parts ↔ dividend * otherDivisor = other * divisor)) ∧
    (∀ dividend divisor factor : Int, factor ≠ 0 →
      ofParts (dividend * factor) (divisor * factor) = ofParts dividend divisor) ∧
    (∀ x : Fraction, x.Valid → ∃ again, ofParts x.numerator x.denominator = .ok again ∧
      again.parts = x.parts ∧ (x.isUndefined = false → again = x)) ∧
    (∀ dividend divisor : Int, divisor ≠ 0 →
      ofParts dividend divisor = .ok (ofPartsOrZero dividend divisor)) ∧
    ∀ dividend : Int, ofPartsOrZero dividend 0 = zero := by
  refine ⟨ofParts_eq_error_iff, ?reduced, ?unique, ?scaled, ?again, ?orZero, fun _ => rfl⟩
  case reduced =>
    intro dividend divisor nonzero
    exact ⟨_, ofParts_eq_ok dividend nonzero, isReduced_ofRat dividend nonzero⟩
  case unique =>
    intro dividend divisor other otherDivisor nonzero otherNonzero
    refine ⟨_, _, ofParts_eq_ok dividend nonzero, ofParts_eq_ok other otherNonzero, ?_⟩
    rw [parts_eq_iff (valid_ofRat _) (valid_ofRat _), value_ofRat, value_ofRat,
      quotient_eq_iff nonzero otherNonzero]
  case scaled =>
    intro dividend divisor factor nonzero
    exact ofParts_scaled dividend divisor nonzero
  case again =>
    intro x valid
    refine ⟨_, valid.ofParts_parts, ?_, ?_⟩
    · rw [parts_eq_iff (valid_ofRat _) valid, value_ofRat]
    · intro isDefined
      have canonical : x.Canonical := by
        refine valid.resolve_right ?_
        rintro rfl
        contradiction
      exact canonical.eq_ofRat.symm
  case orZero =>
    intro dividend divisor nonzero
    rw [ofParts, ofPartsOrZero, if_neg nonzero, if_neg nonzero]

theorem ofParts_reduces_uniquely_least_divisor :
    (∃ x, ofParts 6 (-2 ^ 63) = .ok x ∧ IsReduced 6 (-2 ^ 63) x) ∧
      ofParts 6 (-2 ^ 63) = .ok (ofPartsOrZero 6 (-2 ^ 63)) ∧
      ofParts (6 * -5) (-4 * -5) = ofParts 6 (-4) ∧
      (∃ x y, ofParts 6 (-4) = .ok x ∧ ofParts (-9) 6 = .ok y ∧ x.parts = y.parts) ∧
      ∃ again, ofParts 0 1 = .ok again ∧ again.parts = undefined.parts := by
  -- The least integer of 64 bits has no opposite of 64 bits, but is a divisor like any other.
  obtain ⟨_, reduced, unique, scaled, again, orZero, _⟩ := ofParts_reduces_uniquely
  obtain ⟨x, y, made, otherMade, same⟩ := unique 6 (-4) (-9) 6 (by decide) (by decide)
  obtain ⟨restored, found, sameParts, _⟩ := again undefined (Or.inr rfl)
  exact ⟨reduced _ _ (by decide), orZero _ _ (by decide), scaled _ _ _ (by decide),
    ⟨x, y, made, otherMade, same.mpr rfl⟩, restored, found, sameParts⟩

end LowestTerms.Fraction
