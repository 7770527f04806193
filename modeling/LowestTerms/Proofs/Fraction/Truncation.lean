import LowestTerms.Proofs.Decimal.Prescription
import LowestTerms.Proofs.Fraction.Whole

/-!
Truncation. A fraction is taken apart into the whole number next to it on the side of zero and what
is left of it, and there is only one way to do that. Conversion to an integer type hands out that
whole number if the type holds it, also where the conversion goes through a wider type first.
-/

namespace LowestTerms

theorem RoundingMode.eq_towardZero_iff {number : Rat} {whole : Int} :
    whole = towardZero number ↔ |number - whole| < 1 ∧
      (number - whole = 0 ∨ SignType.sign (number - whole) = SignType.sign number) := by
  rw [eq_comm]
  rcases lt_trichotomy number 0 with negative | isZero | positive
  · rw [towardZero_of_nonpos negative.le, sign_neg negative, sign_eq_neg_one_iff, Int.ceil_eq_iff,
      abs_lt, ← le_iff_eq_or_lt, sub_nonpos]
    constructor
    · rintro ⟨above, atMost⟩
      exact ⟨⟨by linarith, by linarith⟩, atMost⟩
    · rintro ⟨⟨above, _⟩, atMost⟩
      exact ⟨by linarith, atMost⟩
  · -- Zero has no side for the rest to be on; the bound alone leaves one integer.
    have small : |(whole : Rat)| < 1 ↔ whole = 0 := by
      rw [← Int.cast_abs, ← Int.cast_one, Int.cast_lt, Int.abs_lt_one_iff]
    rw [isZero, towardZero_of_nonneg le_rfl, Int.floor_zero, zero_sub, abs_neg, small, eq_comm]
    constructor
    · rintro rfl
      exact ⟨rfl, Or.inl (by simp)⟩
    · exact And.left
  · rw [towardZero_of_nonneg positive.le, sign_pos positive, sign_eq_one_iff, Int.floor_eq_iff,
      abs_lt, eq_comm, ← le_iff_eq_or_lt, sub_nonneg]
    constructor
    · rintro ⟨atMost, below⟩
      exact ⟨⟨by linarith, by linarith⟩, atMost⟩
    · rintro ⟨⟨_, below⟩, atMost⟩
      exact ⟨atMost, by linarith⟩

namespace IntegerType

theorem contains_iff (type : IntegerType) (n : Int) :
    type.contains n = true ↔ type.least ≤ n ∧ n ≤ type.greatest := by
  simp [contains]

theorem unsigned_contains_iff_of_nonpos (bits : Nat) {n : Int} (nonpositive : n ≤ 0) :
    contains ⟨false, bits⟩ n = true ↔ n = 0 := by
  have positive : 0 < Nat.pow 2 bits := Nat.pow_pos (by decide)
  simp only [contains_iff, least, greatest, Bool.false_eq_true, if_false]
  omega

theorem contains_direct {type : IntegerType} {n : Int} (fits : type.contains n = true) :
    type.direct.contains n = true := by
  unfold direct
  split
  · rename_i narrow
    rw [contains_iff] at fits ⊢
    have withSign : Nat.pow 2 (type.bits - 1) ≤ Nat.pow 2 (64 - 1) :=
      Nat.pow_le_pow_right (by decide) (by omega)
    have withoutSign : Nat.pow 2 type.bits ≤ Nat.pow 2 64 :=
      Nat.pow_le_pow_right (by decide) narrow.le
    simp only [least, greatest] at fits ⊢
    split at fits
    · rename_i signed
      rw [if_pos signed, if_pos signed]
      omega
    · rename_i unsigned
      rw [if_neg unsigned, if_neg unsigned]
      omega
  · exact fits

end IntegerType

namespace Fraction

section

variable {x : Fraction} (valid : x.Valid)

include valid

theorem Valid.truncate_eq : x.truncate = RoundingMode.towardZero x.value := by
  have numerator := valid.numerator_eq
  rcases le_total 0 x.value with nonnegative | nonpositive
  · have atLeast : 0 ≤ x.numerator := numerator ▸ Rat.num_nonneg.mpr nonnegative
    rw [RoundingMode.towardZero_of_nonneg nonnegative, ← valid.floorInteger_eq, truncate,
      floorInteger, Int.tdiv_eq_ediv_of_nonneg atLeast,
      Int.fdiv_eq_ediv_of_nonneg _ valid.denominator_pos.le]
  · have atMost : 0 ≤ -x.numerator := by
      rw [numerator]
      exact neg_nonneg.mpr (Rat.num_nonpos.mpr nonpositive)
    rw [RoundingMode.towardZero_of_nonpos nonpositive, ← valid.ceilInteger_eq, truncate,
      ceilInteger, Int.fdiv_eq_ediv_of_nonneg _ valid.denominator_pos.le,
      ← Int.tdiv_eq_ediv_of_nonneg atMost, Int.neg_tdiv, neg_neg]

theorem Valid.quotient_eq :
    x.quotientAndRemainder.1 = ofInt (RoundingMode.towardZero x.value) := by
  rw [quotientAndRemainder, valid.truncate_eq]

theorem Valid.remainder_eq :
    x.quotientAndRemainder.2 = ofRat (x.value - RoundingMode.towardZero x.value) := by
  rw [quotientAndRemainder]
  apply reduce_over_denominator valid
  rw [Int.tmod_def, ← truncate, valid.truncate_eq]
  push_cast
  rw [valid.cast_numerator]
  ring

theorem Valid.sign_eq : x.sign = (SignType.sign x.value : Int) := by
  have numerator : x.num = x.value.num := valid.numerator_eq
  rw [sign, numerator]
  rcases lt_trichotomy x.value 0 with negative | isZero | positive
  · rw [sign_neg negative, Int.sign_eq_neg_one_of_neg (Rat.num_neg.mpr negative)]
    rfl
  · rw [isZero, sign_zero]
    rfl
  · rw [sign_pos positive, Int.sign_eq_one_of_pos (Rat.num_pos.mpr positive)]
    rfl

end

structure Parted (x quotient remainder : Fraction) : Prop where
  whole : quotient.isWhole = true
  sum : (quotient + remainder == x) = true
  below_one : remainder.abs.order one = .lt
  same_side : remainder.isZero = true ∨ remainder.sign = x.sign

section

variable {x quotient remainder : Fraction} (valid : x.Valid) (quotientValid : quotient.Valid)
  (remainderValid : remainder.Valid)

include valid remainderValid

theorem Valid.sign_eq_iff :
    remainder.sign = x.sign ↔ SignType.sign remainder.value = SignType.sign x.value := by
  have injective : Function.Injective (SignType.cast : SignType → Int) := by decide
  rw [valid.sign_eq, remainderValid.sign_eq, injective.eq_iff]

include quotientValid

theorem parted_iff :
    Parted x quotient remainder ↔
      quotient.value = RoundingMode.towardZero x.value ∧
        remainder.value = x.value - RoundingMode.towardZero x.value := by
  have sum_iff : (quotient + remainder == x) = true ↔
      quotient.value + remainder.value = x.value := by
    rw [add_eq_ofRat quotientValid remainderValid, beq_iff_value_eq (valid_ofRat _) valid,
      value_ofRat]
  have below_one_iff : remainder.abs.order one = .lt ↔ |remainder.value| < 1 := by
    rw [abs_eq_ofRat remainderValid, one_eq_ofRat, order_lt_iff (valid_ofRat _) (valid_ofRat _),
      value_ofRat, value_ofRat]
  constructor
  · rintro ⟨isWhole, sum, below_one, same_side⟩
    obtain ⟨whole, quotient_eq⟩ := quotientValid.isWhole_iff.mp isWhole
    have remainder_eq : remainder.value = x.value - whole := by
      rw [quotient_eq, ← sum_iff.mp sum, add_sub_cancel_left]
    rw [below_one_iff, remainder_eq] at below_one
    rw [remainderValid.isZero_iff, valid.sign_eq_iff remainderValid, remainder_eq] at same_side
    have truncated := RoundingMode.eq_towardZero_iff.mpr ⟨below_one, same_side⟩
    exact ⟨truncated ▸ quotient_eq.symm, truncated ▸ remainder_eq⟩
  · rintro ⟨quotient_eq, remainder_eq⟩
    have truncated := Eq.refl (RoundingMode.towardZero x.value)
    have ⟨below_one, same_side⟩ := RoundingMode.eq_towardZero_iff.mp truncated
    constructor
    case whole => exact quotientValid.isWhole_iff.mpr ⟨_, quotient_eq.symm⟩
    case sum => rw [sum_iff, quotient_eq, remainder_eq, add_sub_cancel]
    case below_one => rwa [below_one_iff, remainder_eq]
    case same_side =>
      rwa [remainderValid.isZero_iff, valid.sign_eq_iff remainderValid, remainder_eq]

end

section

variable {x : Fraction} (valid : x.Valid)

include valid

theorem Valid.quotient_valid : x.quotientAndRemainder.1.Valid :=
  valid.quotient_eq ▸ valid_ofInt _

theorem Valid.remainder_valid : x.quotientAndRemainder.2.Valid :=
  valid.remainder_eq ▸ valid_ofRat _

theorem Valid.parted : Parted x x.quotientAndRemainder.1 x.quotientAndRemainder.2 := by
  rw [parted_iff valid valid.quotient_valid valid.remainder_valid, valid.quotient_eq,
    valid.remainder_eq, value_ofInt, value_ofRat]
  exact ⟨rfl, rfl⟩

theorem Parted.unique {quotient remainder otherQuotient otherRemainder : Fraction}
    (quotientValid : quotient.Valid) (remainderValid : remainder.Valid)
    (otherQuotientValid : otherQuotient.Valid) (otherRemainderValid : otherRemainder.Valid)
    (parted : Parted x quotient remainder) (otherParted : Parted x otherQuotient otherRemainder) :
    (quotient == otherQuotient) = true ∧ (remainder == otherRemainder) = true := by
  rw [parted_iff valid quotientValid remainderValid] at parted
  rw [parted_iff valid otherQuotientValid otherRemainderValid] at otherParted
  rw [beq_iff_value_eq quotientValid otherQuotientValid,
    beq_iff_value_eq remainderValid otherRemainderValid]
  exact ⟨parted.1.trans otherParted.1.symm, parted.2.trans otherParted.2.symm⟩

theorem Valid.toInteger?_eq (type : IntegerType) :
    x.toInteger? type =
      if type.contains (RoundingMode.towardZero x.value) then
        some (RoundingMode.towardZero x.value)
      else none := by
  rw [toInteger?, toDirectInteger?, valid.truncate_eq]
  by_cases fits : type.contains (RoundingMode.towardZero x.value)
  · rw [if_pos (IntegerType.contains_direct fits), if_pos fits, Option.filter_some, if_pos fits]
  · rw [if_neg fits]
    split
    · rw [Option.filter_some, if_neg fits]
    · rfl

end

/-- Quotient and remainder are the only parting, and what an integer type holds of the quotient is
what conversion to the type hands out. -/
theorem truncation_consistent {x : Fraction} (valid : x.Valid) :
    Parted x x.quotientAndRemainder.1 x.quotientAndRemainder.2 ∧
      (∀ quotient remainder : Fraction, quotient.Valid → remainder.Valid →
        Parted x quotient remainder →
          (quotient == x.quotientAndRemainder.1) = true ∧
            (remainder == x.quotientAndRemainder.2) = true) ∧
      (zero.atMost x = true → x.quotientAndRemainder.1 = x.floor) ∧
      (x.atMost zero = true → x.quotientAndRemainder.1 = x.ceil) ∧
      (∃ n, x.quotientAndRemainder.1 = ofInt n ∧ ∀ type : IntegerType,
        x.toInteger? type = if type.least ≤ n ∧ n ≤ type.greatest then some n else none) ∧
      ((ofInt (-1)).order x = .lt → x.order zero = .lt →
        ∀ bits, x.toInteger? ⟨false, bits⟩ = some 0) ∧
      (x.atMost (ofInt (-1)) = true → ∀ bits, x.toInteger? ⟨false, bits⟩ = none) := by
  have zeroValid : zero.Valid := valid_ofInt 0
  have zeroValue : zero.value = 0 := value_ofInt 0
  refine ⟨valid.parted, ?unique, ?floor, ?ceil, ?integer, ?nearZero, ?negative⟩
  case unique =>
    intro quotient remainder quotientValid remainderValid parted
    exact Parted.unique valid quotientValid remainderValid valid.quotient_valid
      valid.remainder_valid parted valid.parted
  case floor =>
    rw [atMost_iff zeroValid valid, zeroValue]
    intro nonnegative
    rw [valid.quotient_eq, valid.floor_eq, RoundingMode.towardZero_of_nonneg nonnegative]
  case ceil =>
    rw [atMost_iff valid zeroValid, zeroValue]
    intro nonpositive
    rw [valid.quotient_eq, valid.ceil_eq, RoundingMode.towardZero_of_nonpos nonpositive]
  case integer =>
    refine ⟨_, valid.quotient_eq, ?_⟩
    intro type
    simp only [valid.toInteger?_eq, IntegerType.contains_iff]
  case nearZero =>
    rw [order_lt_iff (valid_ofInt _) valid, order_lt_iff valid zeroValid, value_ofInt, zeroValue]
    intro above negative bits
    have truncated : RoundingMode.towardZero x.value = 0 := by
      rw [RoundingMode.towardZero_of_nonpos negative.le, Int.ceil_eq_zero_iff]
      exact ⟨by exact_mod_cast above, negative.le⟩
    have fits := (IntegerType.unsigned_contains_iff_of_nonpos bits le_rfl).mpr rfl
    rw [valid.toInteger?_eq, truncated, if_pos fits]
  case negative =>
    rw [atMost_iff valid (valid_ofInt _), value_ofInt]
    intro atMost bits
    have truncated : RoundingMode.towardZero x.value ≤ -1 := by
      rw [RoundingMode.towardZero_of_nonpos (by push_cast at atMost; linarith)]
      exact Int.ceil_le.mpr atMost
    have fits_iff := IntegerType.unsigned_contains_iff_of_nonpos bits (truncated.trans (by decide))
    rw [valid.toInteger?_eq, if_neg (by rw [fits_iff]; omega)]

theorem truncation_consistent_at_ends :
    (⟨-257, 2⟩ : Fraction).toInteger? ⟨true, 8⟩ = some (-128) ∧
      (⟨-257, 2⟩ : Fraction).toInteger? ⟨false, 8⟩ = none ∧
      (⟨-1, 2⟩ : Fraction).toInteger? ⟨false, 8⟩ = some 0 ∧
      (⟨-257, 2⟩ : Fraction).quotientAndRemainder.1 = (⟨-257, 2⟩ : Fraction).ceil ∧
      (⟨257, 2⟩ : Fraction).quotientAndRemainder.1 = (⟨257, 2⟩ : Fraction).floor ∧
      ((⟨-128, 1⟩ : Fraction) == (⟨-257, 2⟩ : Fraction).quotientAndRemainder.1) = true := by
  have belowLeast : (⟨-257, 2⟩ : Fraction).Valid := Or.inl ⟨by decide, by decide⟩
  have nearZero : (⟨-1, 2⟩ : Fraction).Valid := Or.inl ⟨by decide, by decide⟩
  have positive : (⟨257, 2⟩ : Fraction).Valid := Or.inl ⟨by decide, by decide⟩
  obtain ⟨_, unique, _, ceil, ⟨n, isQuotient, converted⟩, _, negative⟩ :=
    truncation_consistent belowLeast
  obtain ⟨_, _, _, _, _, converts, _⟩ := truncation_consistent nearZero
  obtain ⟨_, _, floor, _⟩ := truncation_consistent positive
  have quotient : n = -128 := (ofInt_inj.mp isQuotient).symm
  have parted : Parted ⟨-257, 2⟩ ⟨-128, 1⟩ ⟨-1, 2⟩ :=
    ⟨by decide, by decide, by decide, by decide⟩
  refine ⟨?_, negative (by decide) 8, converts (by decide) (by decide) 8, ceil (by decide),
    floor (by decide), (unique _ _ (Or.inl ⟨by decide, by decide⟩) nearZero parted).1⟩
  rw [converted, quotient]
  decide

end Fraction

end LowestTerms
