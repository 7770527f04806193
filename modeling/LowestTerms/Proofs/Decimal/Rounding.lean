import LowestTerms.Decimal.Rounding
import LowestTerms.Proofs.Decimal.Exact
import LowestTerms.Proofs.Decimal.Prescription

/-!
Rounding with an exact library. Moving the point of a magnitude by no more digits than it has after
the point never leaves the range, and neither does the integer above it, since a digit has been
dropped; so no failure is reached, and the result is the integer that the mode prescribes, with the
point moved back.
-/

namespace LowestTerms.Decimal

open RoundingMode (towardZero awayFromZero nearestTowardZero nearestAwayFromZero)

def factor (digits : Nat) : Decimal := ⟨false, 10 ^ digits, 0⟩

theorem value_factor (digits : Nat) : (factor digits).value = 10 ^ digits := by
  rw [factor, value_whole]
  simp [signFactor]

theorem value_half : half.value = 1 / 2 := by
  norm_num [half, value_eq, signFactor]

theorem value_two : two.value = 2 := by
  norm_num [two, value_eq, signFactor]

theorem factor_valid {digits : Nat} (within : digits ≤ maxScale) : (factor digits).Valid := by
  have largest : 10 ^ digits ≤ 10 ^ 28 := Nat.pow_le_pow_right (by decide) within
  exact ⟨lt_of_le_of_lt largest (by decide), Nat.zero_le _⟩

theorem powerOfTen_eq {digits : Nat} (within : digits ≤ maxScale) :
    powerOfTen digits = .ok (factor digits) := by
  have magnitude : (Int.pow 10 digits).natAbs = 10 ^ digits := Int.natAbs_pow 10 digits
  have notNegative : ¬Int.pow 10 digits < 0 := not_lt.mpr (Int.pow_nonneg (by decide))
  have fits : 10 ^ digits < limit := (factor_valid within).1
  simp only [powerOfTen, ofInt?, ofInt, magnitude, fits, if_true, notNegative, decide_false, factor]

theorem not_kept {d : Decimal} (valid : d.Valid) {digits : Nat} (discards : digits < d.scale) :
    ¬(decide (maxScale < digits) || decide (d.scale ≤ digits)) = true := by
  have within : d.scale ≤ maxScale := valid.2
  simp only [Bool.or_eq_true, decide_eq_true_eq]
  omega

def RoundsTo (outcome : Except Interruption Decimal) (digits : Nat) (chosen : Int) : Prop :=
  ∃ rounded, outcome = .ok rounded ∧ rounded.Valid ∧ rounded.value = chosen / 10 ^ digits

theorem signum_product_exact {library : Library} (exact : library.Exact) (d : Decimal)
    {unsigned : Decimal} (unsignedValid : unsigned.Valid) :
    ∃ rounded, library.product d.signum unsigned = some rounded ∧ rounded.Valid ∧
      rounded.value = SignType.sign d.value * unsigned.value := by
  rw [← value_signum]
  apply exact.product d.signum unsigned (signum_valid d) unsignedValid
    (if d.isZero then zero
      else ⟨d.negative != unsigned.negative, unsigned.mantissa, unsigned.scale⟩)
  · split
    · exact ⟨by decide, by decide⟩
    · exact unsignedValid
  · cases isZero : d.isZero with
    | true => simp [signum, isZero, value_eq, zero]
    | false =>
        simp only [signum, isZero, Bool.false_eq_true, if_false, value_eq, signFactor_bne]
        simp
        ring

theorem sign_mul_powerOfTen (number : Rat) (digits : Nat) :
    SignType.sign (number * 10 ^ digits) = SignType.sign number := by
  rw [sign_mul, sign_pos (by positivity : (0 : Rat) < 10 ^ digits), mul_one]

section

variable {library : Library} (exact : library.Exact) {d : Decimal} (valid : d.Valid)
  {digits : Nat} (discards : digits < d.scale)

include exact valid discards

theorem shifted_exact :
    ∃ magnitude, shifted library d (factor digits) = .ok magnitude ∧ magnitude.Valid ∧
      magnitude.value = |d.value * 10 ^ digits| := by
  have within : digits ≤ maxScale := discards.le.trans valid.2
  have target : d.abs.value * (factor digits).value = |d.value * 10 ^ digits| := by
    rw [value_abs, value_factor, abs_mul, abs_of_pos (by positivity : (0 : Rat) < 10 ^ digits)]
  have represented : value ⟨false, d.mantissa, d.scale - digits⟩ =
      d.abs.value * (factor digits).value := by
    have power : (10 : Rat) ^ d.scale = 10 ^ (d.scale - digits) * 10 ^ digits := by
      rw [← pow_add, Nat.sub_add_cancel discards.le]
    rw [value_eq, value_eq, value_factor]
    simp only [abs, power]
    field_simp
  obtain ⟨magnitude, found, magnitudeValid, value⟩ :=
    exact.product d.abs (factor digits) (abs_valid valid) (factor_valid within)
      ⟨false, d.mantissa, d.scale - digits⟩ ⟨valid.1, (Nat.sub_le _ _).trans valid.2⟩ represented
  refine ⟨magnitude, ?_, magnitudeValid, value.trans target⟩
  rw [shifted, found]

theorem unshift_exact {magnitude : Decimal} (magnitudeValid : magnitude.Valid)
    (whole : magnitude.scale = 0) :
    ∃ rounded, unshift library d magnitude (factor digits) = .ok rounded ∧ rounded.Valid ∧
      rounded.value = SignType.sign d.value * magnitude.value / 10 ^ digits := by
  have within : digits ≤ maxScale := discards.le.trans valid.2
  have nonzero : (factor digits).value ≠ 0 := by
    rw [value_factor]
    positivity
  have represented : value ⟨magnitude.negative, magnitude.mantissa, digits⟩ =
      magnitude.value / (factor digits).value := by
    rw [value_eq, value_eq, value_factor, whole, pow_zero, div_one, mul_div_assoc]
  obtain ⟨unsigned, found, unsignedValid, unsignedValue⟩ :=
    exact.quotient magnitude (factor digits) magnitudeValid (factor_valid within) nonzero
      ⟨magnitude.negative, magnitude.mantissa, digits⟩ ⟨magnitudeValid.1, within⟩ represented
  obtain ⟨rounded, signed, roundedValid, value⟩ :=
    signum_product_exact exact d unsignedValid
  refine ⟨rounded, ?_, roundedValid, ?_⟩
  · rw [unshift, found]
    simp only [signed]
  · rw [value, unsignedValue, value_factor, mul_div_assoc]

theorem roundUp_exact :
    RoundsTo (roundUp library d (factor digits)) digits (awayFromZero (d.value * 10 ^ digits)) := by
  obtain ⟨magnitude, moved, magnitudeValid, value⟩ := shifted_exact exact valid discards
  obtain ⟨rounded, found, roundedValid, roundedValue⟩ :=
    unshift_exact exact valid discards (ceil_valid magnitudeValid) (toInteger_scale _ _)
  refine ⟨rounded, ?_, roundedValid, ?_⟩
  · simp only [roundUp, moved, bind, Except.bind, found]
  · rw [roundedValue, value_ceil, value, ← RoundingMode.sign_mul_ceil_abs, sign_mul_powerOfTen]

theorem roundDown_exact :
    RoundsTo (roundDown library d (factor digits)) digits (towardZero (d.value * 10 ^ digits)) := by
  obtain ⟨magnitude, moved, magnitudeValid, value⟩ := shifted_exact exact valid discards
  obtain ⟨rounded, found, roundedValid, roundedValue⟩ :=
    unshift_exact exact valid discards (floor_valid magnitudeValid) (toInteger_scale _ _)
  refine ⟨rounded, ?_, roundedValid, ?_⟩
  · simp only [roundDown, moved, bind, Except.bind, found]
  · rw [roundedValue, value_floor, value, ← RoundingMode.sign_mul_floor_abs, sign_mul_powerOfTen]

/-- The discarded part is that of the magnitude, and it is tested without loss. -/
theorem roundOn_exact {increases : Decimal → Bool} {test : Rat → Prop} [DecidablePred test]
    (decides : ∀ discarded, increases discarded = true ↔ test discarded.value) :
    RoundsTo (roundOn library increases d (factor digits)) digits
      (if test (Int.fract |d.value * 10 ^ digits|) then awayFromZero (d.value * 10 ^ digits)
        else towardZero (d.value * 10 ^ digits)) := by
  obtain ⟨magnitude, moved, _, value⟩ := shifted_exact exact valid discards
  have nonnegative : 0 ≤ magnitude.value := by
    rw [value]
    exact abs_nonneg _
  have tested : increases magnitude.fract = true ↔ test (Int.fract |d.value * 10 ^ digits|) := by
    rw [decides, value_fract_of_nonneg nonnegative, value]
  simp only [roundOn, moved, bind, Except.bind]
  by_cases passes : increases magnitude.fract = true
  · rw [if_pos passes, if_pos (tested.mp passes)]
    exact roundUp_exact exact valid discards
  · rw [if_neg passes, if_neg (mt tested.mpr passes)]
    exact roundDown_exact exact valid discards

theorem round_halfUp_exact :
    RoundsTo (round library d digits .halfUp) digits
      (nearestAwayFromZero (d.value * 10 ^ digits)) := by
  have decides : ∀ discarded, (order discarded half).isGE = true ↔ 1 / 2 ≤ discarded.value := by
    intro discarded
    rw [order_isGE_iff, value_half]
  rw [round, if_neg (not_kept valid discards), powerOfTen_eq (discards.le.trans valid.2)]
  exact roundOn_exact exact valid discards decides

theorem round_halfDown_exact :
    RoundsTo (round library d digits .halfDown) digits
      (nearestTowardZero (d.value * 10 ^ digits)) := by
  have decides : ∀ discarded, (order discarded half).isGT = true ↔ 1 / 2 < discarded.value := by
    intro discarded
    rw [order_isGT_iff, value_half]
  rw [round, if_neg (not_kept valid discards), powerOfTen_eq (discards.le.trans valid.2)]
  exact roundOn_exact exact valid discards decides

theorem shifted_even_exact :
    ∃ magnitude, shifted library d (factor digits) = .ok magnitude ∧
      ((magnitude.floor.remainder two).isZero = true ↔ Even ⌊|d.value * 10 ^ digits|⌋) := by
  obtain ⟨magnitude, moved, _, value⟩ := shifted_exact exact valid discards
  refine ⟨magnitude, moved, ?_⟩
  rw [remainder_isZero_iff, value_floor, value, value_two, even_iff_exists_two_mul]
  apply exists_congr
  intro halved
  rw [← @Int.cast_inj Rat]
  push_cast
  rfl

theorem round_exact (mode : RoundingMode) :
    RoundsTo (round library d digits mode) digits (mode.integer (d.value * 10 ^ digits)) := by
  have unit : (0 : Rat) < 10 ^ digits := by positivity
  cases mode with
  | ceiling =>
      rw [round, if_neg (not_kept valid discards), powerOfTen_eq (discards.le.trans valid.2)]
      cases sign : d.negative with
      | true =>
          have nonpositive := mul_nonpos_of_nonpos_of_nonneg (value_nonpos sign) unit.le
          have prescribed := roundDown_exact exact valid discards
          rw [RoundingMode.towardZero_of_nonpos nonpositive] at prescribed
          exact prescribed
      | false =>
          have nonnegative := mul_nonneg (value_nonneg sign) unit.le
          have prescribed := roundUp_exact exact valid discards
          rw [RoundingMode.awayFromZero_of_nonneg nonnegative] at prescribed
          exact prescribed
  | floor =>
      rw [round, if_neg (not_kept valid discards), powerOfTen_eq (discards.le.trans valid.2)]
      cases sign : d.negative with
      | true =>
          have nonpositive := mul_nonpos_of_nonpos_of_nonneg (value_nonpos sign) unit.le
          have prescribed := roundUp_exact exact valid discards
          rw [RoundingMode.awayFromZero_of_nonpos nonpositive] at prescribed
          exact prescribed
      | false =>
          have nonnegative := mul_nonneg (value_nonneg sign) unit.le
          have prescribed := roundDown_exact exact valid discards
          rw [RoundingMode.towardZero_of_nonneg nonnegative] at prescribed
          exact prescribed
  | down =>
      rw [round, if_neg (not_kept valid discards), powerOfTen_eq (discards.le.trans valid.2)]
      exact roundDown_exact exact valid discards
  | up =>
      rw [round, if_neg (not_kept valid discards), powerOfTen_eq (discards.le.trans valid.2)]
      exact roundUp_exact exact valid discards
  | halfDown => exact round_halfDown_exact exact valid discards
  | halfUp => exact round_halfUp_exact exact valid discards
  | halfEven =>
      obtain ⟨magnitude, moved, even⟩ := shifted_even_exact exact valid discards
      rw [round, if_neg (not_kept valid discards), powerOfTen_eq (discards.le.trans valid.2)]
      simp only [moved, bind, Except.bind, RoundingMode.integer, ← even]
      split
      · exact round_halfDown_exact exact valid discards
      · exact round_halfUp_exact exact valid discards
  | halfOdd =>
      obtain ⟨magnitude, moved, even⟩ := shifted_even_exact exact valid discards
      rw [round, if_neg (not_kept valid discards), powerOfTen_eq (discards.le.trans valid.2)]
      simp only [moved, bind, Except.bind, RoundingMode.integer, ← even]
      split
      · exact round_halfUp_exact exact valid discards
      · exact round_halfDown_exact exact valid discards

end

theorem round_of_kept {library : Library} {d : Decimal} {digits : Nat} (kept : d.scale ≤ digits)
    (mode : RoundingMode) : round library d digits mode = .ok d := by
  rw [round, if_pos]
  simp [kept]

/-- Rounding succeeds for every decimal, number of digits and mode. A decimal without more digits
is returned as it is; any other one becomes the prescribed multiple of the last digit kept. -/
theorem round_prescribed (library : Library) (exact : library.Exact) (d : Decimal)
    (valid : d.Valid) (digits : Nat) (mode : RoundingMode) :
    ∃ rounded, round library d digits mode = .ok rounded ∧ rounded.Valid ∧
      (d.scale ≤ digits → rounded = d) ∧
      (digits < d.scale → ∃ chosen : Int,
        rounded.value = chosen / 10 ^ digits ∧
          mode.Prescribes (d.value * 10 ^ digits) chosen) := by
  by_cases kept : d.scale ≤ digits
  · refine ⟨d, round_of_kept kept mode, valid, fun _ => rfl, ?_⟩
    intro discards
    omega
  · have discards : digits < d.scale := by omega
    obtain ⟨rounded, found, roundedValid, value⟩ := round_exact exact valid discards mode
    refine ⟨rounded, found, roundedValid, fun stays => absurd stays kept, fun _ => ?_⟩
    exact ⟨_, value, RoundingMode.prescribes_integer mode _⟩

theorem round_prescribed_negative_tie :
    ∃ rounded, round Library.standard ⟨true, 25, 1⟩ 0 .halfEven = .ok rounded ∧
      rounded.Valid ∧ rounded.value = -2 := by
  have point : (Decimal.value ⟨true, 25, 1⟩) * 10 ^ 0 = -5 / 2 := by decide +kernel
  have even : RoundingMode.integer .halfEven (-5 / 2) = -2 := by decide +kernel
  obtain ⟨rounded, found, roundedValid, _, discarded⟩ :=
    round_prescribed Library.standard standard_exact ⟨true, 25, 1⟩ (by decide) 0 .halfEven
  obtain ⟨chosen, roundedValue, prescribed⟩ := discarded (by decide)
  rw [point, RoundingMode.prescribes_iff, even] at prescribed
  refine ⟨rounded, found, roundedValid, ?_⟩
  rw [roundedValue, prescribed]
  norm_num

end LowestTerms.Decimal
