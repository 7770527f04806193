import LowestTerms.Proofs.Decimal.Stages

/-!
What the eight modes make of one decimal. There are two candidates, the results of `down` and `up`;
they are one unit of the last digit apart unless nothing is discarded. The modes that go to the
nearer candidate agree unless exactly half a unit is discarded, and then the even and the odd one
part. Opposite decimals have opposite results, with ceiling and floor in each other's place.
-/

namespace LowestTerms.Decimal

open RoundingMode (halves)

def discarded (d : Decimal) (digits : Nat) : Rat :=
  (d.mantissa % 10 ^ (d.scale - digits) : Nat) / (10 ^ (d.scale - digits) : Nat)

theorem fract_abs_shifted (d : Decimal) (digits : Nat) :
    Int.fract |d.value * 10 ^ digits| = d.discarded digits := by
  have magnitude : |d.value * 10 ^ digits| = d.mantissa / (10 ^ d.scale : Nat) * 10 ^ digits := by
    rw [abs_mul, abs_value_eq, abs_of_pos (by positivity : (0 : Rat) < 10 ^ digits)]
  rw [magnitude, discarded, ← Int.fract_div_natCast_eq_div_natCast_mod]
  rcases le_total digits d.scale with fewer | enough
  · congr 1
    have power : 10 ^ d.scale = 10 ^ (d.scale - digits) * 10 ^ digits := by
      rw [← pow_add, Nat.sub_add_cancel fewer]
    rw [power]
    push_cast
    field_simp
  · have power : (10 : Rat) ^ digits = (10 ^ d.scale : Nat) * 10 ^ (digits - d.scale) := by
      rw [Nat.cast_pow, Nat.cast_ofNat, ← pow_add, Nat.add_sub_cancel' enough]
    have whole : (d.mantissa : Rat) / (10 ^ d.scale : Nat) * 10 ^ digits =
        (d.mantissa * 10 ^ (digits - d.scale) : Nat) := by
      rw [power]
      push_cast
      field_simp
    rw [whole, Int.fract_natCast, Nat.sub_eq_zero_of_le enough, pow_zero, Nat.cast_one, div_one,
      Int.fract_natCast]

structure ModesRelated (digits : Nat) (discarded : Rat) (result : RoundingMode → Rat) : Prop where
  floor_least (mode : RoundingMode) : result .floor ≤ result mode
  ceiling_greatest (mode : RoundingMode) : result mode ≤ result .ceiling
  down_smallest (mode : RoundingMode) : |result .down| ≤ |result mode|
  up_largest (mode : RoundingMode) : |result mode| ≤ |result .up|
  down_or_up (mode : RoundingMode) : result mode = result .down ∨ result mode = result .up
  one_unit_apart : discarded ≠ 0 → |result .up - result .down| = 1 / 10 ^ digits
  nothing_discarded : discarded = 0 → result .up = result .down
  halves_agree : discarded ≠ 1 / 2 → ∀ mode ∈ halves, ∀ other ∈ halves, result mode = result other
  tie_parted : discarded = 1 / 2 → result .halfEven ≠ result .halfOdd

theorem modesRelated_onGrid (number : Rat) (digits : Nat) :
    ModesRelated digits (Int.fract |number * 10 ^ digits|)
      (fun mode => mode.onGrid digits number) := by
  have unit : (0 : Rat) < 10 ^ digits := by positivity
  constructor
  case floor_least =>
    intro mode
    exact RoundingMode.onGrid_le (mode.floor_le_integer _)
  case ceiling_greatest =>
    intro mode
    exact RoundingMode.onGrid_le (mode.integer_le_ceil _)
  case down_smallest =>
    intro mode
    exact RoundingMode.abs_onGrid_le (mode.abs_towardZero_le _)
  case up_largest =>
    intro mode
    exact RoundingMode.abs_onGrid_le (mode.le_abs_awayFromZero _)
  case down_or_up =>
    intro mode
    rcases mode.integer_eq_or (number * 10 ^ digits) with toward | away
    · exact Or.inl (RoundingMode.onGrid_congr toward)
    · exact Or.inr (RoundingMode.onGrid_congr away)
  case one_unit_apart =>
    intro inexact
    have apart := RoundingMode.neighbours_apart inexact
    simp only [RoundingMode.onGrid, RoundingMode.integer]
    rw [← sub_div, abs_div, abs_of_pos unit, ← Int.cast_sub, ← Int.cast_abs, apart, Int.cast_one]
  case nothing_discarded =>
    intro exact
    exact RoundingMode.onGrid_congr (RoundingMode.neighbours_eq exact)
  case halves_agree =>
    intro noTie mode half other otherHalf
    apply RoundingMode.onGrid_congr
    rw [RoundingMode.integer_of_halves half noTie, RoundingMode.integer_of_halves otherHalf noTie]
  case tie_parted =>
    intro tie same
    simp only [RoundingMode.onGrid] at same
    rw [div_left_inj' unit.ne', Int.cast_inj] at same
    exact RoundingMode.halfEven_ne_halfOdd tie same

/-- All eight modes succeed, on a decimal and on its opposite, and their results are related. -/
theorem rounding_modes_related {library : Library} (exact : library.Exact) {d : Decimal}
    (valid : d.Valid) (digits : Nat) :
    ∃ rounded opposite : RoundingMode → Decimal,
      (∀ mode, round library d digits mode = .ok (rounded mode)) ∧
      (∀ mode, round library d.opposite digits mode = .ok (opposite mode)) ∧
      ModesRelated digits (d.discarded digits) (fun mode => (rounded mode).value) ∧
      ∀ mode : RoundingMode, (opposite mode.mirrored).value = -(rounded mode).value := by
  choose rounded found _ value using round_onGrid exact valid digits
  choose opposite oppositeFound _ oppositeValue using
    round_onGrid exact (opposite_valid valid) digits
  refine ⟨rounded, opposite, found, oppositeFound, ?_, ?_⟩
  · simp only [value, ← fract_abs_shifted]
    exact modesRelated_onGrid d.value digits
  · intro mode
    rw [oppositeValue, value, value_opposite, RoundingMode.onGrid_neg]

theorem rounding_modes_related_negative_tie :
    ∃ rounded opposite : RoundingMode → Decimal,
      (∀ mode, round .standard ⟨true, 2345, 3⟩ 2 mode = .ok (rounded mode)) ∧
      (∀ mode, round .standard ⟨false, 2345, 3⟩ 2 mode = .ok (opposite mode)) ∧
      (rounded .halfEven).value ≠ (rounded .halfOdd).value ∧
      (opposite .floor).value = -(rounded .ceiling).value := by
  obtain ⟨rounded, opposite, found, oppositeFound, related, mirrored⟩ :=
    rounding_modes_related standard_exact (d := ⟨true, 2345, 3⟩) (by decide) 2
  have tie : (⟨true, 2345, 3⟩ : Decimal).discarded 2 = 1 / 2 := by decide +kernel
  exact ⟨rounded, opposite, found, oppositeFound, related.tie_parted tie, mirrored .ceiling⟩

end LowestTerms.Decimal
