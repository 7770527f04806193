import LowestTerms.Proofs.Binary.Magnitude
import LowestTerms.Proofs.Decimal.Closest

/-!
Rounding to a binary format. The magnitude that `nearest` finds is the nearest one, ties go to the
even magnitude, and infinity is chosen like the number that follows the largest finite one. There is
only one such magnitude for each number, and it grows with the number.
-/

namespace LowestTerms.Binary.Format

def Beats (format : Format) (number : Rat) (index other : Nat) : Prop :=
  |number - format.number index| < |number - format.number other| ∨
    |number - format.number index| = |number - format.number other| ∧ Even index

def IsNearest (format : Format) (number : Rat) (index : Nat) : Prop :=
  index ≤ format.infinity ∧
    ∀ other ≤ format.infinity, other ≠ index → format.Beats number index other

section

variable {format : Format}

theorem Beats.distance_le {number : Rat} {index other : Nat}
    (beats : format.Beats number index other) :
    |number - format.number index| ≤ |number - format.number other| := by
  rcases beats with nearer | ⟨same, _⟩
  · exact nearer.le
  · exact same.le

theorem IsNearest.distance_le {number : Rat} {index : Nat} (nearest : format.IsNearest number index)
    {other : Nat} (allowed : other ≤ format.infinity) :
    |number - format.number index| ≤ |number - format.number other| := by
  by_cases same : other = index
  · rw [same]
  · exact (nearest.2 other allowed same).distance_le

theorem isNearest_number {index : Nat} (allowed : index ≤ format.infinity) :
    format.IsNearest (format.number index) index := by
  refine ⟨allowed, ?_⟩
  intro other _ different
  apply Or.inl
  rw [sub_self, abs_zero, abs_pos, sub_ne_zero]
  exact fun same => different (format.number_strictMono.injective same).symm

theorem midpoint_le {number lower upper : Rat} (less : lower < upper)
    (nearer : |number - upper| ≤ |number - lower|) : lower + upper ≤ 2 * number := by
  have squared := sq_le_sq.mpr nearer
  by_contra below
  have positive : 0 < (upper - lower) * (lower + upper - 2 * number) :=
    mul_pos (sub_pos.mpr less) (by linarith)
  linarith [squared, positive, sq (number - upper), sq (number - lower)]

theorem le_midpoint {number lower upper : Rat} (less : lower < upper)
    (nearer : |number - lower| ≤ |number - upper|) : 2 * number ≤ lower + upper := by
  have mirrored : |-number - -lower| ≤ |-number - -upper| := by
    rwa [neg_sub_neg, neg_sub_neg, abs_sub_comm, abs_sub_comm upper]
  have opposite := midpoint_le (neg_lt_neg less) mirrored
  linarith

/-- Two magnitudes that are nearest would both be even, and the one between them nearer. -/
theorem IsNearest.none_greater {number : Rat} {lower upper : Nat}
    (lowerNearest : format.IsNearest number lower) (upperNearest : format.IsNearest number upper) :
    ¬lower < upper := by
  intro less
  have lessNumber := format.number_strictMono less
  have above := midpoint_le lessNumber (upperNearest.distance_le lowerNearest.1)
  have below := le_midpoint lessNumber (lowerNearest.distance_le upperNearest.1)
  have lowerBeats := lowerNearest.2 upper upperNearest.1 less.ne'
  have upperBeats := upperNearest.2 lower lowerNearest.1 less.ne
  have same : |number - format.number lower| = |number - format.number upper| :=
    le_antisymm lowerBeats.distance_le upperBeats.distance_le
  have lowerEven : Even lower := by
    rcases lowerBeats with nearer | ⟨_, even⟩
    · exact absurd same nearer.ne
    · exact even
  have upperEven : Even upper := by
    rcases upperBeats with nearer | ⟨_, even⟩
    · exact absurd same nearer.ne'
    · exact even
  have between : lower + 1 < upper := by
    obtain ⟨half, rfl⟩ := lowerEven
    obtain ⟨otherHalf, rfl⟩ := upperEven
    omega
  have nextAllowed : lower + 1 ≤ format.infinity := between.le.trans upperNearest.1
  have next := le_midpoint (format.number_strictMono (Nat.lt_succ_self lower))
    (lowerNearest.distance_le nextAllowed)
  have nextLess := format.number_strictMono between
  linarith

theorem IsNearest.unique {number : Rat} {index other : Nat}
    (nearest : format.IsNearest number index) (otherNearest : format.IsNearest number other) :
    index = other :=
  le_antisymm (not_lt.mp (otherNearest.none_greater nearest))
    (not_lt.mp (nearest.none_greater otherNearest))

theorem IsNearest.mono {smaller larger : Rat} {index other : Nat} (atMost : smaller ≤ larger)
    (nearest : format.IsNearest smaller index) (otherNearest : format.IsNearest larger other) :
    index ≤ other := by
  by_contra swapped
  have less := format.number_strictMono (not_le.mp swapped)
  have below := le_midpoint less (otherNearest.distance_le nearest.1)
  have above := midpoint_le less (nearest.distance_le otherNearest.1)
  have same : smaller = larger := by linarith
  subst same
  exact swapped (nearest.unique otherNearest).le

/-- Numbers that are rounded to one magnitude have no other numbers between them. -/
theorem IsNearest.of_between {smaller number larger : Rat} {index other : Nat}
    (smallerNearest : format.IsNearest smaller index)
    (largerNearest : format.IsNearest larger index) (nearest : format.IsNearest number other)
    (above : smaller ≤ number) (below : number ≤ larger) : other = index :=
  le_antisymm (nearest.mono below largerNearest) (smallerNearest.mono above nearest)

end

theorem even_binade {format : Format} (twoBits : 2 ≤ format.precision) : Even format.binade := by
  rw [binade, Nat.pow_eq, Nat.even_pow]
  exact ⟨even_two, by omega⟩

theorem isTie_of_equidistant {number : Rat} {point other : Nat}
    (nearest : RoundingMode.IsNearest number Even point) (different : other ≠ point)
    (same : |number - point| = |number - other|) : RoundingMode.IsTie number := by
  have within := nearest.within_half
  rw [Int.cast_natCast] at within
  have otherWithin := same ▸ within
  rw [abs_le] at within otherWithin
  rcases lt_or_gt_of_ne different with less | greater
  · have apart : (other : Rat) + 1 ≤ point := by exact_mod_cast less
    refine ⟨other, ?_⟩
    rw [Int.cast_natCast]
    linarith
  · have apart : (point : Rat) + 1 ≤ other := by exact_mod_cast greater
    refine ⟨point, ?_⟩
    rw [Int.cast_natCast]
    linarith

section Grid

variable {format : Format} {number : Rat} {steps point : Nat}
  (lower : steps = 0 ∨ format.number (steps * format.binade + format.binade) ≤ number)
  (upper : number < format.number (steps * format.binade + 2 * format.binade))
  (rounded : (point : Int) =
    RoundingMode.halfEven.integer (number / 2 ^ (format.leastExponent + steps)))

include lower rounded in
theorem least_le_rounded : steps = 0 ∨ format.binade ≤ point := by
  rcases lower with first | reached
  · exact .inl first
  · right
    rw [format.number_on_grid (.inr le_rfl) (by omega), ← le_div_iff₀ (by positivity)] at reached
    have floor : (format.binade : Int) ≤ ⌊number / 2 ^ (format.leastExponent + steps)⌋ :=
      Int.le_floor.mpr (by exact_mod_cast reached)
    have mode := RoundingMode.floor_le_integer .halfEven
      (number / 2 ^ (format.leastExponent + steps))
    omega

include upper rounded in
theorem rounded_le_greatest : point ≤ 2 * format.binade := by
  rw [format.number_on_grid (by omega) le_rfl, ← div_lt_iff₀ (by positivity)] at upper
  have ceil : ⌈number / 2 ^ (format.leastExponent + steps)⌉ ≤ ((2 * format.binade : Nat) : Int) :=
    Int.ceil_le.mpr (by exact_mod_cast upper.le)
  have mode := RoundingMode.integer_le_ceil .halfEven
    (number / 2 ^ (format.leastExponent + steps))
  omega

include lower upper rounded

theorem beats_on_grid (twoBits : 2 ≤ format.precision) {other : Nat}
    (otherLeast : steps = 0 ∨ format.binade ≤ other) (otherGreatest : other ≤ 2 * format.binade)
    (different : other ≠ point) :
    format.Beats number (steps * format.binade + point) (steps * format.binade + other) := by
  have unit : (0 : Rat) < 2 ^ (format.leastExponent + steps) := by positivity
  have nearest := RoundingMode.halfEven_isNearest (number / 2 ^ (format.leastExponent + steps))
  rw [← rounded] at nearest
  have scaled : ∀ candidate : Nat, |number - candidate * 2 ^ (format.leastExponent + steps)| =
      |number / 2 ^ (format.leastExponent + steps) - candidate| *
        2 ^ (format.leastExponent + steps) := by
    intro candidate
    rw [← abs_of_pos unit, ← abs_mul, sub_mul, abs_of_pos unit, div_mul_cancel₀ _ unit.ne']
  rw [Beats, format.number_on_grid (least_le_rounded lower rounded)
    (rounded_le_greatest upper rounded), format.number_on_grid otherLeast otherGreatest, scaled,
    scaled]
  have atMost := nearest.1 other
  simp only [Int.cast_natCast] at atMost
  rcases atMost.lt_or_eq with nearer | same
  · exact .inl (mul_lt_mul_of_pos_right nearer unit)
  · have pointEven : Even point := by
      exact_mod_cast nearest.2 (isTie_of_equidistant nearest different same)
    exact .inr ⟨by rw [same], ((even_binade twoBits).mul_left steps).add pointEven⟩

/-- On its grid the point found beats every other one, and beyond either end no magnitude is nearer
than that end. -/
theorem beats_of_rounded (twoBits : 2 ≤ format.precision) {other : Nat}
    (different : other ≠ steps * format.binade + point) :
    format.Beats number (steps * format.binade + point) other := by
  have onGrid : ∀ candidate, steps = 0 ∨ format.binade ≤ candidate →
      candidate ≤ 2 * format.binade →
      |number - format.number (steps * format.binade + point)| ≤
        |number - format.number (steps * format.binade + candidate)| := by
    intro candidate least greatest
    by_cases same : candidate = point
    · rw [same]
    · exact (beats_on_grid lower upper rounded twoBits least greatest same).distance_le
  by_cases below : other < steps * format.binade + format.binade ∧ steps ≠ 0
  · left
    have reached := lower.resolve_left below.2
    have less := format.number_strictMono below.1
    have nearer := onGrid format.binade (.inr le_rfl) (by omega)
    rw [abs_of_nonneg (sub_nonneg.mpr reached)] at nearer
    rw [abs_of_nonneg (sub_nonneg.mpr (less.le.trans reached))]
    linarith
  · by_cases above : steps * format.binade + 2 * format.binade < other
    · left
      have less := format.number_strictMono above
      have nearer := onGrid (2 * format.binade) (by omega) le_rfl
      rw [abs_of_nonpos (sub_nonpos.mpr upper.le)] at nearer
      rw [abs_of_nonpos (sub_nonpos.mpr (upper.trans less).le)]
      linarith
    · have atLeast : steps * format.binade ≤ other := by
        rcases Nat.eq_zero_or_pos steps with first | later
        · rw [first]
          omega
        · omega
      obtain ⟨candidate, rfl⟩ := Nat.exists_eq_add_of_le atLeast
      apply beats_on_grid lower upper rounded twoBits
      · omega
      · omega
      · omega

end Grid

/-- Where there are no greater magnitudes than infinity, it takes the place of all of them. -/
theorem isNearest_min {format : Format} {number : Rat} {index : Nat}
    (beats : ∀ other, other ≠ index → format.Beats number index other) :
    format.IsNearest number (min index format.infinity) := by
  rcases le_or_gt index format.infinity with finite | beyond
  · rw [Nat.min_eq_left finite]
    exact ⟨finite, fun other _ => beats other⟩
  · rw [Nat.min_eq_right beyond.le]
    refine ⟨le_rfl, ?_⟩
    intro other allowed different
    have less := format.number_strictMono (lt_of_le_of_ne allowed different)
    have lessIndex := format.number_strictMono beyond
    have above := midpoint_le lessIndex (beats format.infinity beyond.ne).distance_le
    left
    rw [abs_of_pos (by linarith), abs_of_pos (by linarith)]
    linarith

section

variable {format : Format} {dividend divisor : Nat} (dividendNonzero : dividend ≠ 0)
  (divisorNonzero : divisor ≠ 0)

include divisorNonzero in
theorem nearestInteger_scaled (exponent : Int) :
    (nearestInteger .even (dividend * (powerOfTwo exponent).2)
      (divisor * (powerOfTwo exponent).1) : Int) =
        RoundingMode.halfEven.integer (dividend / divisor / 2 ^ exponent) := by
  have positive : 0 < divisor * (powerOfTwo exponent).1 :=
    Nat.mul_pos (Nat.pos_of_ne_zero divisorNonzero) (powerOfTwo_pos exponent).1
  rw [nearestInteger_even_eq _ positive, ← powerOfTwo_quotient, div_div_div_eq]
  push_cast
  rfl

include dividendNonzero divisorNonzero

/-- The exponent is chosen so that the number stands between one power of two and the next, or below
all normal numbers. -/
theorem roundingExponent_brackets (twoBits : 2 ≤ format.precision) {steps : Nat}
    (exponent : format.roundingExponent dividend divisor = format.leastExponent + steps) :
    (steps = 0 ∨ format.number (steps * format.binade + format.binade) ≤ dividend / divisor) ∧
      (dividend / divisor : Rat) < format.number (steps * format.binade + 2 * format.binade) := by
  obtain ⟨reached, less⟩ := floorLog2_brackets dividendNonzero divisorNonzero
  have binade : (format.binade : Rat) = 2 ^ ((format.precision - 1 : Nat) : Int) := by
    rw [zpow_natCast, Format.binade, Nat.pow_eq]
    push_cast
    rfl
  have start : format.number (steps * format.binade + format.binade) =
      2 ^ (format.leastExponent + steps + (format.precision - 1 : Nat)) := by
    rw [format.number_on_grid (.inr le_rfl) (by omega), binade, ← zpow_add₀ two_ne_zero, add_comm]
  have finish : format.number (steps * format.binade + 2 * format.binade) =
      2 ^ (format.leastExponent + steps + (format.precision - 1 : Nat) + 1) := by
    rw [zpow_add_one₀ two_ne_zero, ← start, format.number_on_grid (.inr le_rfl) (by omega),
      format.number_on_grid (by omega) le_rfl]
    push_cast
    ring
  rw [roundingExponent] at exponent
  rw [start, finish]
  constructor
  · rcases Nat.eq_zero_or_pos steps with first | later
    · exact .inl first
    · right
      refine le_trans (zpow_le_zpow_right₀ one_le_two ?_) reached
      omega
  · refine less.trans_le (zpow_le_zpow_right₀ one_le_two ?_)
    omega

end

theorem nearest_isNearest {format : Format} (twoBits : 2 ≤ format.precision) (dividend : Nat)
    {divisor : Nat} (divisorNonzero : divisor ≠ 0) :
    format.IsNearest (dividend / divisor) (format.nearest dividend divisor) := by
  unfold nearest
  split
  · rename_i isZero
    have first := isNearest_number (Nat.zero_le format.infinity)
    rw [number_zero] at first
    rwa [isZero, Nat.cast_zero, zero_div]
  · rename_i dividendNonzero
    have least : format.leastExponent ≤ format.roundingExponent dividend divisor :=
      le_max_right _ _
    obtain ⟨steps, exponent⟩ := Int.le.dest least
    have stepsEq : (format.roundingExponent dividend divisor - format.leastExponent).toNat =
        steps := by omega
    obtain ⟨lower, upper⟩ :=
      roundingExponent_brackets dividendNonzero divisorNonzero twoBits exponent.symm
    simp only [stepsEq]
    apply isNearest_min
    intro other different
    apply beats_of_rounded lower upper _ twoBits different
    rw [nearestInteger_scaled divisorNonzero, exponent]

theorem nearest_eq_iff {format : Format} (twoBits : 2 ≤ format.precision)
    {dividend divisor index : Nat} (divisorNonzero : divisor ≠ 0) :
    format.nearest dividend divisor = index ↔ format.IsNearest (dividend / divisor) index := by
  have nearest := nearest_isNearest twoBits dividend divisorNonzero
  constructor
  · rintro rfl
    exact nearest
  · exact nearest.unique

end LowestTerms.Binary.Format
