import LowestTerms.Proofs.Decimal.Quotient

/-!
How good a rounded number is. A number is rounded on one grid, the finest on which its mantissa has
room, while the decimals that could be nearer lie on grids of all scales. On that grid and on the
coarser ones none is nearer. The decimals that only finer grids have are smaller in magnitude, as
the number itself has no room there; the largest of them is nearer exactly if the number has only
just run out of room. Order and opposites are kept all the same, and no decimal is skipped.
-/

namespace LowestTerms

namespace RoundingMode

theorem halfEven_isNearest (number : Rat) : IsNearest number Even (halfEven.integer number) :=
  prescribes_integer halfEven number

theorem halfEven_lt_iff {number : Rat} {bound : Int} (even : Even bound) :
    halfEven.integer number < bound ↔ number < bound - 1 / 2 := by
  have nearest := halfEven_isNearest number
  have within := abs_le.mp nearest.within_half
  constructor
  · intro below
    by_contra reaches
    have before : (halfEven.integer number : Rat) ≤ (bound - 1 : Int) := by
      exact_mod_cast Int.le_sub_one_of_lt below
    push_cast at before
    have tie : number = (bound - 1 : Int) + 1 / 2 := by
      push_cast
      linarith
    have last : halfEven.integer number = bound - 1 := by
      have equal : (halfEven.integer number : Rat) = bound - 1 := by linarith
      exact_mod_cast equal
    have lastEven := nearest.2 ⟨bound - 1, tie⟩
    rw [last, Int.even_sub_one] at lastEven
    exact lastEven even
  · intro less
    have below : (halfEven.integer number : Rat) < bound := by linarith
    exact_mod_cast below

end RoundingMode

namespace Decimal

open RoundingMode (halfEven_isNearest halfEven_lt_iff)

theorem cast_limit : (limit : Rat) = 79228162514264337593543950336 := by
  norm_num [limit]

theorem IsFinestScale.neg {number : Rat} {scale : Nat} (finest : IsFinestScale number scale) :
    IsFinestScale (-number) scale := by
  obtain ⟨within, fits, tooFine⟩ := finest
  refine ⟨within, ?_, ?_⟩
  · rwa [nearestMantissa_neg, Int.natAbs_neg]
  · intro larger finer allowed
    rw [nearestMantissa_neg, Int.natAbs_neg]
    exact tooFine larger finer allowed

theorem IsRounded.opposite {number : Rat} {d : Decimal} (rounded : IsRounded number d) :
    IsRounded (-number) d.opposite := by
  obtain ⟨valid, scale, finest, value⟩ := rounded
  refine ⟨opposite_valid valid, scale, finest.neg, ?_⟩
  rw [value_opposite, value, nearestMantissa_neg]
  push_cast
  ring

theorem nearestMantissa_mono {smaller larger : Rat} (atMost : smaller ≤ larger) (scale : Nat) :
    nearestMantissa smaller scale ≤ nearestMantissa larger scale :=
  RoundingMode.integer_mono .halfEven (mul_le_mul_of_nonneg_right atMost (by positivity))

theorem nearestMantissa_nonneg {number : Rat} (nonnegative : 0 ≤ number) (scale : Nat) :
    0 ≤ nearestMantissa number scale := by
  have zero : nearestMantissa 0 scale = 0 := by
    rw [nearestMantissa, zero_mul]
    exact RoundingMode.integer_intCast .halfEven 0
  rw [← zero]
  exact nearestMantissa_mono nonnegative scale

theorem natAbs_nearestMantissa (number : Rat) (scale : Nat) :
    ((nearestMantissa number scale).natAbs : Int) = nearestMantissa |number| scale := by
  rcases le_total 0 number with nonnegative | nonpositive
  · rw [abs_of_nonneg nonnegative]
    exact Int.natAbs_of_nonneg (nearestMantissa_nonneg nonnegative scale)
  · have opposite := nearestMantissa_nonneg (neg_nonneg.mpr nonpositive) scale
    rw [abs_of_nonpos nonpositive, ← Int.natAbs_of_nonneg opposite, nearestMantissa_neg,
      Int.natAbs_neg]

theorem nearestMantissa_fits_iff (number : Rat) (scale : Nat) :
    (nearestMantissa number scale).natAbs < limit ↔ |number| * 10 ^ scale < limit - 1 / 2 := by
  have even : Even (limit : Int) := by decide
  rw [← Int.ofNat_lt, natAbs_nearestMantissa, nearestMantissa, halfEven_lt_iff even]
  norm_cast

section

variable {number : Rat} {scale : Nat} (finest : IsFinestScale number scale)

include finest

theorem IsFinestScale.room : |number| * 10 ^ scale < limit - 1 / 2 :=
  (nearestMantissa_fits_iff number scale).mp finest.fits

theorem IsFinestScale.lt_iff {other : Nat} (allowed : other ≤ maxScale) :
    scale < other ↔ (limit - 1 / 2 : Rat) ≤ |number| * 10 ^ other := by
  constructor
  · intro finer
    rw [← not_lt, ← nearestMantissa_fits_iff, not_lt]
    exact finest.finest other finer allowed
  · intro reaches
    by_contra coarser
    have powers : (10 : Rat) ^ other ≤ 10 ^ scale :=
      pow_le_pow_right₀ (by norm_num) (not_lt.mp coarser)
    have shifted : |number| * 10 ^ other ≤ |number| * 10 ^ scale :=
      mul_le_mul_of_nonneg_left powers (abs_nonneg number)
    have room := finest.room
    linarith

/-- The limit is six above a multiple of ten, so where a digit more has no room, the mantissa is
rounded to at least the multiple of ten that follows. -/
theorem IsFinestScale.beyond_limit (nonnegative : 0 ≤ number) {larger : Nat}
    (finer : scale < larger) (allowed : larger ≤ maxScale) :
    (limit : Rat) + 4 ≤ nearestMantissa number scale / 10 ^ scale * 10 ^ larger := by
  have noRoom := (finest.lt_iff (le_trans finer allowed)).mp (Nat.lt_succ_self scale)
  have within := abs_le.mp (halfEven_isNearest (number * 10 ^ scale)).within_half
  rw [abs_of_nonneg nonnegative, pow_succ, cast_limit] at noRoom
  have above : (7922816251426433759354395033 : Rat) < nearestMantissa number scale := by
    rw [nearestMantissa]
    linarith
  have next : 7922816251426433759354395033 < nearestMantissa number scale := by
    exact_mod_cast above
  have mantissa : (7922816251426433759354395034 : Rat) ≤ nearestMantissa number scale := by
    exact_mod_cast Int.add_one_le_of_lt next
  have powers : (10 : Rat) ^ (scale + 1) ≤ 10 ^ larger := pow_le_pow_right₀ (by norm_num) finer
  have rounded : (0 : Rat) ≤ nearestMantissa number scale / 10 ^ scale :=
    div_nonneg (by linarith) (by positivity)
  calc (limit : Rat) + 4 ≤ nearestMantissa number scale * 10 := by
        rw [cast_limit]
        linarith
    _ = nearestMantissa number scale / 10 ^ scale * 10 ^ (scale + 1) := by
        rw [pow_succ, ← mul_assoc, div_mul_cancel₀ _ (by positivity)]
    _ ≤ nearestMantissa number scale / 10 ^ scale * 10 ^ larger :=
        mul_le_mul_of_nonneg_left powers rounded

end

theorem IsFinestScale.scale_le {smaller larger : Rat} {fine coarse : Nat}
    (fineFinest : IsFinestScale smaller fine) (coarseFinest : IsFinestScale larger coarse)
    (atMost : |smaller| ≤ |larger|) : coarse ≤ fine := by
  by_contra finer
  have reaches := (fineFinest.lt_iff coarseFinest.within).mp (not_le.mp finer)
  have shifted : |smaller| * 10 ^ coarse ≤ |larger| * 10 ^ coarse :=
    mul_le_mul_of_nonneg_right atMost (by positivity)
  exact lt_irrefl coarse ((coarseFinest.lt_iff coarseFinest.within).mpr (reaches.trans shifted))

theorem IsRounded.nonneg {number : Rat} {d : Decimal} (rounded : IsRounded number d)
    (nonnegative : 0 ≤ number) : 0 ≤ d.value := by
  obtain ⟨_, scale, _, value⟩ := rounded
  have mantissa : (0 : Rat) ≤ nearestMantissa number scale := by
    exact_mod_cast nearestMantissa_nonneg nonnegative scale
  rw [value]
  positivity

section

variable {smaller larger : Rat} {d e : Decimal} (left : IsRounded smaller d)
  (right : IsRounded larger e) (atMost : smaller ≤ larger)

include left right atMost

theorem IsRounded.mono_of_nonneg (nonnegative : 0 ≤ smaller) : d.value ≤ e.value := by
  obtain ⟨_, fine, fineFinest, dValue⟩ := left
  obtain ⟨_, coarse, coarseFinest, eValue⟩ := right
  have largerNonneg : 0 ≤ larger := nonnegative.trans atMost
  have coarser : coarse ≤ fine := by
    apply fineFinest.scale_le coarseFinest
    rwa [abs_of_nonneg nonnegative, abs_of_nonneg largerNonneg]
  rw [dValue, eValue]
  rcases coarser.eq_or_lt with rfl | less
  · have mantissas : (nearestMantissa smaller coarse : Rat) ≤ nearestMantissa larger coarse := by
      exact_mod_cast nearestMantissa_mono atMost coarse
    exact div_le_div_of_nonneg_right mantissas (by positivity)
  · -- The finer grid ends before the first number that the coarser one is used for.
    have fits : (nearestMantissa smaller fine : Rat) ≤ limit := by
      exact_mod_cast Int.le_natAbs.trans (Int.ofNat_le.mpr fineFinest.fits.le)
    have beyond := coarseFinest.beyond_limit largerNonneg less fineFinest.within
    rw [div_le_iff₀ (by positivity)]
    linarith

theorem IsRounded.mono : d.value ≤ e.value := by
  rcases le_total 0 smaller with nonnegative | nonpositive
  · exact left.mono_of_nonneg right atMost nonnegative
  · have mirrored := left.opposite.nonneg (neg_nonneg.mpr nonpositive)
    rw [value_opposite, neg_nonneg] at mirrored
    rcases le_total 0 larger with crosses | negative
    · exact mirrored.trans (right.nonneg crosses)
    · have reversed := right.opposite.mono_of_nonneg left.opposite (neg_le_neg atMost)
        (neg_nonneg.mpr negative)
      rw [value_opposite, value_opposite] at reversed
      exact neg_le_neg_iff.mp reversed

end

theorem IsRounded.unique {number : Rat} {d e : Decimal} (left : IsRounded number d)
    (right : IsRounded number e) : d.value = e.value :=
  le_antisymm (left.mono right le_rfl) (right.mono left le_rfl)

/-! Distances to other decimals. -/

theorem distance_opposite (d : Decimal) (number : Rat) :
    |d.opposite.value - -number| = |d.value - number| := by
  rw [value_opposite, ← abs_neg]
  congr 1
  ring

theorem distance_scaled (left right : Rat) (scale : Nat) :
    |left - right| * 10 ^ scale = |left * 10 ^ scale - right * 10 ^ scale| := by
  rw [← sub_mul, abs_mul, abs_of_pos (by positivity : (0 : Rat) < 10 ^ scale)]

theorem nearest_on_grid (number : Rat) {scale : Nat} {d c : Decimal}
    (value : d.value = nearestMantissa number scale / 10 ^ scale) (onGrid : c.scale ≤ scale) :
    |d.value - number| ≤ |c.value - number| := by
  have power : (0 : Rat) < 10 ^ scale := by positivity
  have nearest := (halfEven_isNearest (number * 10 ^ scale)).1
    (Numeral.withSign c.negative (c.mantissaAt scale))
  rw [signed_mantissaAt onGrid, abs_sub_comm, abs_sub_comm _ (c.value * 10 ^ scale)] at nearest
  rw [← mul_le_mul_iff_left₀ power, distance_scaled, distance_scaled, value,
    div_mul_cancel₀ _ power.ne']
  exact nearest

theorem abs_value_le {c : Decimal} (valid : c.Valid) {scale : Nat} (finer : scale ≤ c.scale) :
    |c.value| * 10 ^ scale ≤ limit - 1 := by
  have mantissa : (c.mantissa : Rat) ≤ limit - 1 := by
    have fits : (c.mantissa : Rat) + 1 ≤ limit := by exact_mod_cast valid.1
    linarith
  have powers : (10 : Rat) ^ scale ≤ 10 ^ c.scale := pow_le_pow_right₀ (by norm_num) finer
  calc |c.value| * 10 ^ scale ≤ |c.value| * 10 ^ c.scale :=
        mul_le_mul_of_nonneg_left powers (abs_nonneg _)
    _ = c.mantissa := by
        rw [abs_value_eq]
        push_cast
        exact div_mul_cancel₀ _ (by positivity)
    _ ≤ limit - 1 := mantissa

def StrictlyBetween (middle first second : Rat) : Prop :=
  (first < middle ∧ middle < second) ∨ (second < middle ∧ middle < first)

theorem StrictlyBetween.neg {middle first second : Rat}
    (between : StrictlyBetween middle first second) :
    StrictlyBetween (-middle) (-first) (-second) := by
  unfold StrictlyBetween at between ⊢
  simp only [neg_lt_neg_iff]
  tauto

theorem StrictlyBetween.nearer {middle first second : Rat}
    (between : StrictlyBetween middle first second) : |middle - first| < |second - first| := by
  rcases between with ⟨above, below⟩ | ⟨below, above⟩
  · rw [abs_of_pos (by linarith), abs_of_pos (by linarith)]
    linarith
  · rw [abs_of_neg (by linarith), abs_of_neg (by linarith)]
    linarith

theorem IsRounded.none_between {number : Rat} {d c : Decimal} (rounded : IsRounded number d)
    (valid : c.Valid) : ¬StrictlyBetween c.value number d.value := by
  intro between
  wlog nonnegative : 0 ≤ number generalizing number d c with mirrored
  · apply mirrored rounded.opposite (opposite_valid valid)
    · rw [value_opposite, value_opposite]
      exact between.neg
    · exact neg_nonneg.mpr (not_le.mp nonnegative).le
  · obtain ⟨_, scale, finest, value⟩ := rounded
    by_cases onGrid : c.scale ≤ scale
    · exact absurd between.nearer (not_lt.mpr (nearest_on_grid number value onGrid))
    · -- A decimal of a finer scale is smaller than the number and than what it is rounded to.
      have finer : scale < c.scale := not_le.mp onGrid
      have power : (0 : Rat) ≤ 10 ^ c.scale := by positivity
      have reach := abs_value_le valid le_rfl
      have noRoom := (finest.lt_iff valid.2).mp finer
      have beyond := finest.beyond_limit nonnegative finer valid.2
      rw [abs_of_nonneg nonnegative] at noRoom
      have magnitude : c.value * 10 ^ c.scale ≤ |c.value| * 10 ^ c.scale :=
        mul_le_mul_of_nonneg_right (le_abs_self _) power
      have belowNumber : c.value < number :=
        lt_of_mul_lt_mul_right (by linarith) power
      have belowRounded : c.value < d.value := by
        rw [value]
        exact lt_of_mul_lt_mul_right (by linarith) power
      rcases between with ⟨above, _⟩ | ⟨above, _⟩
      · exact absurd above belowNumber.not_gt
      · exact absurd above belowRounded.not_gt

def largest (scale : Nat) : Decimal := ⟨false, limit - 1, scale⟩

def firstBeyond (scale : Nat) : Decimal := ⟨false, limit / 10 + 1, scale⟩

theorem largest_valid {scale : Nat} (allowed : scale ≤ maxScale) : (largest scale).Valid :=
  ⟨Nat.sub_one_lt (by decide), allowed⟩

theorem value_largest (scale : Nat) : (largest scale).value * 10 ^ scale = limit - 1 := by
  rw [value_eq, signFactor, largest]
  norm_num [limit]

theorem value_firstBeyond (scale : Nat) :
    (firstBeyond scale).value * 10 ^ (scale + 1) = limit + 4 := by
  have mantissa : ((limit / 10 + 1 : Nat) : Rat) * 10 = limit + 4 := by norm_num [limit]
  rw [value_eq, firstBeyond, pow_succ, ← mul_assoc, mul_assoc (signFactor _),
    div_mul_cancel₀ _ (by positivity), mul_assoc, mantissa]
  exact one_mul _

/-- At some scale the number has only just no room: the largest decimal of this scale is nearer
than the first of the coarser scale beyond it. -/
def NearLimit (number : Rat) : Prop :=
  ∃ scale ≤ maxScale, (limit - 1 / 2 : Rat) ≤ |number| * 10 ^ scale ∧
    |number| * 10 ^ scale < limit + 3 / 2

instance (number : Rat) : Decidable (NearLimit number) :=
  inferInstanceAs (Decidable (∃ scale ≤ maxScale, _))

theorem NearLimit.neg {number : Rat} (near : NearLimit number) : NearLimit (-number) := by
  rwa [NearLimit, abs_neg]

theorem IsRounded.nearer_of_nearLimit {number : Rat} {d : Decimal}
    (rounded : IsRounded number d) (near : NearLimit number) :
    ∃ c : Decimal, c.Valid ∧ |c.value - number| < |d.value - number| := by
  wlog nonnegative : 0 ≤ number generalizing number d with mirrored
  · obtain ⟨c, valid, nearer⟩ := mirrored rounded.opposite near.neg
      (neg_nonneg.mpr (not_le.mp nonnegative).le)
    refine ⟨c.opposite, opposite_valid valid, ?_⟩
    rwa [← distance_opposite, opposite_opposite, ← distance_opposite d]
  · obtain ⟨_, scale, finest, value⟩ := rounded
    obtain ⟨larger, allowed, reaches, close⟩ := near
    have finer : scale < larger := (finest.lt_iff allowed).mpr reaches
    have beyond := finest.beyond_limit nonnegative finer allowed
    have power : (0 : Rat) < 10 ^ larger := by positivity
    rw [abs_of_nonneg nonnegative] at reaches close
    refine ⟨largest larger, largest_valid allowed, ?_⟩
    rw [← mul_lt_mul_iff_left₀ power, distance_scaled, distance_scaled, value_largest, value,
      abs_of_neg (by linarith), abs_of_pos (by linarith)]
    linarith

theorem IsRounded.closest_of_not_nearLimit {number : Rat} {d c : Decimal}
    (rounded : IsRounded number d) (notNear : ¬NearLimit number) (valid : c.Valid) :
    |d.value - number| ≤ |c.value - number| := by
  wlog nonnegative : 0 ≤ number generalizing number d c with mirrored
  · rw [← distance_opposite d, ← distance_opposite c]
    apply mirrored rounded.opposite _ (opposite_valid valid)
      (neg_nonneg.mpr (not_le.mp nonnegative).le)
    intro near
    exact notNear (by simpa using near.neg)
  · obtain ⟨_, scale, finest, value⟩ := rounded
    by_cases onGrid : c.scale ≤ scale
    · exact nearest_on_grid number value onGrid
    · have finer : scale < c.scale := not_le.mp onGrid
      have allowed : scale + 1 ≤ maxScale := finer.trans_le valid.2
      have power : (0 : Rat) < 10 ^ (scale + 1) := by positivity
      have noRoom := (finest.lt_iff allowed).mp (Nat.lt_succ_self scale)
      have clear : (limit + 3 / 2 : Rat) ≤ |number| * 10 ^ (scale + 1) := by
        by_contra close
        exact notNear ⟨scale + 1, allowed, noRoom, not_le.mp close⟩
      have reach : |c.value| * 10 ^ (scale + 1) ≤ limit - 1 := abs_value_le valid finer
      rw [abs_of_nonneg nonnegative] at clear
      calc |d.value - number| ≤ |(firstBeyond scale).value - number| :=
            nearest_on_grid number value le_rfl
        _ ≤ number - |c.value| := by
            rw [← mul_le_mul_iff_left₀ power, distance_scaled, value_firstBeyond, sub_mul, abs_le]
            constructor <;> linarith
        _ ≤ |c.value - number| := by
            rw [abs_sub_comm]
            exact (sub_le_sub_left (le_abs_self _) _).trans (le_abs_self _)

end Decimal

end LowestTerms
