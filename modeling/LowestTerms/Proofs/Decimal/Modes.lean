import LowestTerms.Proofs.Decimal.Prescription

/-!
How the rounding modes stand to one another. Each of them answers one of the two neighbours of a
number, the one toward zero or the one away from it: the `directed` modes by direction alone, the
`halves` by which is nearer. So none changes an integer, all keep the order of numbers, and
opposites are rounded to opposites, except that ceiling and floor change places. Only directed modes
may round in stages. `onGrid` is the multiple of a power of ten that a mode prescribes.
-/

namespace LowestTerms.RoundingMode

def directed : List RoundingMode := [ceiling, floor, down, up]

def halves : List RoundingMode := [halfDown, halfUp, halfEven, halfOdd]

def mirrored : RoundingMode → RoundingMode
  | ceiling => floor
  | floor => ceiling
  | mode => mode

theorem towardZero_neg (number : Rat) : towardZero (-number) = -towardZero number := by
  rcases le_total 0 number with nonnegative | nonpositive
  · rw [towardZero_of_nonneg nonnegative, towardZero_of_nonpos (neg_nonpos.mpr nonnegative),
      Int.ceil_neg]
  · rw [towardZero_of_nonpos nonpositive, towardZero_of_nonneg (neg_nonneg.mpr nonpositive),
      Int.floor_neg]

theorem awayFromZero_neg (number : Rat) : awayFromZero (-number) = -awayFromZero number := by
  rcases le_total 0 number with nonnegative | nonpositive
  · rw [awayFromZero_of_nonneg nonnegative, awayFromZero_of_nonpos (neg_nonpos.mpr nonnegative),
      Int.floor_neg]
  · rw [awayFromZero_of_nonpos nonpositive, awayFromZero_of_nonneg (neg_nonneg.mpr nonpositive),
      Int.ceil_neg]

theorem integer_neg (mode : RoundingMode) (number : Rat) :
    mode.mirrored.integer (-number) = -mode.integer number := by
  cases mode with
  | ceiling => exact Int.floor_neg
  | floor => exact Int.ceil_neg
  | down => exact towardZero_neg number
  | up => exact awayFromZero_neg number
  | halfDown | halfUp | halfEven | halfOdd =>
      simp only [mirrored, integer, nearestTowardZero, nearestAwayFromZero, abs_neg,
        towardZero_neg, awayFromZero_neg]
      split_ifs <;> rfl

theorem integer_eq_or (mode : RoundingMode) (number : Rat) :
    mode.integer number = towardZero number ∨ mode.integer number = awayFromZero number := by
  have toward : nearestTowardZero number = towardZero number ∨
      nearestTowardZero number = awayFromZero number := (ite_eq_or_eq _ _ _).symm
  have away : nearestAwayFromZero number = towardZero number ∨
      nearestAwayFromZero number = awayFromZero number := (ite_eq_or_eq _ _ _).symm
  cases mode with
  | ceiling =>
      rcases le_total 0 number with nonnegative | nonpositive
      · exact Or.inr (awayFromZero_of_nonneg nonnegative).symm
      · exact Or.inl (towardZero_of_nonpos nonpositive).symm
  | floor =>
      rcases le_total 0 number with nonnegative | nonpositive
      · exact Or.inl (towardZero_of_nonneg nonnegative).symm
      · exact Or.inr (awayFromZero_of_nonpos nonpositive).symm
  | down => exact Or.inl rfl
  | up => exact Or.inr rfl
  | halfDown => exact toward
  | halfUp => exact away
  | halfEven =>
      simp only [integer]
      split
      · exact toward
      · exact away
  | halfOdd =>
      simp only [integer]
      split
      · exact away
      · exact toward

theorem towardZero_intCast (whole : Int) : towardZero whole = whole := by
  simp [towardZero]

theorem awayFromZero_intCast (whole : Int) : awayFromZero whole = whole := by
  simp [awayFromZero]

theorem integer_intCast (mode : RoundingMode) (whole : Int) : mode.integer whole = whole := by
  rcases mode.integer_eq_or whole with toward | away
  · rw [toward, towardZero_intCast]
  · rw [away, awayFromZero_intCast]

section

variable (mode : RoundingMode) (number : Rat)

theorem integer_eq_floor_or_ceil :
    mode.integer number = ⌊number⌋ ∨ mode.integer number = ⌈number⌉ := by
  rcases mode.integer_eq_or number with neighbour | neighbour
  · rw [neighbour]
    exact (ite_eq_or_eq _ _ _).symm
  · rw [neighbour]
    exact ite_eq_or_eq _ _ _

theorem floor_le_integer : ⌊number⌋ ≤ mode.integer number := by
  rcases mode.integer_eq_floor_or_ceil number with below | above
  · exact below.ge
  · rw [above]
    exact Int.floor_le_ceil number

theorem integer_le_ceil : mode.integer number ≤ ⌈number⌉ := by
  rcases mode.integer_eq_floor_or_ceil number with below | above
  · rw [below]
    exact Int.floor_le_ceil number
  · exact above.le

theorem abs_towardZero_le_abs_awayFromZero : |towardZero number| ≤ |awayFromZero number| := by
  rw [abs_towardZero, abs_awayFromZero]
  exact Int.floor_le_ceil _

theorem abs_towardZero_le : |towardZero number| ≤ |mode.integer number| := by
  rcases mode.integer_eq_or number with toward | away
  · rw [toward]
  · rw [away]
    exact abs_towardZero_le_abs_awayFromZero number

theorem le_abs_awayFromZero : |mode.integer number| ≤ |awayFromZero number| := by
  rcases mode.integer_eq_or number with toward | away
  · rw [toward]
    exact abs_towardZero_le_abs_awayFromZero number
  · rw [away]

variable {number}

theorem neighbours_eq (exact : Int.fract |number| = 0) :
    awayFromZero number = towardZero number := by
  have distance := distance_towardZero number
  rw [exact, abs_eq_zero, sub_eq_zero] at distance
  rw [distance, towardZero_intCast, awayFromZero_intCast]

theorem neighbours_apart (inexact : Int.fract |number| ≠ 0) :
    |awayFromZero number - towardZero number| = 1 := by
  have next := ceil_of_inexact inexact
  rcases le_total 0 number with nonnegative | nonpositive
  · rw [abs_of_nonneg nonnegative] at next
    rw [awayFromZero_of_nonneg nonnegative, towardZero_of_nonneg nonnegative, next,
      add_sub_cancel_left, abs_one]
  · rw [abs_of_nonpos nonpositive, Int.ceil_neg, Int.floor_neg] at next
    have below : ⌊number⌋ - ⌈number⌉ = -1 := by omega
    rw [awayFromZero_of_nonpos nonpositive, towardZero_of_nonpos nonpositive, below, abs_neg,
      abs_one]

variable {mode}

theorem integer_of_halves (half : mode ∈ halves) (noTie : Int.fract |number| ≠ 1 / 2) :
    mode.integer number = nearestTowardZero number := by
  have same : nearestAwayFromZero number = nearestTowardZero number := by
    rw [nearestAwayFromZero, nearestTowardZero]
    simp only [noTie.symm.le_iff_lt]
  cases mode <;> simp only [integer, same, ite_self]
  case ceiling | floor | down | up => simp [halves] at half

theorem halfEven_ne_halfOdd (tie : Int.fract |number| = 1 / 2) :
    halfEven.integer number ≠ halfOdd.integer number := by
  have apart : |awayFromZero number - towardZero number| = 1 :=
    neighbours_apart (by rw [tie]; norm_num)
  have different : towardZero number ≠ awayFromZero number := by
    intro same
    simp [same] at apart
  simp only [integer, nearestTowardZero, nearestAwayFromZero, tie, lt_irrefl, le_refl, if_true,
    if_false]
  split
  · exact different
  · exact different.symm

end

theorem towardZero_mono {smaller larger : Rat} (atMost : smaller ≤ larger) :
    towardZero smaller ≤ towardZero larger := by
  rcases le_total 0 smaller with nonnegative | smallerNonpos
  · rw [towardZero_of_nonneg nonnegative, towardZero_of_nonneg (nonnegative.trans atMost)]
    exact Int.floor_mono atMost
  · rw [towardZero_of_nonpos smallerNonpos]
    rcases le_total 0 larger with largerNonneg | nonpositive
    · rw [towardZero_of_nonneg largerNonneg]
      exact (Int.ceil_nonpos.mpr smallerNonpos).trans (Int.floor_nonneg.mpr largerNonneg)
    · rw [towardZero_of_nonpos nonpositive]
      exact Int.ceil_mono atMost

theorem awayFromZero_mono {smaller larger : Rat} (atMost : smaller ≤ larger) :
    awayFromZero smaller ≤ awayFromZero larger := by
  rcases le_total 0 smaller with nonnegative | smallerNonpos
  · rw [awayFromZero_of_nonneg nonnegative, awayFromZero_of_nonneg (nonnegative.trans atMost)]
    exact Int.ceil_mono atMost
  · rw [awayFromZero_of_nonpos smallerNonpos]
    rcases le_total 0 larger with largerNonneg | nonpositive
    · rw [awayFromZero_of_nonneg largerNonneg]
      exact (Int.floor_nonpos smallerNonpos).trans (Int.ceil_nonneg largerNonneg)
    · rw [awayFromZero_of_nonpos nonpositive]
      exact Int.floor_mono atMost

theorem IsNearest.le_of_lt {smaller larger : Rat} {leftOnTie rightOnTie : Int → Prop}
    {left right : Int} (leftNearest : IsNearest smaller leftOnTie left)
    (rightNearest : IsNearest larger rightOnTie right) (less : smaller < larger) :
    left ≤ right := by
  by_contra swapped
  have apart : (right : Rat) + 1 ≤ left := by exact_mod_cast not_le.mp swapped
  have leftWithin := abs_le.mp leftNearest.within_half
  have rightWithin := abs_le.mp rightNearest.within_half
  linarith

theorem exists_isNearest {mode : RoundingMode} (half : mode ∈ halves) (number : Rat) :
    ∃ onTie, IsNearest number onTie (mode.integer number) := by
  have prescribed := prescribes_integer mode number
  cases mode <;> simp only [Prescribes] at prescribed
  case halfDown | halfUp | halfEven | halfOdd => exact ⟨_, prescribed⟩
  case ceiling | floor | down | up => simp [halves] at half

theorem integer_mono (mode : RoundingMode) {smaller larger : Rat} (atMost : smaller ≤ larger) :
    mode.integer smaller ≤ mode.integer larger := by
  by_cases half : mode ∈ halves
  · -- The rules for ties do not matter: what is larger than a tie is nearer to the larger integer.
    rcases atMost.eq_or_lt with rfl | less
    · exact le_rfl
    · obtain ⟨_, smallerNearest⟩ := exists_isNearest half smaller
      obtain ⟨_, largerNearest⟩ := exists_isNearest half larger
      exact smallerNearest.le_of_lt largerNearest less
  · cases mode with
    | ceiling => exact Int.ceil_mono atMost
    | floor => exact Int.floor_mono atMost
    | down => exact towardZero_mono atMost
    | up => exact awayFromZero_mono atMost
    | halfDown | halfUp | halfEven | halfOdd => simp [halves] at half

section

variable (number : Rat) (divisor : Nat)

theorem floor_floor_div : ⌊(⌊number⌋ / divisor : Rat)⌋ = ⌊number / divisor⌋ := by
  rw [Int.floor_div_natCast, Int.floor_intCast, Int.floor_div_natCast]

theorem ceil_ceil_div : ⌈(⌈number⌉ / divisor : Rat)⌉ = ⌈number / divisor⌉ := by
  have opposite := floor_floor_div (-number) divisor
  rw [Int.floor_neg, Int.cast_neg, neg_div, Int.floor_neg, neg_div, Int.floor_neg] at opposite
  exact neg_injective opposite

theorem towardZero_towardZero_div :
    towardZero (towardZero number / divisor) = towardZero (number / divisor) := by
  -- The first stage does not change the sign, so the second one goes the same way.
  have divisorNonneg : (0 : Rat) ≤ divisor := Nat.cast_nonneg divisor
  rcases le_total 0 number with nonnegative | nonpositive
  · have whole : (0 : Rat) ≤ ⌊number⌋ / divisor :=
      div_nonneg (Int.cast_nonneg (Int.floor_nonneg.mpr nonnegative)) divisorNonneg
    rw [towardZero_of_nonneg nonnegative, towardZero_of_nonneg whole,
      towardZero_of_nonneg (div_nonneg nonnegative divisorNonneg), floor_floor_div]
  · have whole : (⌈number⌉ / divisor : Rat) ≤ 0 :=
      div_nonpos_of_nonpos_of_nonneg (Int.cast_nonpos.mpr (Int.ceil_nonpos.mpr nonpositive))
        divisorNonneg
    rw [towardZero_of_nonpos nonpositive, towardZero_of_nonpos whole,
      towardZero_of_nonpos (div_nonpos_of_nonpos_of_nonneg nonpositive divisorNonneg),
      ceil_ceil_div]

theorem awayFromZero_awayFromZero_div :
    awayFromZero (awayFromZero number / divisor) = awayFromZero (number / divisor) := by
  have divisorNonneg : (0 : Rat) ≤ divisor := Nat.cast_nonneg divisor
  rcases le_total 0 number with nonnegative | nonpositive
  · have next : (0 : Rat) ≤ ⌈number⌉ / divisor :=
      div_nonneg (Int.cast_nonneg (Int.ceil_nonneg nonnegative)) divisorNonneg
    rw [awayFromZero_of_nonneg nonnegative, awayFromZero_of_nonneg next,
      awayFromZero_of_nonneg (div_nonneg nonnegative divisorNonneg), ceil_ceil_div]
  · have next : (⌊number⌋ / divisor : Rat) ≤ 0 :=
      div_nonpos_of_nonpos_of_nonneg (Int.cast_nonpos.mpr (Int.floor_nonpos nonpositive))
        divisorNonneg
    rw [awayFromZero_of_nonpos nonpositive, awayFromZero_of_nonpos next,
      awayFromZero_of_nonpos (div_nonpos_of_nonpos_of_nonneg nonpositive divisorNonneg),
      floor_floor_div]

theorem integer_integer_div {mode : RoundingMode} (isDirected : mode ∈ directed) :
    mode.integer (mode.integer number / divisor) = mode.integer (number / divisor) := by
  cases mode with
  | ceiling => exact ceil_ceil_div number divisor
  | floor => exact floor_floor_div number divisor
  | down => exact towardZero_towardZero_div number divisor
  | up => exact awayFromZero_awayFromZero_div number divisor
  | halfDown | halfUp | halfEven | halfOdd => simp [directed] at isDirected

end

def onGrid (mode : RoundingMode) (digits : Nat) (number : Rat) : Rat :=
  mode.integer (number * 10 ^ digits) / 10 ^ digits

section

variable {mode other : RoundingMode} {digits : Nat}

theorem onGrid_congr {number : Rat}
    (same : mode.integer (number * 10 ^ digits) = other.integer (number * 10 ^ digits)) :
    mode.onGrid digits number = other.onGrid digits number := by
  rw [onGrid, same, onGrid]

theorem onGrid_le {smaller larger : Rat}
    (atMost : mode.integer (smaller * 10 ^ digits) ≤ other.integer (larger * 10 ^ digits)) :
    mode.onGrid digits smaller ≤ other.onGrid digits larger :=
  div_le_div_of_nonneg_right (Int.cast_le.mpr atMost) (by positivity)

theorem abs_onGrid_le {number : Rat}
    (atMost : |mode.integer (number * 10 ^ digits)| ≤ |other.integer (number * 10 ^ digits)|) :
    |mode.onGrid digits number| ≤ |other.onGrid digits number| := by
  have unit : (0 : Rat) < 10 ^ digits := by positivity
  rw [onGrid, onGrid, abs_div, abs_div, abs_of_pos unit, ← Int.cast_abs, ← Int.cast_abs]
  exact div_le_div_of_nonneg_right (Int.cast_le.mpr atMost) unit.le

theorem onGrid_of_whole {number : Rat} {whole : Int} (isWhole : number * 10 ^ digits = whole) :
    mode.onGrid digits number = number := by
  rw [onGrid, isWhole, integer_intCast, ← isWhole, mul_div_cancel_right₀ _ (by positivity)]

theorem onGrid_mono {smaller larger : Rat} (atMost : smaller ≤ larger) :
    mode.onGrid digits smaller ≤ mode.onGrid digits larger :=
  onGrid_le (mode.integer_mono (mul_le_mul_of_nonneg_right atMost (by positivity)))

theorem onGrid_neg (number : Rat) :
    mode.mirrored.onGrid digits (-number) = -mode.onGrid digits number := by
  rw [onGrid, neg_mul, integer_neg, Int.cast_neg, neg_div, onGrid]

theorem onGrid_onGrid_of_le (second : RoundingMode) (number : Rat) {larger : Nat}
    (enough : digits ≤ larger) :
    second.onGrid larger (mode.onGrid digits number) = mode.onGrid digits number := by
  have whole : mode.onGrid digits number * 10 ^ larger =
      (mode.integer (number * 10 ^ digits) * 10 ^ (larger - digits) : Int) := by
    have power : (10 : Rat) ^ larger = 10 ^ digits * 10 ^ (larger - digits) := by
      rw [← pow_add, Nat.add_sub_cancel' enough]
    rw [onGrid, power, ← mul_assoc, div_mul_cancel₀ _ (by positivity)]
    push_cast
    rfl
  exact onGrid_of_whole whole

theorem onGrid_onGrid_of_directed (isDirected : mode ∈ directed) (number : Rat) {fewer : Nat}
    (within : fewer ≤ digits) :
    mode.onGrid fewer (mode.onGrid digits number) = mode.onGrid fewer number := by
  have power : (10 : Rat) ^ digits = 10 ^ fewer * (10 ^ (digits - fewer) : Nat) := by
    rw [Nat.cast_pow, Nat.cast_ofNat, ← pow_add, Nat.add_sub_cancel' within]
  have shortened (shifted : Rat) :
      shifted / 10 ^ digits * 10 ^ fewer = shifted / (10 ^ (digits - fewer) : Nat) := by
    rw [power]
    field_simp
  have direct : number * 10 ^ fewer = number * 10 ^ digits / (10 ^ (digits - fewer) : Nat) := by
    rw [← shortened, mul_div_cancel_right₀ _ (by positivity)]
  rw [onGrid, onGrid, shortened, integer_integer_div _ _ isDirected, ← direct, onGrid]

example : halfUp.onGrid 0 (halfUp.onGrid 1 (45 / 100)) = 1 ∧ halfUp.onGrid 0 (45 / 100) = 0 := by
  decide +kernel

end

end LowestTerms.RoundingMode
