import Mathlib.Algebra.Order.Round
import Mathlib.Data.Rat.Floor
import Mathlib.Data.Sign.Basic
import Mathlib.Tactic.Linarith
import LowestTerms.Decimal.Rounding

/-!
What the rounding modes prescribe for rational numbers. Four of them name a neighbour by direction;
the others ask for the nearest integer and differ only where two integers are equally near. Each
mode prescribes exactly one integer, and `integer` computes it from the magnitude.
-/

namespace LowestTerms.RoundingMode

def towardZero (number : Rat) : Int := if number < 0 then ⌈number⌉ else ⌊number⌋

def awayFromZero (number : Rat) : Int := if number < 0 then ⌊number⌋ else ⌈number⌉

def IsTie (number : Rat) : Prop := ∃ below : Int, number = below + 1 / 2

def IsNearest (number : Rat) (onTie : Int → Prop) (integer : Int) : Prop :=
  (∀ other : Int, |number - integer| ≤ |number - other|) ∧ (IsTie number → onTie integer)

def Prescribes (mode : RoundingMode) (number : Rat) (integer : Int) : Prop :=
  match mode with
  | ceiling => IsLeast {candidate : Int | number ≤ candidate} integer
  | floor => IsGreatest {candidate : Int | (candidate : Rat) ≤ number} integer
  | down => integer = towardZero number
  | up => integer = awayFromZero number
  | halfDown => IsNearest number (fun chosen => |(chosen : Rat)| < |number|) integer
  | halfUp => IsNearest number (fun chosen => |number| < |(chosen : Rat)|) integer
  | halfEven => IsNearest number Even integer
  | halfOdd => IsNearest number Odd integer

def nearestTowardZero (number : Rat) : Int :=
  if 1 / 2 < Int.fract |number| then awayFromZero number else towardZero number

def nearestAwayFromZero (number : Rat) : Int :=
  if 1 / 2 ≤ Int.fract |number| then awayFromZero number else towardZero number

def integer (mode : RoundingMode) (number : Rat) : Int :=
  match mode with
  | ceiling => ⌈number⌉
  | floor => ⌊number⌋
  | down => towardZero number
  | up => awayFromZero number
  | halfDown => nearestTowardZero number
  | halfUp => nearestAwayFromZero number
  | halfEven =>
    if Even ⌊|number|⌋ then nearestTowardZero number else nearestAwayFromZero number
  | halfOdd =>
    if Even ⌊|number|⌋ then nearestAwayFromZero number else nearestTowardZero number

theorem towardZero_of_nonneg {number : Rat} (nonnegative : 0 ≤ number) :
    towardZero number = ⌊number⌋ :=
  if_neg (not_lt.mpr nonnegative)

theorem towardZero_of_nonpos {number : Rat} (nonpositive : number ≤ 0) :
    towardZero number = ⌈number⌉ := by
  rcases nonpositive.lt_or_eq with negative | isZero
  · exact if_pos negative
  · simp [towardZero, isZero]

theorem awayFromZero_of_nonneg {number : Rat} (nonnegative : 0 ≤ number) :
    awayFromZero number = ⌈number⌉ :=
  if_neg (not_lt.mpr nonnegative)

theorem awayFromZero_of_nonpos {number : Rat} (nonpositive : number ≤ 0) :
    awayFromZero number = ⌊number⌋ := by
  rcases nonpositive.lt_or_eq with negative | isZero
  · exact if_pos negative
  · simp [awayFromZero, isZero]

section

variable (number : Rat)

theorem abs_towardZero : |towardZero number| = ⌊|number|⌋ := by
  rcases le_total 0 number with nonnegative | nonpositive
  · rw [towardZero_of_nonneg nonnegative, abs_of_nonneg nonnegative,
      abs_of_nonneg (Int.floor_nonneg.mpr nonnegative)]
  · have below : ⌈number⌉ ≤ 0 := Int.ceil_le.mpr (by simpa using nonpositive)
    rw [towardZero_of_nonpos nonpositive, abs_of_nonpos nonpositive, abs_of_nonpos below,
      Int.floor_neg]

theorem abs_awayFromZero : |awayFromZero number| = ⌈|number|⌉ := by
  rcases le_total 0 number with nonnegative | nonpositive
  · rw [awayFromZero_of_nonneg nonnegative, abs_of_nonneg nonnegative,
      abs_of_nonneg (Int.ceil_nonneg nonnegative)]
  · rw [awayFromZero_of_nonpos nonpositive, abs_of_nonpos nonpositive,
      abs_of_nonpos (Int.floor_nonpos nonpositive), Int.ceil_neg]

theorem distance_towardZero : |number - towardZero number| = Int.fract |number| := by
  rcases le_total 0 number with nonnegative | nonpositive
  · rw [towardZero_of_nonneg nonnegative, abs_of_nonneg nonnegative]
    exact abs_of_nonneg (Int.fract_nonneg number)
  · have below : number - ⌈number⌉ ≤ 0 := sub_nonpos.mpr (Int.le_ceil number)
    rw [towardZero_of_nonpos nonpositive, abs_of_nonpos below, abs_of_nonpos nonpositive,
      Int.fract, Int.floor_neg]
    push_cast
    ring

theorem ceil_of_inexact {magnitude : Rat} (inexact : Int.fract magnitude ≠ 0) :
    ⌈magnitude⌉ = ⌊magnitude⌋ + 1 := by
  rw [Int.ceil_eq_floor_add_one_iff_notMem]
  exact mt Int.fract_eq_zero_iff.mpr inexact

theorem distance_awayFromZero (inexact : Int.fract |number| ≠ 0) :
    |number - awayFromZero number| = 1 - Int.fract |number| := by
  have gap := Int.ceil_sub_self_eq inexact
  rcases le_total 0 number with nonnegative | nonpositive
  · have below : number - ⌈number⌉ ≤ 0 := sub_nonpos.mpr (Int.le_ceil number)
    rw [abs_of_nonneg nonnegative] at gap ⊢
    rw [awayFromZero_of_nonneg nonnegative, abs_of_nonpos below]
    linarith
  · have above : 0 ≤ number - ⌊number⌋ := Int.fract_nonneg number
    rw [abs_of_nonpos nonpositive, Int.ceil_neg] at gap
    push_cast at gap
    rw [awayFromZero_of_nonpos nonpositive, abs_of_nonneg above, abs_of_nonpos nonpositive]
    linarith

theorem sign_mul_floor_abs : (SignType.sign number : Rat) * ⌊|number|⌋ = towardZero number := by
  rcases lt_trichotomy number 0 with negative | isZero | positive
  · rw [towardZero_of_nonpos negative.le, sign_neg negative, abs_of_neg negative, Int.floor_neg]
    simp
  · simp [isZero, towardZero]
  · rw [towardZero_of_nonneg positive.le, sign_pos positive, abs_of_pos positive]
    simp

theorem sign_mul_ceil_abs : (SignType.sign number : Rat) * ⌈|number|⌉ = awayFromZero number := by
  rcases lt_trichotomy number 0 with negative | isZero | positive
  · rw [awayFromZero_of_nonpos negative.le, sign_neg negative, abs_of_neg negative, Int.ceil_neg]
    simp
  · simp [isZero, awayFromZero]
  · rw [awayFromZero_of_nonneg positive.le, sign_pos positive, abs_of_pos positive]
    simp

theorem isTie_iff : IsTie number ↔ Int.fract |number| = 1 / 2 := by
  have halfFraction : ∀ below : Int, Int.fract ((below : Rat) + 1 / 2) = 1 / 2 := by
    intro below
    rw [Int.fract_intCast_add, Int.fract_eq_self]
    norm_num
  constructor
  · rintro ⟨below, rfl⟩
    by_cases negative : (below : Rat) + 1 / 2 < 0
    · rw [abs_of_neg negative, Int.fract_neg (by rw [halfFraction]; norm_num), halfFraction]
      norm_num
    · rw [abs_of_nonneg (not_lt.mp negative), halfFraction]
  · intro halved
    have split := Int.floor_add_fract |number|
    rw [halved] at split
    by_cases negative : number < 0
    · refine ⟨-⌊|number|⌋ - 1, ?_⟩
      rw [abs_of_neg negative] at split ⊢
      push_cast
      linarith
    · refine ⟨⌊|number|⌋, ?_⟩
      rw [abs_of_nonneg (not_lt.mp negative)] at split ⊢
      exact split.symm

variable {number}

theorem isNearest_of_half {onTie : Int → Prop} {integer : Int}
    (within : |number - integer| ≤ 1 / 2) (tie : IsTie number → onTie integer) :
    IsNearest number onTie integer := by
  refine ⟨?_, tie⟩
  intro other
  rcases eq_or_ne other integer with rfl | different
  · exact le_refl _
  · have gap : (1 : Rat) ≤ |(integer - other : Int)| := by
      exact_mod_cast Int.one_le_abs (sub_ne_zero.mpr different.symm)
    have triangle := abs_sub_le (integer : Rat) number other
    rw [abs_sub_comm (integer : Rat) number] at triangle
    push_cast at gap
    linarith

theorem nearestTowardZero_isNearest :
    IsNearest number (fun chosen => |(chosen : Rat)| < |number|) (nearestTowardZero number) := by
  unfold nearestTowardZero
  split
  · rename_i larger
    apply isNearest_of_half
    · rw [distance_awayFromZero number (by linarith)]
      linarith
    · intro tie
      rw [(isTie_iff number).mp tie] at larger
      exact absurd larger (lt_irrefl _)
  · rename_i notLarger
    apply isNearest_of_half
    · rw [distance_towardZero]
      exact not_lt.mp notLarger
    · intro tie
      have magnitude : |(towardZero number : Rat)| = ⌊|number|⌋ := by
        exact_mod_cast congrArg (Int.cast : Int → Rat) (abs_towardZero number)
      have split := Int.floor_add_fract |number|
      rw [(isTie_iff number).mp tie] at split
      rw [magnitude]
      linarith

theorem nearestAwayFromZero_isNearest :
    IsNearest number (fun chosen => |number| < |(chosen : Rat)|)
      (nearestAwayFromZero number) := by
  unfold nearestAwayFromZero
  split
  · rename_i notSmaller
    have inexact : Int.fract |number| ≠ 0 := by linarith
    apply isNearest_of_half
    · rw [distance_awayFromZero number inexact]
      linarith
    · intro _
      have magnitude : |(awayFromZero number : Rat)| = ⌈|number|⌉ := by
        exact_mod_cast congrArg (Int.cast : Int → Rat) (abs_awayFromZero number)
      have gap := Int.ceil_sub_self_eq inexact
      have smaller := Int.fract_lt_one |number|
      rw [magnitude]
      linarith
  · rename_i smaller
    apply isNearest_of_half
    · rw [distance_towardZero]
      exact (not_le.mp smaller).le
    · intro tie
      rw [(isTie_iff number).mp tie] at smaller
      exact absurd (le_refl _) smaller

theorem even_nearestTowardZero_of_tie (tie : IsTie number) :
    Even (nearestTowardZero number) ↔ Even ⌊|number|⌋ := by
  have kept : nearestTowardZero number = towardZero number := by
    rw [nearestTowardZero, (isTie_iff number).mp tie, if_neg (lt_irrefl _)]
  rw [kept, ← abs_towardZero, even_abs]

theorem even_nearestAwayFromZero_of_tie (tie : IsTie number) :
    Even (nearestAwayFromZero number) ↔ ¬Even ⌊|number|⌋ := by
  have halved := (isTie_iff number).mp tie
  have left : nearestAwayFromZero number = awayFromZero number := by
    rw [nearestAwayFromZero, halved, if_pos le_rfl]
  have next : ⌈|number|⌉ = ⌊|number|⌋ + 1 := ceil_of_inexact (by rw [halved]; norm_num)
  rw [left, ← even_abs, abs_awayFromZero, next, Int.even_add_one]

theorem prescribes_integer (mode : RoundingMode) (number : Rat) :
    mode.Prescribes number (mode.integer number) := by
  have toward : IsNearest number _ _ := nearestTowardZero_isNearest
  have away : IsNearest number _ _ := nearestAwayFromZero_isNearest
  cases mode with
  | ceiling => exact ⟨Int.le_ceil number, fun _ above => Int.ceil_le.mpr above⟩
  | floor => exact ⟨Int.floor_le number, fun _ below => Int.le_floor.mpr below⟩
  | down => rfl
  | up => rfl
  | halfDown => exact toward
  | halfUp => exact away
  | halfEven =>
      simp only [Prescribes, integer]
      split
      · rename_i even
        exact ⟨toward.1, fun tie => (even_nearestTowardZero_of_tie tie).mpr even⟩
      · rename_i odd
        exact ⟨away.1, fun tie => (even_nearestAwayFromZero_of_tie tie).mpr odd⟩
  | halfOdd =>
      simp only [Prescribes, integer]
      split
      · rename_i even
        refine ⟨away.1, fun tie => Int.not_even_iff_odd.mp ?_⟩
        rw [even_nearestAwayFromZero_of_tie tie]
        exact not_not.mpr even
      · rename_i odd
        refine ⟨toward.1, fun tie => Int.not_even_iff_odd.mp ?_⟩
        rw [even_nearestTowardZero_of_tie tie]
        exact odd

theorem IsNearest.within_half {onTie : Int → Prop} {integer : Int}
    (nearest : IsNearest number onTie integer) : |number - integer| ≤ 1 / 2 := by
  have closest := nearest.1 (round number)
  exact closest.trans (abs_sub_round number)

/-- A condition that cannot hold of both neighbours of a tie leaves one nearest integer. -/
theorem IsNearest.unique {onTie : Int → Prop} {left right : Int}
    (selects : ∀ below : Int, number = below + 1 / 2 → onTie below → ¬onTie (below + 1))
    (leftNearest : IsNearest number onTie left) (rightNearest : IsNearest number onTie right) :
    left = right := by
  have noneBetween : ∀ {lower upper : Int}, IsNearest number onTie lower →
      IsNearest number onTie upper → ¬lower < upper := by
    intro lower upper lowerNearest upperNearest less
    have lowerWithin := abs_le.mp lowerNearest.within_half
    have upperWithin := abs_le.mp upperNearest.within_half
    have apart : (lower : Rat) + 1 ≤ upper := by exact_mod_cast less
    have tie : number = lower + 1 / 2 := by linarith
    have next : upper = lower + 1 := by
      have gap : (upper : Rat) = lower + 1 := by linarith
      exact_mod_cast gap
    subst next
    exact selects lower tie (lowerNearest.2 ⟨lower, tie⟩) (upperNearest.2 ⟨lower, tie⟩)
  rcases lt_trichotomy left right with less | equal | greater
  · exact absurd less (noneBetween leftNearest rightNearest)
  · exact equal
  · exact absurd greater (noneBetween rightNearest leftNearest)

theorem Prescribes.unique {mode : RoundingMode} {left right : Int}
    (leftPrescribed : mode.Prescribes number left)
    (rightPrescribed : mode.Prescribes number right) : left = right := by
  cases mode <;> simp only [Prescribes] at leftPrescribed rightPrescribed
  case ceiling => exact IsLeast.unique leftPrescribed rightPrescribed
  case floor => exact IsGreatest.unique leftPrescribed rightPrescribed
  case down => exact leftPrescribed.trans rightPrescribed.symm
  case up => exact leftPrescribed.trans rightPrescribed.symm
  case halfDown =>
    refine IsNearest.unique ?_ leftPrescribed rightPrescribed
    rintro below rfl first second
    have fromBelow := sq_lt_sq.mpr first
    have fromAbove := sq_lt_sq.mpr second
    push_cast at fromAbove
    linarith
  case halfUp =>
    refine IsNearest.unique ?_ leftPrescribed rightPrescribed
    rintro below rfl first second
    have fromBelow := sq_lt_sq.mpr first
    have fromAbove := sq_lt_sq.mpr second
    push_cast at fromAbove
    have negative : (below : Rat) < 0 := by linarith
    have atMost : (below : Rat) ≤ -1 := by
      exact_mod_cast Int.le_sub_one_of_lt (Int.cast_lt_zero.mp negative)
    linarith
  case halfEven =>
    refine IsNearest.unique ?_ leftPrescribed rightPrescribed
    intro below _ first second
    exact Int.even_add_one.mp second first
  case halfOdd =>
    refine IsNearest.unique ?_ leftPrescribed rightPrescribed
    intro below _ first second
    exact Int.not_even_iff_odd.mpr second (Int.even_add_one.mpr (Int.not_even_iff_odd.mpr first))

theorem prescribes_iff (mode : RoundingMode) (number : Rat) (chosen : Int) :
    mode.Prescribes number chosen ↔ chosen = mode.integer number := by
  constructor
  · intro prescribed
    exact prescribed.unique (prescribes_integer mode number)
  · rintro rfl
    exact prescribes_integer mode number

end

end LowestTerms.RoundingMode
