import LowestTerms.Proofs.Fraction.Field

/-!
The common denominator of two fractions. It is the least of the common multiples, so both
denominators go into it without a remainder and what is left of it after either has no factor in
common. Addition and subtraction therefore reduce a quotient that already is the exact result.
-/

namespace LowestTerms.Fraction

/-- What widening two positive denominators to `shared` relies on. The first field is about the
division by which `shared` itself is found, the two quotients are those that widen numerators. -/
structure WidensExactly (first second shared : Int) : Prop where
  common_exact : (first.natAbs : Int).tdiv (Int.gcd first second) * Int.gcd first second = first
  positive : 0 < shared
  first_divides : first ∣ shared
  second_divides : second ∣ shared
  least (multiple : Int) : first ∣ multiple → second ∣ multiple → shared ∣ multiple
  first_exact : shared.tdiv first * first = shared
  second_exact : shared.tdiv second * second = shared
  coprime : Int.gcd (shared.tdiv first) (shared.tdiv second) = 1
  sum_exact (m n : Int) :
    Rat.divInt (m * shared.tdiv first + n * shared.tdiv second) shared = m / first + n / second
  difference_exact (m n : Int) :
    Rat.divInt (m * shared.tdiv first - n * shared.tdiv second) shared = m / first - n / second

/-- A factor that two quotients of a common multiple share could be taken out of the multiple. -/
theorem coprime_of_least {first second shared left right : Int} (nonzero : shared ≠ 0)
    (least : ∀ multiple, first ∣ multiple → second ∣ multiple → shared ∣ multiple)
    (leftExact : left * first = shared) (rightExact : right * second = shared) :
    Int.gcd left right = 1 := by
  obtain ⟨leftRest, leftEq⟩ := Int.gcd_dvd_left left right
  obtain ⟨rightRest, rightEq⟩ := Int.gcd_dvd_right left right
  generalize (Int.gcd left right) = common at leftEq rightEq ⊢
  have commonNonzero : (common : Int) ≠ 0 := by
    intro isZero
    rw [leftEq, isZero, Int.zero_mul, Int.zero_mul] at leftExact
    exact nonzero leftExact.symm
  have smaller : leftRest * first = rightRest * second := by
    apply Int.eq_of_mul_eq_mul_left commonNonzero
    rw [← Int.mul_assoc, ← leftEq, leftExact, ← Int.mul_assoc, ← rightEq, rightExact]
  have isMultiple : shared ∣ leftRest * first :=
    least _ (Int.dvd_mul_left _ _) (smaller ▸ Int.dvd_mul_left _ _)
  obtain ⟨factor, factorEq⟩ := isMultiple
  have unit : shared * (common * factor) = shared * 1 := by
    rw [Int.mul_one, Int.mul_left_comm, ← factorEq, ← Int.mul_assoc, ← leftEq, leftExact]
  have isUnit : (common : Int) * factor = 1 := Int.eq_of_mul_eq_mul_left nonzero unit
  exact Int.ofNat_inj.mp (Int.eq_one_of_mul_eq_one_right (Int.natCast_nonneg common) isUnit)

theorem commonDenominator_pos {first second : Int} (firstPositive : 0 < first)
    (secondPositive : 0 < second) : 0 < commonDenominator first second := by
  rw [commonDenominator_eq_lcm]
  exact_mod_cast Int.lcm_pos firstPositive.ne' secondPositive.ne'

theorem commonDenominator_dvd {first second multiple : Int} (firstDivides : first ∣ multiple)
    (secondDivides : second ∣ multiple) : commonDenominator first second ∣ multiple := by
  rw [commonDenominator_eq_lcm]
  exact Int.coe_lcm_dvd firstDivides secondDivides

theorem widened_quotient {divisor shared : Int} (divisorNonzero : divisor ≠ 0)
    (nonzero : shared ≠ 0) (divides : divisor ∣ shared) (m : Int) :
    ((m * shared.tdiv divisor : Int) : Rat) / shared = m / divisor := by
  obtain ⟨factor, rfl⟩ := divides
  have factorNonzero : (factor : Rat) ≠ 0 := by exact_mod_cast right_ne_zero_of_mul nonzero
  rw [Int.mul_tdiv_cancel_left factor divisorNonzero]
  push_cast
  rw [mul_div_mul_right _ _ factorNonzero]

theorem commonDenominator_widens {first second : Int} (firstPositive : 0 < first)
    (secondPositive : 0 < second) :
    WidensExactly first second (commonDenominator first second) := by
  have positive := commonDenominator_pos firstPositive secondPositive
  have firstDivides := dvd_commonDenominator_left first second
  have secondDivides := dvd_commonDenominator_right first second
  have firstExact := Int.tdiv_mul_cancel firstDivides
  have secondExact := Int.tdiv_mul_cancel secondDivides
  have firstQuotient := widened_quotient firstPositive.ne' positive.ne' firstDivides
  have secondQuotient := widened_quotient secondPositive.ne' positive.ne' secondDivides
  constructor
  case common_exact =>
    rw [Int.natAbs_of_nonneg firstPositive.le]
    exact Int.tdiv_mul_cancel (Int.gcd_dvd_left first second)
  case positive => exact positive
  case first_divides => exact firstDivides
  case second_divides => exact secondDivides
  case least => exact fun multiple => commonDenominator_dvd
  case first_exact => exact firstExact
  case second_exact => exact secondExact
  case coprime =>
    exact coprime_of_least positive.ne' (fun multiple => commonDenominator_dvd) firstExact
      secondExact
  case sum_exact =>
    intro m n
    rw [Rat.divInt_eq_div, Int.cast_add, add_div, firstQuotient, secondQuotient]
  case difference_exact =>
    intro m n
    rw [Rat.divInt_eq_div, Int.cast_sub, sub_div, firstQuotient, secondQuotient]

section

variable {x y : Fraction} (leftNonzero : x.isZero = false) (rightNonzero : y.isZero = false)
  (unequal : x.denominator ≠ y.denominator)

include leftNonzero rightNonzero unequal

theorem add_of_unequal_denominators :
    x + y =
      let shared := commonDenominator x.denominator y.denominator
      reduce (x.numerator * shared.tdiv x.denominator + y.numerator * shared.tdiv y.denominator)
        shared := by
  change add x y = _
  simp only [add, leftNonzero, rightNonzero, unequal, Bool.false_eq_true, if_false, widened]

theorem sub_of_unequal_denominators :
    x - y =
      let shared := commonDenominator x.denominator y.denominator
      reduce (x.numerator * shared.tdiv x.denominator - y.numerator * shared.tdiv y.denominator)
        shared := by
  change sub x y = _
  simp only [sub, leftNonzero, rightNonzero, unequal, Bool.false_eq_true, if_false, widened]

end

/-- The common denominator is the least common multiple, and the quotients that widen the numerators
are exact and coprime. What addition and subtraction of unequal denominators reduce is the exact
value of the result. -/
theorem common_denominator_is_exact :
    (∀ first second : Int, 0 < first → 0 < second →
      WidensExactly first second (commonDenominator first second)) ∧
    ∀ x y : Fraction, x.Valid → y.Valid → x.isZero = false → y.isZero = false →
      x.denominator ≠ y.denominator →
        let shared := commonDenominator x.denominator y.denominator
        let left := x.numerator * shared.tdiv x.denominator
        let right := y.numerator * shared.tdiv y.denominator
        WidensExactly x.denominator y.denominator shared ∧
        x + y = reduce (left + right) shared ∧
        Rat.divInt (left + right) shared = x.value + y.value ∧
        x - y = reduce (left - right) shared ∧
        Rat.divInt (left - right) shared = x.value - y.value := by
  refine ⟨fun _ _ => commonDenominator_widens, ?_⟩
  intro x y left right leftNonzero rightNonzero unequal
  have widens := commonDenominator_widens left.denominator_pos right.denominator_pos
  refine ⟨widens, add_of_unequal_denominators leftNonzero rightNonzero unequal, ?_,
    sub_of_unequal_denominators leftNonzero rightNonzero unequal, ?_⟩
  · rw [widens.sum_exact, left.value_eq_parts, right.value_eq_parts]
  · rw [widens.difference_exact, left.value_eq_parts, right.value_eq_parts]

theorem common_denominator_is_exact_with_shared_factor :
    WidensExactly 12 18 (commonDenominator 12 18) ∧
      (⟨-5, 12⟩ : Fraction) + ⟨7, 18⟩ =
        reduce (-5 * (36 : Int).tdiv 12 + 7 * (36 : Int).tdiv 18) 36 ∧
      (⟨-5, 12⟩ : Fraction) - ⟨7, 18⟩ =
        reduce (-5 * (36 : Int).tdiv 12 - 7 * (36 : Int).tdiv 18) 36 := by
  obtain ⟨least, results⟩ := common_denominator_is_exact
  have left : (⟨-5, 12⟩ : Fraction).Valid := .inl ⟨by decide, by decide⟩
  have right : (⟨7, 18⟩ : Fraction).Valid := .inl ⟨by decide, by decide⟩
  obtain ⟨_, sum, _, difference, _⟩ :=
    results _ _ left right (by decide) (by decide) (by decide)
  exact ⟨least 12 18 (by decide) (by decide), sum, difference⟩

end LowestTerms.Fraction
