import Mathlib.Data.Rat.Floor
import Mathlib.Data.Sign.Basic
import Mathlib.Tactic.FieldSimp
import Mathlib.Tactic.Linarith
import Mathlib.Tactic.Ring
import LowestTerms.Decimal.Arithmetic

/-!
What the operations on decimals do to the numbers that decimals stand for. Whole parts, signs, order
and remainders are those of the rational numbers.
-/

namespace LowestTerms.Decimal

theorem powerOfTen_pos (scale : Nat) : 0 < 10 ^ scale :=
  Nat.pow_pos (by decide)

def signFactor (negative : Bool) : Rat := if negative then -1 else 1

theorem signFactor_cases (negative : Bool) :
    (negative = true ∧ signFactor negative = -1) ∨
      (negative = false ∧ signFactor negative = 1) := by
  cases negative <;> simp [signFactor]

theorem abs_signFactor (negative : Bool) : |signFactor negative| = 1 := by
  cases negative <;> simp [signFactor]

theorem signFactor_bne (left right : Bool) :
    signFactor (left != right) = signFactor left * signFactor right := by
  cases left <;> cases right <;> simp [signFactor]

theorem withSign_eq (negative : Bool) (magnitude : Nat) :
    (Numeral.withSign negative magnitude : Rat) = signFactor negative * magnitude := by
  cases negative <;> simp [Numeral.withSign, signFactor]

theorem natAbs_withSign (negative : Bool) (magnitude : Nat) :
    (Numeral.withSign negative magnitude).natAbs = magnitude := by
  cases negative <;> simp [Numeral.withSign]

theorem value_eq (d : Decimal) : d.value = signFactor d.negative * (d.mantissa / 10 ^ d.scale) := by
  rw [value, Rat.mkRat_eq_div, signedMantissa, withSign_eq, mul_div_assoc]
  simp

theorem value_whole (negative : Bool) (mantissa : Nat) :
    value ⟨negative, mantissa, 0⟩ = signFactor negative * mantissa := by
  rw [value_eq, pow_zero, div_one]

theorem abs_valid {d : Decimal} (valid : d.Valid) : d.abs.Valid :=
  valid

theorem value_abs (d : Decimal) : d.abs.value = |d.value| := by
  have magnitude : 0 ≤ (d.mantissa / 10 ^ d.scale : Rat) := by positivity
  rw [value_eq, value_eq, abs_mul, abs_signFactor, abs_of_nonneg magnitude]
  rfl

theorem value_eq_zero_iff (d : Decimal) : d.value = 0 ↔ d.mantissa = 0 := by
  rw [value_eq]
  rcases signFactor_cases d.negative with ⟨_, factor⟩ | ⟨_, factor⟩ <;> simp [factor]

theorem isZero_iff (d : Decimal) : d.isZero = true ↔ d.value = 0 := by
  rw [value_eq_zero_iff, isZero, beq_iff_eq]

theorem value_nonneg {d : Decimal} (sign : d.negative = false) : 0 ≤ d.value := by
  rw [value_eq, signFactor, sign]
  simp only [Bool.false_eq_true, if_false, one_mul]
  positivity

theorem value_nonpos {d : Decimal} (sign : d.negative = true) : d.value ≤ 0 := by
  have magnitude : 0 ≤ (d.mantissa / 10 ^ d.scale : Rat) := by positivity
  rw [value_eq, signFactor, sign]
  simpa using magnitude

theorem signum_valid (d : Decimal) : d.signum.Valid := by
  unfold signum
  split
  · exact ⟨Nat.pow_pos (by decide), Nat.zero_le _⟩
  · exact ⟨Nat.one_lt_two_pow (by decide), Nat.zero_le _⟩

theorem value_signum (d : Decimal) : d.signum.value = (SignType.sign d.value : Rat) := by
  unfold signum
  split
  · rename_i isZero
    rw [(isZero_iff d).mp isZero, value_eq]
    simp [zero]
  · rename_i notZero
    have nonzero : d.value ≠ 0 := by rwa [Ne, ← isZero_iff]
    rcases signFactor_cases d.negative with ⟨sign, factor⟩ | ⟨sign, factor⟩
    · have negative : d.value < 0 := lt_of_le_of_ne (value_nonpos sign) nonzero
      rw [value_eq, sign_neg negative]
      simp [signFactor, sign]
    · have positive : 0 < d.value := lt_of_le_of_ne (value_nonneg sign) nonzero.symm
      rw [value_eq, sign_pos positive]
      simp [signFactor, sign]

def opposite (d : Decimal) : Decimal := ⟨!d.negative, d.mantissa, d.scale⟩

theorem opposite_valid {d : Decimal} (valid : d.Valid) : d.opposite.Valid :=
  valid

theorem opposite_opposite (d : Decimal) : d.opposite.opposite = d := by
  simp [opposite]

theorem value_opposite (d : Decimal) : d.opposite.value = -d.value := by
  have flipped : signFactor (!d.negative) = -signFactor d.negative := by
    cases d.negative <;> simp [signFactor]
  rw [value_eq, value_eq, ← neg_mul, ← flipped]
  rfl

theorem value_trunc (d : Decimal) :
    d.trunc.value = signFactor d.negative * (d.mantissa / 10 ^ d.scale : Nat) :=
  value_whole _ _

theorem value_fract (d : Decimal) : d.fract.value = d.value - d.trunc.value := by
  have split : (d.mantissa : Rat) =
      10 ^ d.scale * (d.mantissa / 10 ^ d.scale : Nat) + (d.mantissa % 10 ^ d.scale : Nat) := by
    exact_mod_cast (Nat.div_add_mod d.mantissa (10 ^ d.scale)).symm
  have fractional : d.fract.value =
      signFactor d.negative * ((d.mantissa % 10 ^ d.scale : Nat) / 10 ^ d.scale) := value_eq d.fract
  rw [fractional, value_trunc, value_eq, split]
  field_simp
  ring

theorem abs_value_eq (d : Decimal) : |d.value| = (d.mantissa : Rat) / (10 ^ d.scale : Nat) := by
  rw [← value_abs, value_eq]
  simp [abs, signFactor]

theorem ceil_quotient (dividend : Nat) {divisor : Nat} (positive : 0 < divisor) :
    ⌈(dividend / divisor : Rat)⌉ =
      ((dividend / divisor + if dividend % divisor = 0 then 0 else 1 : Nat) : Int) := by
  have split : (dividend : Rat) =
      divisor * (dividend / divisor : Nat) + (dividend % divisor : Nat) := by
    exact_mod_cast (Nat.div_add_mod dividend divisor).symm
  have restBound : ((dividend % divisor : Nat) : Rat) < divisor := by
    exact_mod_cast Nat.mod_lt dividend positive
  have divisorPositive : (0 : Rat) < divisor := by exact_mod_cast positive
  rw [split, Int.ceil_eq_iff, lt_div_iff₀ divisorPositive, div_le_iff₀ divisorPositive]
  generalize dividend / divisor = whole
  generalize dividend % divisor = rest at restBound
  split
  · rename_i exact
    subst exact
    push_cast
    constructor <;> linarith
  · rename_i inexact
    have restPositive : (0 : Rat) < rest := by exact_mod_cast Nat.pos_of_ne_zero inexact
    push_cast
    constructor <;> linarith

theorem floor_abs_value (d : Decimal) :
    ⌊|d.value|⌋ = ((d.mantissa / 10 ^ d.scale : Nat) : Int) := by
  rw [abs_value_eq, Rat.floor_natCast_div_natCast]
  rfl

theorem ceil_abs_value (d : Decimal) :
    ⌈|d.value|⌉ =
      ((d.mantissa / 10 ^ d.scale + if d.fract.isZero then 0 else 1 : Nat) : Int) := by
  have exactIff : d.fract.isZero = true ↔ d.mantissa % 10 ^ d.scale = 0 := beq_iff_eq
  rw [abs_value_eq, ceil_quotient _ (powerOfTen_pos d.scale)]
  simp only [exactIff]

theorem value_toInteger (d : Decimal) (away : Bool) :
    (d.toInteger away).value =
      signFactor d.negative * (if away then ⌈|d.value|⌉ else ⌊|d.value|⌋ : Int) := by
  rw [floor_abs_value, ceil_abs_value]
  cases away with
  | false => exact value_whole _ _
  | true =>
      cases isExact : d.fract.isZero with
      | true =>
          rw [toInteger, isExact]
          exact value_whole _ _
      | false =>
          rw [toInteger, isExact]
          exact value_whole _ _

theorem value_floor (d : Decimal) : d.floor.value = ⌊d.value⌋ := by
  rw [floor, value_toInteger]
  rcases signFactor_cases d.negative with ⟨sign, factor⟩ | ⟨sign, factor⟩
  · rw [factor, sign, abs_of_nonpos (value_nonpos sign), if_pos rfl, Int.ceil_neg]
    push_cast
    ring
  · rw [factor, sign, abs_of_nonneg (value_nonneg sign), one_mul]
    rfl

theorem value_ceil (d : Decimal) : d.ceil.value = ⌈d.value⌉ := by
  rw [ceil, value_toInteger]
  rcases signFactor_cases d.negative with ⟨sign, factor⟩ | ⟨sign, factor⟩
  · rw [factor, sign, abs_of_nonpos (value_nonpos sign), Int.floor_neg]
    simp
  · rw [factor, sign, abs_of_nonneg (value_nonneg sign), one_mul]
    rfl

theorem toInteger_valid {d : Decimal} (valid : d.Valid) (away : Bool) :
    (d.toInteger away).Valid := by
  obtain ⟨fits, _⟩ := valid
  have truncated : d.mantissa / 10 ^ d.scale ≤ d.mantissa := Nat.div_le_self _ _
  unfold toInteger
  split
  · rename_i increased
    refine ⟨?_, Nat.zero_le _⟩
    have notExact : d.fract.isZero = false := by simpa using (Bool.and_eq_true_iff.mp increased).2
    have restNonzero : d.mantissa % 10 ^ d.scale ≠ 0 := by
      simpa [isZero, fract] using notExact
    have scaleNonzero : d.scale ≠ 0 := by
      intro whole
      rw [whole, pow_zero, Nat.mod_one] at restNonzero
      exact restNonzero rfl
    have atLeastTen : 10 ≤ 10 ^ d.scale := Nat.le_self_pow scaleNonzero 10
    have quotientBound : d.mantissa / 10 ^ d.scale ≤ d.mantissa / 10 :=
      Nat.div_le_div_left atLeastTen (by decide)
    have limitEq : limit = 79228162514264337593543950336 := rfl
    change d.mantissa / 10 ^ d.scale + 1 < limit
    omega
  · exact ⟨lt_of_le_of_lt truncated fits, Nat.zero_le _⟩

theorem toInteger_scale (d : Decimal) (away : Bool) : (d.toInteger away).scale = 0 := by
  unfold toInteger
  split
  · rfl
  · rfl

theorem floor_valid {d : Decimal} (valid : d.Valid) : d.floor.Valid :=
  toInteger_valid valid _

theorem ceil_valid {d : Decimal} (valid : d.Valid) : d.ceil.Valid :=
  toInteger_valid valid _

theorem value_fract_of_nonneg {d : Decimal} (nonnegative : 0 ≤ d.value) :
    d.fract.value = Int.fract d.value := by
  have whole : d.trunc.value = ⌊d.value⌋ := by
    have truncated := value_toInteger d false
    rw [abs_of_nonneg nonnegative] at truncated
    rcases signFactor_cases d.negative with ⟨sign, _⟩ | ⟨_, factor⟩
    · have isZero : d.value = 0 := le_antisymm (value_nonpos sign) nonnegative
      rw [isZero, Int.floor_zero] at truncated ⊢
      simpa [toInteger] using truncated
    · simpa [toInteger, factor] using truncated
  rw [value_fract, whole, Int.fract]

theorem signed_mantissaAt {d : Decimal} {scale : Nat} (enough : d.scale ≤ scale) :
    ((Numeral.withSign d.negative (d.mantissaAt scale) : Int) : Rat) = d.value * 10 ^ scale := by
  have power : (10 : Rat) ^ scale = 10 ^ d.scale * 10 ^ (scale - d.scale) := by
    rw [← pow_add, Nat.add_sub_cancel' enough]
  have widened : ((d.mantissaAt scale : Nat) : Rat) = d.mantissa * 10 ^ (scale - d.scale) := by
    simp [mantissaAt, Nat.pow_eq]
  rw [withSign_eq, widened, value_eq, power]
  field_simp

theorem order_eq_compare (x y : Decimal) : order x y = compare x.value y.value := by
  have left := signed_mantissaAt (Nat.le_max_left x.scale y.scale)
  have right := signed_mantissaAt (Nat.le_max_right x.scale y.scale)
  have unitPositive : (0 : Rat) < 10 ^ max x.scale y.scale := by positivity
  have ltIff : Numeral.withSign x.negative (x.mantissaAt (max x.scale y.scale)) <
      Numeral.withSign y.negative (y.mantissaAt (max x.scale y.scale)) ↔ x.value < y.value := by
    rw [← @Int.cast_lt Rat, left, right, mul_lt_mul_iff_left₀ unitPositive]
  have gtIff : Numeral.withSign y.negative (y.mantissaAt (max x.scale y.scale)) <
      Numeral.withSign x.negative (x.mantissaAt (max x.scale y.scale)) ↔ y.value < x.value := by
    rw [← @Int.cast_lt Rat, left, right, mul_lt_mul_iff_left₀ unitPositive]
  simp only [order]
  rcases lt_trichotomy x.value y.value with less | equal | greater
  · rw [compare_lt_iff_lt.mpr less, compare_lt_iff_lt.mpr (ltIff.mpr less)]
  · rw [compare_eq_iff_eq.mpr equal, compare_eq_iff_eq]
    apply le_antisymm
    · exact not_lt.mp (fun less => (gtIff.mp less).ne equal.symm)
    · exact not_lt.mp (fun less => (ltIff.mp less).ne equal)
  · rw [compare_gt_iff_gt.mpr greater, compare_gt_iff_gt.mpr (gtIff.mpr greater)]

theorem order_isGE_iff (x y : Decimal) : (order x y).isGE = true ↔ y.value ≤ x.value := by
  rw [order_eq_compare, Ordering.isGE_iff_ne_lt, compare_lt_iff_lt, not_lt]

theorem order_isGT_iff (x y : Decimal) : (order x y).isGT = true ↔ y.value < x.value := by
  rw [order_eq_compare, Ordering.isGT_iff_eq_gt, compare_gt_iff_gt]

theorem remainder_isZero_iff (x y : Decimal) :
    (x.remainder y).isZero = true ↔ ∃ factor : Int, x.value = y.value * factor := by
  have left := signed_mantissaAt (Nat.le_max_left x.scale y.scale)
  have right := signed_mantissaAt (Nat.le_max_right x.scale y.scale)
  have unitNonzero : (10 ^ max x.scale y.scale : Rat) ≠ 0 := by positivity
  simp only [remainder, isZero, beq_iff_eq]
  rw [← Nat.dvd_iff_mod_eq_zero, ← natAbs_withSign x.negative (x.mantissaAt _),
    ← natAbs_withSign y.negative (y.mantissaAt _), Int.natAbs_dvd_natAbs]
  apply exists_congr
  intro factor
  rw [← @Int.cast_inj Rat, Int.cast_mul, left, right]
  constructor
  · intro equal
    exact mul_right_cancel₀ unitNonzero (by rw [equal]; ring)
  · intro equal
    rw [equal]
    ring

end LowestTerms.Decimal
