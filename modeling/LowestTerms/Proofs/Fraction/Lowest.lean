import Mathlib.Data.Int.GCD
import Mathlib.Data.Rat.Lemmas
import LowestTerms.Fraction.Basic

/-!
Every rational number has exactly one fraction in lowest terms, `ofRat`. Reduction finds it on all
of its paths, and the parts that are read off a fraction that exists are those of its value.
-/

namespace LowestTerms.Fraction

def ofRat (number : Rat) : Fraction := ⟨number.num, number.den⟩

theorem canonical_ofRat (number : Rat) : (ofRat number).Canonical := by
  constructor
  · simpa [ofRat] using number.den_pos
  · simpa [ofRat, Int.gcd] using number.reduced

theorem valid_ofRat (number : Rat) : (ofRat number).Valid :=
  Or.inl (canonical_ofRat number)

theorem value_eq_div (x : Fraction) : x.value = x.num / x.den :=
  Rat.divInt_eq_div x.num x.den

@[simp] theorem value_ofRat (number : Rat) : (ofRat number).value = number := by
  rw [value_eq_div]
  exact_mod_cast number.num_div_den

theorem ofRat_injective : Function.Injective ofRat := by
  intro first second same
  rw [← value_ofRat first, same, value_ofRat]

@[simp] theorem value_undefined : undefined.value = 0 := by
  simp [value_eq_div, undefined]

theorem Canonical.isUndefined_eq_false {x : Fraction} (canonical : x.Canonical) :
    x.isUndefined = false :=
  beq_false_of_ne canonical.1.ne'

theorem Canonical.eq_ofRat {x : Fraction} (canonical : x.Canonical) : x = ofRat x.value := by
  obtain ⟨positive, coprime⟩ := canonical
  have num : (x.num / x.den : Rat).num = x.num := Rat.num_div_eq_of_coprime positive coprime
  have den : ((x.num / x.den : Rat).den : Int) = x.den :=
    Rat.den_div_eq_of_coprime positive coprime
  cases x with
  | mk num den => simp_all [ofRat, value_eq_div]

theorem Canonical.eq_ofRat_of_value {x : Fraction} {number : Rat} (canonical : x.Canonical)
    (value : x.value = number) : x = ofRat number := by
  rw [← value]
  exact canonical.eq_ofRat

theorem ofInt_eq_ofRat (value : Int) : ofInt value = ofRat value := by
  simp [ofInt, ofRat]

theorem zero_eq_ofRat : zero = ofRat 0 := by
  simp [zero, ofRat]

theorem one_eq_ofRat : one = ofRat 1 := by
  simp [one, ofRat]

theorem dividedOut_eq (dividend divisor : Int) :
    dividedOut dividend divisor =
      (dividend / Int.gcd dividend divisor, divisor / Int.gcd dividend divisor) := by
  simp only [dividedOut]
  split
  · rename_i unit
    simp [unit]
  · split
    · rename_i coprime
      simp [coprime]
    · rw [Int.tdiv_eq_ediv_of_dvd (Int.gcd_dvd_left dividend divisor),
        Int.tdiv_eq_ediv_of_dvd (Int.gcd_dvd_right dividend divisor)]

theorem reduce_eq_ofRat {dividend divisor : Int} (nonzero : divisor ≠ 0) :
    reduce dividend divisor = ofRat (dividend / divisor) := by
  simp only [reduce, dividedOut_eq]
  split
  · rename_i isZero
    simp [isZero, zero_eq_ofRat]
  · split
    · rename_i same
      rw [same, div_self (by exact_mod_cast nonzero), one_eq_ofRat]
    · rename_i notZero _
      have commonPositive : 0 < Int.gcd dividend divisor := Int.gcd_pos_of_ne_zero_right _ nonzero
      obtain ⟨num, den, coprime, dividendEq, divisorEq⟩ :=
        Int.exists_gcd_one commonPositive
      have commonNonzero : (Int.gcd dividend divisor : Int) ≠ 0 := by omega
      have denNonzero : den ≠ 0 := by
        intro isZero
        rw [isZero, Int.zero_mul] at divisorEq
        exact nonzero divisorEq
      have numEq : dividend / Int.gcd dividend divisor = num :=
        Int.ediv_eq_of_eq_mul_left commonNonzero dividendEq
      have denEq : divisor / Int.gcd dividend divisor = den :=
        Int.ediv_eq_of_eq_mul_left commonNonzero divisorEq
      have quotientEq : (dividend / divisor : Rat) = num / den := by
        have dividendCast : (dividend : Rat) = num * (Int.gcd dividend divisor : Int) := by
          exact_mod_cast dividendEq
        have divisorCast : (divisor : Rat) = den * (Int.gcd dividend divisor : Int) := by
          exact_mod_cast divisorEq
        rw [dividendCast, divisorCast, mul_div_mul_right _ _ (by exact_mod_cast commonNonzero)]
      rw [numEq, denEq, quotientEq]
      split
      · rename_i negative
        apply Canonical.eq_ofRat_of_value
        · exact ⟨by simpa using negative, by simpa [Int.gcd_neg, Int.neg_gcd] using coprime⟩
        · simp [value_eq_div, neg_div_neg_eq]
      · apply Canonical.eq_ofRat_of_value
        · exact ⟨by simp only; omega, coprime⟩
        · simp [value_eq_div]

theorem canonical_reduce {dividend divisor : Int} (nonzero : divisor ≠ 0) :
    (reduce dividend divisor).Canonical := by
  rw [reduce_eq_ofRat nonzero]
  exact canonical_ofRat _

section Reading

variable {x : Fraction} (valid : x.Valid)

include valid

theorem Valid.numerator_eq : x.numerator = x.value.num := by
  rcases valid with canonical | rfl
  · exact congrArg num canonical.eq_ofRat
  · simp [numerator, undefined, value_eq_div]

theorem Valid.denominator_eq : x.denominator = x.value.den := by
  rcases valid with canonical | rfl
  · have positive := canonical.1
    rw [denominator, if_neg (by omega)]
    exact congrArg den canonical.eq_ofRat
  · simp [denominator, undefined, value_eq_div]

theorem Valid.denominator_pos : 0 < x.denominator := by
  rw [valid.denominator_eq]
  exact_mod_cast x.value.den_pos

theorem Valid.denominator_ne_zero : x.denominator ≠ 0 :=
  ne_of_gt valid.denominator_pos

theorem Valid.value_eq_parts : x.value = x.numerator / x.denominator := by
  rw [valid.numerator_eq, valid.denominator_eq]
  exact_mod_cast x.value.num_div_den.symm

theorem Valid.defined_eq : x.defined = ofRat x.value := by
  rcases valid with canonical | rfl
  · have positive := canonical.1
    rw [defined, if_neg (by omega)]
    exact canonical.eq_ofRat
  · simp [defined, undefined, zero_eq_ofRat, value_eq_div]

theorem Valid.isZero_iff : x.isZero = true ↔ x.value = 0 := by
  have num : x.num = x.value.num := valid.numerator_eq
  simp [isZero, num]

theorem Valid.eq_ofRat_of_ne_zero (nonzero : x.value ≠ 0) : x = ofRat x.value := by
  rcases valid with canonical | rfl
  · exact canonical.eq_ofRat
  · simp at nonzero

end Reading

theorem isOne_iff (x : Fraction) : x.isOne = true ↔ x = one := by
  cases x with
  | mk num den => simp [isOne, one]

end LowestTerms.Fraction
