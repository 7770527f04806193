import Mathlib.Algebra.Order.Field.Power
import Mathlib.Algebra.Order.Field.Rat
import Mathlib.Data.Rat.Cast.Order
import Mathlib.Order.Monotone.Basic
import Mathlib.Tactic.FieldSimp
import Mathlib.Tactic.Linarith
import Mathlib.Tactic.Positivity
import Mathlib.Tactic.Ring
import LowestTerms.Binary.Format

/-!
The numbers that a binary format holds. Counting up the magnitudes goes up through the numbers, in
steps of one size from each power of two to the next, also over the border between subnormal and
normal magnitudes, and beyond the largest finite magnitude to the number that infinity stands for.
-/

namespace LowestTerms.Binary

theorem power_quotient {base : Nat} (positive : 0 < base) (exponent : Int) :
    ((base ^ exponent.toNat : Nat) : Rat) / (base ^ (-exponent).toNat : Nat) = base ^ exponent := by
  have baseNonzero : (base : Rat) ≠ 0 := by exact_mod_cast positive.ne'
  obtain ⟨magnitude, rfl | rfl⟩ := exponent.eq_nat_or_neg
  · simp
  · simp

theorem powerOfTwo_quotient (exponent : Int) :
    ((powerOfTwo exponent).1 : Rat) / (powerOfTwo exponent).2 = 2 ^ exponent := by
  have quotient := power_quotient two_pos exponent
  exact_mod_cast quotient

theorem powerOfTwo_pos (exponent : Int) :
    0 < (powerOfTwo exponent).1 ∧ 0 < (powerOfTwo exponent).2 :=
  ⟨Nat.two_pow_pos _, Nat.two_pow_pos _⟩

theorem pow_log2_le {number : Nat} (nonzero : number ≠ 0) :
    (2 : Rat) ^ (number.log2 : Int) ≤ number := by
  rw [zpow_natCast]
  exact_mod_cast Nat.log2_self_le nonzero

theorem lt_pow_log2 (number : Nat) : (number : Rat) < 2 ^ ((number.log2 : Int) + 1) := by
  have bound := Nat.lt_log2_self (n := number)
  have cast : ((number.log2 : Int) + 1) = ((number.log2 + 1 : Nat) : Int) := by omega
  rw [cast, zpow_natCast]
  exact_mod_cast bound

section

variable {dividend divisor : Nat} (dividendNonzero : dividend ≠ 0) (divisorNonzero : divisor ≠ 0)

include divisorNonzero in
theorem powerOfTwo_le_iff (exponent : Int) :
    divisor * (powerOfTwo exponent).1 ≤ dividend * (powerOfTwo exponent).2 ↔
      (2 : Rat) ^ exponent ≤ dividend / divisor := by
  have divisorPositive : (0 : Rat) < divisor := by exact_mod_cast Nat.pos_of_ne_zero divisorNonzero
  have downPositive : (0 : Rat) < (powerOfTwo exponent).2 := by
    exact_mod_cast (powerOfTwo_pos exponent).2
  rw [← powerOfTwo_quotient, div_le_div_iff₀ downPositive divisorPositive, mul_comm divisor]
  exact_mod_cast Iff.rfl

include dividendNonzero divisorNonzero

theorem floorLog2_brackets :
    (2 : Rat) ^ floorLog2 dividend divisor ≤ dividend / divisor ∧
      (dividend / divisor : Rat) < 2 ^ (floorLog2 dividend divisor + 1) := by
  have divisorPositive : (0 : Rat) < divisor := by exact_mod_cast Nat.pos_of_ne_zero divisorNonzero
  have leading := pow_log2_le dividendNonzero
  have beyond := lt_pow_log2 dividend
  have divisorLeading := pow_log2_le divisorNonzero
  have divisorBeyond := lt_pow_log2 divisor
  have above : (dividend / divisor : Rat) <
      2 ^ ((dividend.log2 : Int) - divisor.log2 + 1) := by
    rw [div_lt_iff₀ divisorPositive]
    calc (dividend : Rat) < 2 ^ ((dividend.log2 : Int) + 1) := beyond
      _ = 2 ^ ((dividend.log2 : Int) - divisor.log2 + 1) * 2 ^ (divisor.log2 : Int) := by
        rw [← zpow_add₀ two_ne_zero]
        congr 1
        ring
      _ ≤ 2 ^ ((dividend.log2 : Int) - divisor.log2 + 1) * divisor := by gcongr
  have below : (2 : Rat) ^ ((dividend.log2 : Int) - divisor.log2 - 1) ≤ dividend / divisor := by
    rw [le_div_iff₀ divisorPositive]
    calc (2 : Rat) ^ ((dividend.log2 : Int) - divisor.log2 - 1) * divisor
        ≤ 2 ^ ((dividend.log2 : Int) - divisor.log2 - 1) * 2 ^ ((divisor.log2 : Int) + 1) := by
          gcongr
      _ = 2 ^ (dividend.log2 : Int) := by
        rw [← zpow_add₀ two_ne_zero]
        congr 1
        ring
      _ ≤ dividend := leading
  simp only [floorLog2, powerOfTwo_le_iff divisorNonzero]
  split
  · rename_i reached
    exact ⟨reached, above⟩
  · rename_i notReached
    refine ⟨below, ?_⟩
    rw [sub_add_cancel]
    exact not_le.mp notReached

end

namespace Format

def number (format : Format) (index : Nat) : Rat :=
  (format.significand index).1 * 2 ^ (format.significand index).2

section

variable (format : Format)

theorem binade_pos : 0 < format.binade := Nat.two_pow_pos _

theorem magnitude_pos (index : Nat) : 0 < (format.magnitude index).2 :=
  (powerOfTwo_pos _).2

theorem magnitude_quotient (index : Nat) :
    ((format.magnitude index).1 : Rat) / (format.magnitude index).2 = format.number index := by
  simp only [magnitude, number, Nat.cast_mul, mul_div_assoc, powerOfTwo_quotient]

theorem number_nonneg (index : Nat) : 0 ≤ format.number index := by
  unfold number
  positivity

theorem number_parts (high : Nat) {low : Nat} (less : low < format.binade) :
    format.number (high * format.binade + low) =
      if high = 0 then (low : Rat) * 2 ^ format.leastExponent
      else ((format.binade + low : Nat) : Rat) * 2 ^ (format.leastExponent + (high - 1 : Nat)) := by
  have quotient : (high * format.binade + low) / format.binade = high := by
    rw [Nat.mul_comm, Nat.mul_add_div format.binade_pos, Nat.div_eq_of_lt less, Nat.add_zero]
  have rest : (high * format.binade + low) % format.binade = low := by
    rw [Nat.mul_comm, Nat.mul_add_mod, Nat.mod_eq_of_lt less]
  simp only [number, significand, quotient, rest]
  split <;> rfl

/-- From a power of two to the next, ends included, the numbers are the multiples of one step. -/
theorem number_on_grid {steps point : Nat} (least : steps = 0 ∨ format.binade ≤ point)
    (greatest : point ≤ 2 * format.binade) :
    format.number (steps * format.binade + point) = point * 2 ^ (format.leastExponent + steps) := by
  rcases lt_or_ge point format.binade with subnormal | normal
  · have first : steps = 0 := by omega
    rw [number_parts format steps subnormal, if_pos first, first, Nat.cast_zero, add_zero]
  · obtain ⟨low, rfl⟩ := Nat.exists_eq_add_of_le normal
    rcases lt_or_ge low format.binade with within | last
    · have split : steps * format.binade + (format.binade + low) =
          (steps + 1) * format.binade + low := by ring
      rw [split, number_parts format _ within, if_neg (Nat.succ_ne_zero steps),
        Nat.add_sub_cancel]
    · have atEnd : low = format.binade := by omega
      have split : steps * format.binade + (format.binade + low) =
          (steps + 2) * format.binade + 0 := by
        rw [atEnd]
        ring
      have next : format.leastExponent + ((steps + 2 - 1 : Nat) : Int) =
          format.leastExponent + steps + 1 := by omega
      rw [split, number_parts format _ format.binade_pos, if_neg (Nat.succ_ne_zero _), next,
        zpow_add_one₀ two_ne_zero, atEnd]
      push_cast
      ring

theorem exists_grid (index : Nat) : ∃ steps point, index = steps * format.binade + point ∧
    (steps = 0 ∨ format.binade ≤ point) ∧ point < 2 * format.binade := by
  rcases Nat.eq_zero_or_pos (index / format.binade) with subnormal | normal
  · refine ⟨0, index, by omega, .inl rfl, ?_⟩
    have less := (Nat.div_eq_zero_iff_lt format.binade_pos).mp subnormal
    omega
  · obtain ⟨steps, high⟩ := Nat.exists_eq_add_of_le' normal
    have split := Nat.div_add_mod' index format.binade
    have less := Nat.mod_lt index format.binade_pos
    refine ⟨steps, format.binade + index % format.binade, ?_, .inr (by omega), by omega⟩
    rw [high, Nat.add_one_mul] at split
    omega

theorem number_strictMono : StrictMono format.number := by
  apply strictMono_nat_of_lt_succ
  intro index
  obtain ⟨steps, point, rfl, least, less⟩ := format.exists_grid index
  rw [Nat.add_assoc, format.number_on_grid least less.le,
    format.number_on_grid (least.imp_right Nat.le_succ_of_le) less]
  push_cast
  have step : (0 : Rat) < 2 ^ (format.leastExponent + steps) := by positivity
  linarith

theorem number_zero : format.number 0 = 0 := by
  have first := format.number_parts 0 format.binade_pos
  simpa using first

end

end Format

end LowestTerms.Binary
