import LowestTerms.Proofs.Binary.Shortest
import LowestTerms.Proofs.Literal.Grammar
import LowestTerms.Proofs.Numeral.Writing

/-!
The text of a shortest decimal with its point in place. It is a literal without an exponent, whose
digits before and after the point are those of a quotient and of its remainder.
-/

namespace LowestTerms

namespace Binary.Shortest

open Literal (Spelling)
open Numeral (decimalNumber)

def places (shortest : Shortest) : Nat := (-shortest.exponent).toNat

def wholeDigits (shortest : Shortest) : List Char :=
  Nat.toDigits 10 (shortest.quotient.1 / shortest.quotient.2)

def fractionalDigits (shortest : Shortest) : List Char :=
  let digits := Nat.toDigits 10 (shortest.quotient.1 % shortest.quotient.2)
  List.replicate (shortest.places - digits.length) '0' ++ digits

def spelling (shortest : Shortest) (negative : Bool) : Spelling :=
  ⟨if negative then some '-' else none, shortest.wholeDigits, some shortest.fractionalDigits, none⟩

variable (shortest : Shortest)

theorem quotient_divisor : shortest.quotient.2 = 10 ^ shortest.places := rfl

theorem toList_signed_positional (negative : Bool) :
    ((if negative then "-" else "") ++ shortest.positional).toList =
      (shortest.spelling negative).characters := by
  have positional : shortest.positional.toList =
      shortest.wholeDigits ++ '.' :: shortest.fractionalDigits := by
    simp only [positional, String.toList_append, String.toList_ofList, Nat.toList_repr,
      List.append_assoc]
    rfl
  rw [String.toList_append, positional, Spelling.characters, spelling, Literal.writeMantissa,
    Literal.writeExponent, List.append_nil]
  cases negative <;> rfl

theorem isDigit_of_mem {character : Char}
    (member : character ∈ shortest.wholeDigits ++ shortest.fractionalDigits) :
    character.isDigit = true := by
  rcases List.mem_append.mp member with inWhole | inFractional
  · exact Nat.isDigit_of_mem_toDigits (by decide) (by decide) inWhole
  · rcases List.mem_append.mp inFractional with inZeros | inDigits
    · rw [List.eq_of_mem_replicate inZeros]
      rfl
    · exact Nat.isDigit_of_mem_toDigits (by decide) (by decide) inDigits

/-- There is a digit after the point even if no place is needed. -/
theorem length_fractionalDigits : shortest.fractionalDigits.length = max shortest.places 1 := by
  have less : shortest.quotient.1 % shortest.quotient.2 < 10 ^ shortest.places :=
    Nat.mod_lt _ shortest.quotient_pos
  have atLeast : 0 < (Nat.toDigits 10 (shortest.quotient.1 % shortest.quotient.2)).length :=
    Nat.length_toDigits_pos
  simp only [fractionalDigits, List.length_append, List.length_replicate]
  rcases Nat.eq_zero_or_pos shortest.places with none | some
  · rw [none, Nat.pow_zero, Nat.lt_one_iff] at less
    rw [less, none]
    rfl
  · have atMost := (Nat.length_toDigits_le_iff (by decide) some).mpr less
    omega

theorem decimals_spelling (negative : Bool) :
    (shortest.spelling negative).decimals = max shortest.places 1 :=
  shortest.length_fractionalDigits

theorem decimalNumber_mantissa (negative : Bool) :
    decimalNumber (shortest.spelling negative).mantissa * shortest.quotient.2 =
      shortest.quotient.1 * 10 ^ max shortest.places 1 := by
  have fractional : decimalNumber shortest.fractionalDigits =
      shortest.quotient.1 % shortest.quotient.2 := by
    rw [fractionalDigits, Numeral.decimalNumber_zeros_append, Numeral.decimalNumber_toDigits]
  have mantissa : decimalNumber (shortest.spelling negative).mantissa =
      shortest.quotient.1 / shortest.quotient.2 * 10 ^ max shortest.places 1 +
        shortest.quotient.1 % shortest.quotient.2 := by
    rw [← fractional, ← length_fractionalDigits, Spelling.mantissa, spelling, Option.getD_some,
      Numeral.decimalNumber_append, wholeDigits, Numeral.decimalNumber_toDigits]
  rw [mantissa, quotient_divisor]
  rcases Nat.eq_zero_or_pos shortest.places with none | some
  · rw [none, Nat.pow_zero, Nat.div_one, Nat.mod_one, Nat.add_zero, Nat.mul_one]
  · rw [Nat.max_eq_left some, Nat.div_add_mod']

theorem value_spelling (negative : Bool) :
    (shortest.spelling negative).value = (if negative then -1 else 1) * shortest.value := by
  have divisorPositive : (0 : Rat) < shortest.quotient.2 := by exact_mod_cast shortest.quotient_pos
  have mantissa : (decimalNumber (shortest.spelling negative).mantissa : Rat) /
      10 ^ max shortest.places 1 = shortest.value := by
    rw [← quotient_value, div_eq_div_iff (by positivity) divisorPositive.ne']
    exact_mod_cast shortest.decimalNumber_mantissa negative
  rw [Spelling.value, decimals_spelling, mul_div_assoc, mantissa]
  cases negative <;> simp [spelling]

theorem wellFormed_spelling (negative : Bool) (few : max shortest.places 1 < 2 ^ 32) :
    (shortest.spelling negative).WellFormed := by
  refine ⟨?sign, ?someDigit, fun _ => shortest.isDigit_of_mem, ?exponent, ?power, ?decimals⟩
  case sign => cases negative <;> simp [spelling]
  case someDigit => exact List.append_ne_nil_of_left_ne_nil Nat.toDigits_ne_nil _
  case exponent => simp [spelling]
  case power => simp [spelling, Literal.powerOf]
  case decimals => rwa [decimals_spelling]

theorem IsShortest.places_le {format : Format} {index : Nat} {shortest : Shortest}
    (isShortest : IsShortest format index shortest) :
    shortest.places ≤ (-format.leastExponent).toNat := by
  have last := isShortest.last
  have divisor : (format.magnitude index).2.log2 = (-(format.significand index).2).toNat :=
    Nat.log2_two_pow
  have least : format.leastExponent ≤ (format.significand index).2 := by
    simp only [Format.significand]
    split
    · exact le_rfl
    · exact Int.le_add_of_nonneg_right (Int.natCast_nonneg _)
  rw [divisor] at last
  rw [places]
  omega

end Binary.Shortest

theorem Fraction.readLiteral_positional {shortest : Binary.Shortest} (negative : Bool)
    (few : shortest.places < 2 ^ 32) :
    readLiteral ((if negative then "-" else "") ++ shortest.positional) =
      .ok (ofRat ((if negative then -1 else 1) * shortest.value)) := by
  rw [← shortest.value_spelling]
  exact readLiteral_characters (shortest.wellFormed_spelling negative (by omega))
    (shortest.toList_signed_positional negative)

end LowestTerms
