import LowestTerms.Fraction.Binary
import LowestTerms.Proofs.Binary.Bits
import LowestTerms.Proofs.Fraction.BinaryText
import LowestTerms.Proofs.Fraction.Closure
import LowestTerms.Proofs.Fraction.Order

/-!
The fraction of a binary number. Whole or not, its value is rounded back to the number it was made
from, and rounding keeps order, so fractions are ordered like the numbers although only some of them
are exact.
-/

namespace LowestTerms.Fraction

open Binary (Format Datum Shortest)

theorem ofMagnitude_of_whole {format : Format} {index : Nat} {n : Int}
    (whole : format.number index = n) : ofMagnitude format index = ofInt n := by
  have divisorPositive := format.magnitude_pos index
  have product : ((format.magnitude index).1 : Int) = n * (format.magnitude index).2 := by
    rw [← format.magnitude_quotient, div_eq_iff (by exact_mod_cast divisorPositive.ne')] at whole
    exact_mod_cast whole
  have divides : (format.magnitude index).1 % (format.magnitude index).2 = 0 := by
    apply Nat.mod_eq_zero_of_dvd
    exact_mod_cast Dvd.intro_left n product.symm
  have quotient : (((format.magnitude index).1 / (format.magnitude index).2 : Nat) : Int) = n := by
    rw [Int.natCast_ediv, product, Int.mul_ediv_cancel _ (by exact_mod_cast divisorPositive.ne')]
  simp only [ofMagnitude]
  rw [if_pos divides, quotient]

theorem ofMagnitude_of_not_whole {format : Format} {index : Nat}
    (notWhole : ∀ n : Int, format.number index ≠ n) :
    ofMagnitude format index = ofRat (Shortest.ofIndex .up format index).value := by
  have rest : ¬(format.magnitude index).1 % (format.magnitude index).2 = 0 := by
    intro divides
    apply notWhole ((format.magnitude index).1 / (format.magnitude index).2 : Nat)
    have divisorPositive : (0 : Rat) < (format.magnitude index).2 := by
      exact_mod_cast format.magnitude_pos index
    rw [← format.magnitude_quotient, div_eq_iff divisorPositive.ne']
    exact_mod_cast (Nat.div_mul_cancel (Nat.dvd_of_mod_eq_zero divides)).symm
  have nonzero := (Shortest.ofIndex .up format index).quotient_pos.ne'
  simp only [ofMagnitude]
  rw [if_neg rest, reduce_eq_ofRat (by exact_mod_cast nonzero)]
  exact congrArg ofRat (Shortest.quotient_value _)

theorem withSign_eq_ofRat {x : Fraction} (canonical : x.Canonical) (negative : Bool) :
    withSign negative x = ofRat ((if negative then -1 else 1) * x.value) := by
  apply (canonical_withSign canonical negative).eq_ofRat_of_value
  rw [withSign, value_eq_div, value_eq_div]
  cases negative <;> simp [neg_div]

section

variable {format : Format} (twoBits : 2 ≤ format.precision) {index : Nat}
  (allowed : index ≤ format.infinity)

include twoBits allowed

/-- The fraction of a number that is not whole is the one that the literal reader gives for its
text. -/
theorem readLiteral_positional_ofIndex (few : (-format.leastExponent).toNat < 2 ^ 32)
    (notWhole : ∀ n : Int, format.number index ≠ n) (negative : Bool) :
    readLiteral ((if negative then "-" else "") ++ (Shortest.ofIndex .up format index).positional) =
      .ok (withSign negative (ofMagnitude format index)) := by
  have shortest := Shortest.ofIndex_isShortest .up twoBits allowed
  rw [readLiteral_positional negative (shortest.places_le.trans_lt few),
    withSign_eq_ofRat (canonical_ofMagnitude format index), ofMagnitude_of_not_whole notWhole,
    value_ofRat]

theorem isNearest_ofMagnitude : format.IsNearest (ofMagnitude format index).value index := by
  by_cases whole : ∃ n : Int, format.number index = n
  · obtain ⟨n, whole⟩ := whole
    rw [ofMagnitude_of_whole whole, ofInt_eq_ofRat, value_ofRat, ← whole]
    exact Format.isNearest_number allowed
  · rw [ofMagnitude_of_not_whole (not_exists.mp whole), value_ofRat]
    exact (Shortest.ofIndex_isShortest .up twoBits allowed).nearest

theorem value_ofMagnitude_lt {other : Nat} (less : format.number other < format.number index) :
    (ofMagnitude format other).value < (ofMagnitude format index).value := by
  have lessIndex := format.number_strictMono.lt_iff_lt.mp less
  have nearest := isNearest_ofMagnitude twoBits allowed
  have otherNearest := isNearest_ofMagnitude twoBits (lessIndex.le.trans allowed)
  by_contra swapped
  have atMost := nearest.mono (not_lt.mp swapped) otherNearest
  omega

end

theorem value_ofMagnitude_zero (format : Format) : (ofMagnitude format 0).value = 0 := by
  have zero : format.number 0 = (0 : Int) := by
    rw [format.number_zero, Int.cast_zero]
  rw [ofMagnitude_of_whole zero, ofInt_eq_ofRat, value_ofRat, Int.cast_zero]

section

variable {format : Format} (twoBits : 2 ≤ format.precision) {index : Nat}
  (allowed : index ≤ format.infinity)

include twoBits allowed

theorem value_ofMagnitude_pos (positive : 0 < format.number index) :
    0 < (ofMagnitude format index).value := by
  rw [← format.number_zero] at positive
  rw [← value_ofMagnitude_zero format]
  exact value_ofMagnitude_lt twoBits allowed positive

theorem value_ofMagnitude_nonneg : 0 ≤ (ofMagnitude format index).value := by
  rcases (format.number_nonneg index).eq_or_lt with isZero | positive
  · rw [← format.number_zero] at isZero
    rw [← format.number_strictMono.injective isZero, value_ofMagnitude_zero]
  · exact (value_ofMagnitude_pos twoBits allowed positive).le

end

def meant (format : Format) (bits : Nat) : Rat :=
  format.sign bits * (ofMagnitude format (bits % format.signBit)).value

def shown (format : Format) (bits : Nat) : Shortest :=
  Shortest.ofIndex .up format (bits % format.signBit)

theorem withSign_ofMagnitude (format : Format) (bits : Nat) :
    withSign (format.signBit ≤ bits) (ofMagnitude format (bits % format.signBit)) =
      ofRat (meant format bits) := by
  rw [withSign_eq_ofRat (canonical_ofMagnitude _ _), meant, Format.sign]
  simp only [decide_eq_true_eq]

theorem ofBinary_of_isFinite {format : Format} {bits : Nat} (finite : format.IsFinite bits) :
    ofBinary format (.ofBits format bits) = .ok (ofRat (meant format bits)) := by
  rw [Format.ofBits_of_isFinite finite, ofBinary, withSign_ofMagnitude]

theorem ofBinary_of_not_isFinite {format : Format} {bits : Nat}
    (notFinite : ¬format.IsFinite bits) :
    ∃ name, ofBinary format (.ofBits format bits) = .error (noFraction name) := by
  rcases Format.ofBits_of_not_isFinite notFinite with isNan | ⟨negative, isInfinite⟩
  · exact ⟨_, congrArg _ isNan⟩
  · exact ⟨_, congrArg _ isInfinite⟩

section

variable {format : Format} (twoBits : 2 ≤ format.precision) {bits : Nat}

include twoBits

theorem meant_of_whole {n : Int} (whole : format.denoted bits = n) : meant format bits = n := by
  obtain ⟨sign, signed⟩ := format.exists_int_sign bits
  have magnitude : format.number (bits % format.signBit) = (sign * n : Int) := by
    rw [Format.number_eq twoBits, whole, signed, Int.cast_mul]
  rw [meant, ofMagnitude_of_whole magnitude, ofInt_eq_ofRat, value_ofRat, Int.cast_mul, ← signed,
    ← mul_assoc, format.sign_mul_self, one_mul]

theorem magnitude_not_whole (notWhole : ∀ n : Int, format.denoted bits ≠ n) (n : Int) :
    format.number (bits % format.signBit) ≠ n := by
  obtain ⟨sign, signed⟩ := format.exists_int_sign bits
  intro whole
  apply notWhole (sign * n)
  rw [Format.denoted_eq twoBits, whole, signed, Int.cast_mul]

theorem meant_of_not_whole (notWhole : ∀ n : Int, format.denoted bits ≠ n) :
    meant format bits = format.sign bits * (shown format bits).value := by
  rw [meant, ofMagnitude_of_not_whole (magnitude_not_whole twoBits notWhole), value_ofRat, shown]

theorem meant_negated (inRange : bits < 2 ^ format.width) :
    meant format (format.negated bits) = -meant format bits := by
  rw [meant, meant, format.negated_mod, Format.sign_negated twoBits inRange, neg_mul]

variable (finite : format.IsFinite bits)

include finite

theorem roundsTo_meant (exponentBit : 1 ≤ format.exponentBits) :
    format.RoundsTo (meant format bits) bits := by
  have allowed := ((format.isFinite_iff bits).mp finite).le
  exact (isNearest_ofMagnitude twoBits allowed).roundsTo twoBits exponentBit
    (value_ofMagnitude_nonneg twoBits allowed)

theorem meant_lt {other : Nat} (otherFinite : format.IsFinite other)
    (less : format.denoted bits < format.denoted other) :
    meant format bits < meant format other := by
  have allowed := ((format.isFinite_iff bits).mp finite).le
  have otherAllowed := ((format.isFinite_iff other).mp otherFinite).le
  have numberNonneg := format.number_nonneg (bits % format.signBit)
  have otherNumberNonneg := format.number_nonneg (other % format.signBit)
  rw [Format.denoted_eq twoBits, Format.denoted_eq twoBits] at less
  rw [meant, meant]
  rcases format.sign_cases bits with positive | negative
  · rcases format.sign_cases other with otherPositive | otherNegative
    · rw [positive, otherPositive, one_mul, one_mul] at less ⊢
      exact value_ofMagnitude_lt twoBits otherAllowed less
    · rw [positive, otherNegative] at less
      linarith
  · rcases format.sign_cases other with otherPositive | otherNegative
    · rw [negative, otherPositive] at less ⊢
      have valueNonneg := value_ofMagnitude_nonneg twoBits allowed
      have otherValueNonneg := value_ofMagnitude_nonneg twoBits otherAllowed
      -- On both sides of zero, at most one of the numbers is zero.
      rcases numberNonneg.eq_or_lt with isZero | numberPositive
      · have otherPos := value_ofMagnitude_pos twoBits otherAllowed (by linarith)
        linarith
      · have pos := value_ofMagnitude_pos twoBits allowed numberPositive
        linarith
    · rw [negative, otherNegative, neg_one_mul, neg_one_mul, neg_lt_neg_iff] at less ⊢
      exact value_ofMagnitude_lt twoBits allowed less

end

/-- What a fraction keeps of a finite pattern: a whole number itself, of any other number the
shortest decimal, and in either case enough to find the pattern again. -/
structure Keeps (format : Format) (bits : Nat) (x : Fraction) : Prop where
  canonical : x.Canonical
  whole : ∀ n : Int, format.denoted bits = n → x = ofInt n
  shortest : (shown format bits).IsShortest format (bits % format.signBit)
  decimal : (∀ n : Int, format.denoted bits ≠ n) →
    x.denominator ∣ 10 ^ (shown format bits).places ∧
      readLiteral ((if format.signBit ≤ bits then "-" else "") ++
        (shown format bits).positional) = .ok x
  roundsBack : format.RoundsTo x.value bits

theorem denominator_dvd_of_not_whole {format : Format} (twoBits : 2 ≤ format.precision) {bits : Nat}
    (notWhole : ∀ n : Int, format.denoted bits ≠ n) :
    (ofRat (meant format bits)).denominator ∣ 10 ^ (shown format bits).places := by
  obtain ⟨sign, signed⟩ := format.exists_int_sign bits
  have quotient : meant format bits =
      ((sign * (shown format bits).quotient.1 : Int) : Rat) /
        ((10 ^ (shown format bits).places : Int) : Rat) := by
    rw [meant_of_not_whole twoBits notWhole, signed, ← Shortest.quotient_value,
      Shortest.quotient_divisor]
    push_cast
    rw [mul_div_assoc]
  rw [(valid_ofRat _).denominator_eq, value_ofRat, quotient, ← Rat.divInt_eq_div]
  exact Rat.den_dvd _ _

theorem keeps_meant {format : Format} (twoBits : 2 ≤ format.precision)
    (exponentBit : 1 ≤ format.exponentBits) (few : (-format.leastExponent).toNat < 2 ^ 32)
    {bits : Nat} (finite : format.IsFinite bits) :
    Keeps format bits (ofRat (meant format bits)) := by
  have allowed := ((format.isFinite_iff bits).mp finite).le
  refine ⟨canonical_ofRat _, ?whole, Shortest.ofIndex_isShortest .up twoBits allowed, ?decimal,
    ?roundsBack⟩
  case whole =>
    intro n whole
    rw [meant_of_whole twoBits whole, ofInt_eq_ofRat]
  case decimal =>
    intro notWhole
    refine ⟨denominator_dvd_of_not_whole twoBits notWhole, ?_⟩
    have read := readLiteral_positional_ofIndex twoBits allowed few
      (magnitude_not_whole twoBits notWhole) (format.signBit ≤ bits)
    rw [withSign_ofMagnitude] at read
    simp only [decide_eq_true_eq] at read
    exact read
  case roundsBack =>
    rw [value_ofRat]
    exact roundsTo_meant twoBits finite exponentBit

end LowestTerms.Fraction
