import LowestTerms.Proofs.Binary.Nearest

/-!
What a pattern of bits denotes. The fields of a pattern are its sign, its exponent and its fraction;
without the sign it is the number of a magnitude, and the last bit of the pattern is the last bit of
that number. Rounding among the patterns is therefore rounding among the magnitudes with the sign of
the number.
-/

namespace LowestTerms.Binary.Format

def width (format : Format) : Nat := format.precision + format.exponentBits

def signBit (format : Format) : Nat := 2 ^ (format.precision - 1 + format.exponentBits)

def exponentField (format : Format) (bits : Nat) : Nat :=
  bits / 2 ^ (format.precision - 1) % 2 ^ format.exponentBits

def fractionField (format : Format) (bits : Nat) : Nat := bits % 2 ^ (format.precision - 1)

def bias (format : Format) : Int := 2 ^ (format.exponentBits - 1) - 1

def sign (format : Format) (bits : Nat) : Rat := if format.signBit ≤ bits then -1 else 1

/-- The number that the fields of a pattern denote. The pattern of an infinity stands for the number
that would follow the largest finite one. -/
def denoted (format : Format) (bits : Nat) : Rat :=
  format.sign bits *
    if format.exponentField bits = 0 then
      (format.fractionField bits : Rat) / 2 ^ (format.precision - 1) * 2 ^ (1 - format.bias)
    else
      (1 + (format.fractionField bits : Rat) / 2 ^ (format.precision - 1)) *
        2 ^ ((format.exponentField bits : Int) - format.bias)

def IsFinite (format : Format) (bits : Nat) : Prop :=
  format.exponentField bits ≠ 2 ^ format.exponentBits - 1

instance (format : Format) (bits : Nat) : Decidable (format.IsFinite bits) :=
  inferInstanceAs (Decidable (format.exponentField bits ≠ 2 ^ format.exponentBits - 1))

def IsNan (format : Format) (bits : Nat) : Prop :=
  format.exponentField bits = 2 ^ format.exponentBits - 1 ∧ format.fractionField bits ≠ 0

def negated (format : Format) (bits : Nat) : Nat :=
  if format.signBit ≤ bits then bits - format.signBit else bits + format.signBit

def RoundsTo (format : Format) (number : Rat) (bits : Nat) : Prop :=
  ∀ other < 2 ^ format.width, ¬format.IsNan other →
    |number - format.denoted bits| < |number - format.denoted other| ∨
      |number - format.denoted bits| = |number - format.denoted other| ∧
        (format.denoted other = format.denoted bits ∨ Even bits)

section

variable (format : Format)

theorem signBit_eq : format.signBit = format.binade * 2 ^ format.exponentBits := by
  rw [signBit, Nat.pow_add]
  rfl

theorem exponentField_eq (bits : Nat) :
    format.exponentField bits = bits % format.signBit / format.binade := by
  rw [signBit_eq, Nat.mod_mul_right_div_self]
  rfl

theorem fractionField_eq (bits : Nat) :
    format.fractionField bits = bits % format.signBit % format.binade := by
  rw [signBit_eq, Nat.mod_mul_right_mod]
  rfl

theorem exponentField_le (bits : Nat) :
    format.exponentField bits ≤ 2 ^ format.exponentBits - 1 :=
  Nat.le_sub_one_of_lt (Nat.mod_lt _ (Nat.two_pow_pos _))

theorem isFinite_iff (bits : Nat) :
    format.IsFinite bits ↔ bits % format.signBit < format.infinity := by
  have atMost := format.exponentField_le bits
  rw [IsFinite, infinity, Nat.pow_eq, ← Nat.div_lt_iff_lt_mul format.binade_pos,
    ← exponentField_eq]
  omega

/-- Beyond infinity the exponent stays what it is there, and some bit of the fraction is set. -/
theorem not_isNan_iff (bits : Nat) :
    ¬format.IsNan bits ↔ bits % format.signBit ≤ format.infinity := by
  have split := Nat.div_add_mod' (bits % format.signBit) format.binade
  rw [← exponentField_eq, ← fractionField_eq] at split
  rw [IsNan, not_and_or, not_not, ← ne_eq, ← IsFinite]
  constructor
  · rintro (finite | first)
    · exact ((format.isFinite_iff bits).mp finite).le
    · rw [← split, first, Nat.add_zero]
      exact Nat.mul_le_mul_right _ (format.exponentField_le bits)
  · intro allowed
    rcases allowed.lt_or_eq with finite | same
    · exact .inl ((format.isFinite_iff bits).mpr finite)
    · rw [fractionField_eq, same, infinity]
      exact .inr (Nat.mul_mod_left _ _)

theorem sign_cases (bits : Nat) : format.sign bits = 1 ∨ format.sign bits = -1 := by
  unfold sign
  split
  · exact .inr rfl
  · exact .inl rfl

theorem abs_sign (bits : Nat) : |format.sign bits| = 1 := by
  rcases format.sign_cases bits with positive | negative
  · rw [positive, abs_one]
  · rw [negative, abs_neg, abs_one]

theorem sign_mul_self (bits : Nat) : format.sign bits * format.sign bits = 1 := by
  rw [← abs_mul_abs_self, abs_sign, one_mul]

theorem exists_int_sign (bits : Nat) : ∃ sign : Int, format.sign bits = sign := by
  rcases format.sign_cases bits with positive | negative
  · exact ⟨1, by rw [positive, Int.cast_one]⟩
  · exact ⟨-1, by rw [negative, Int.cast_neg, Int.cast_one]⟩

theorem sign_eq_or (bits other : Nat) :
    format.sign other = format.sign bits ∨ format.sign other = -format.sign bits := by
  rcases format.sign_cases bits with positive | negative
  · rw [positive]
    exact format.sign_cases other
  · rw [negative, neg_neg]
    exact (format.sign_cases other).symm

theorem negated_mod (bits : Nat) :
    format.negated bits % format.signBit = bits % format.signBit := by
  unfold negated
  split
  · rename_i negative
    exact (Nat.mod_eq_sub_mod negative).symm
  · exact Nat.add_mod_right _ _

end

/-- The patterns of a magnitude are even if its number is, as the sign is not the last bit. -/
theorem IsNearest.nearer_or_even {format : Format} {magnitude : Rat} {bits other : Nat}
    (exponentBit : 1 ≤ format.exponentBits)
    (nearest : format.IsNearest magnitude (bits % format.signBit))
    (allowed : other % format.signBit ≤ format.infinity) :
    |magnitude - format.number (bits % format.signBit)| <
        |magnitude - format.number (other % format.signBit)| ∨
      |magnitude - format.number (bits % format.signBit)| =
          |magnitude - format.number (other % format.signBit)| ∧
        (other % format.signBit = bits % format.signBit ∨ Even bits) := by
  by_cases same : other % format.signBit = bits % format.signBit
  · rw [same]
    exact .inr ⟨rfl, .inl rfl⟩
  · rcases nearest.2 _ allowed same with nearer | ⟨asNear, even⟩
    · exact .inl nearer
    · have evenSign : 2 ∣ format.signBit := dvd_pow_self 2 (by omega)
      rw [even_iff_two_dvd, Nat.dvd_mod_iff evenSign, ← even_iff_two_dvd] at even
      exact .inr ⟨asNear, .inr even⟩

section

variable {format : Format} (twoBits : 2 ≤ format.precision)

include twoBits

theorem denoted_eq (bits : Nat) :
    format.denoted bits = format.sign bits * format.number (bits % format.signBit) := by
  have binade : (format.binade : Rat) = 2 ^ (format.precision - 1) := by
    rw [Format.binade, Nat.pow_eq]
    push_cast
    rfl
  have least : (2 : Rat) ^ (1 - format.bias) = format.binade * 2 ^ format.leastExponent := by
    rw [binade, ← zpow_natCast, ← zpow_add₀ two_ne_zero, bias, leastExponent, Nat.pow_eq]
    congr 1
    push_cast
    omega
  have binadePositive : (0 : Rat) < format.binade := by exact_mod_cast format.binade_pos
  rw [denoted, number, significand, ← exponentField_eq, ← fractionField_eq, ← binade]
  congr 1
  split
  · rw [least]
    field_simp
  · -- The field counts normal exponents from one, as zero says that the number is subnormal.
    rename_i normal
    have exponent : (format.exponentField bits : Int) - format.bias =
        (1 - format.bias) + (format.exponentField bits - 1 : Nat) := by omega
    rw [exponent, zpow_add₀ two_ne_zero, least, zpow_add₀ two_ne_zero]
    push_cast
    field_simp

theorem number_eq (bits : Nat) :
    format.number (bits % format.signBit) = format.sign bits * format.denoted bits := by
  rw [denoted_eq twoBits, ← mul_assoc, sign_mul_self, one_mul]

theorem two_pow_width : 2 ^ format.width = 2 * format.signBit := by
  rw [width, signBit, ← Nat.pow_add_one']
  congr 1
  omega

theorem sign_negated {bits : Nat} (inRange : bits < 2 ^ format.width) :
    format.sign (format.negated bits) = -format.sign bits := by
  rw [two_pow_width twoBits] at inRange
  simp only [sign, negated]
  split
  · rw [if_neg (by omega), neg_neg]
  · rw [if_pos (by omega)]

/-- With the sign put back, the nearest magnitude is the nearest of all patterns. A number on the
other side of zero is no nearer than zero itself. -/
theorem IsNearest.roundsTo {magnitude : Rat} {bits : Nat}
    (exponentBit : 1 ≤ format.exponentBits)
    (nearest : format.IsNearest magnitude (bits % format.signBit)) (nonnegative : 0 ≤ magnitude) :
    format.RoundsTo (format.sign bits * magnitude) bits := by
  have distance : ∀ number, |format.sign bits * magnitude - format.sign bits * number| =
      |magnitude - number| := by
    intro number
    rw [← mul_sub, abs_mul, abs_sign, one_mul]
  intro other _ noNan
  have allowed := (format.not_isNan_iff other).mp noNan
  by_cases sameSide : format.denoted other =
      format.sign bits * format.number (other % format.signBit)
  · rw [sameSide, denoted_eq twoBits, distance, distance]
    rcases nearest.nearer_or_even exponentBit allowed with nearer | ⟨asNear, same | even⟩
    · exact .inl nearer
    · exact .inr ⟨asNear, .inl (by rw [same])⟩
    · exact .inr ⟨asNear, .inr even⟩
  · left
    have otherSide : format.denoted other =
        format.sign bits * -format.number (other % format.signBit) := by
      rw [denoted_eq twoBits] at sameSide ⊢
      rcases format.sign_eq_or bits other with same | different
      · rw [same] at sameSide
        contradiction
      · rw [different, neg_mul, mul_neg]
    have nonzero : format.number (other % format.signBit) ≠ 0 := by
      intro isZero
      rw [isZero, neg_zero] at otherSide
      rw [isZero] at sameSide
      exact sameSide otherSide
    have positive := lt_of_le_of_ne (format.number_nonneg _) nonzero.symm
    have zero := nearest.distance_le (Nat.zero_le format.infinity)
    rw [format.number_zero, sub_zero, abs_of_nonneg nonnegative] at zero
    rw [otherSide, denoted_eq twoBits, distance, distance, sub_neg_eq_add,
      abs_of_pos (add_pos_of_nonneg_of_pos nonnegative positive)]
    linarith

end

section

variable {format : Format} {bits : Nat}

theorem ofBits_eq : Datum.ofBits format bits =
    if bits % format.signBit ≤ format.infinity then
      Datum.ofIndex format (format.signBit ≤ bits) (bits % format.signBit)
    else .nan := rfl

theorem ofBits_of_isFinite (finite : format.IsFinite bits) :
    Datum.ofBits format bits = .finite (format.signBit ≤ bits) (bits % format.signBit) := by
  have less := (format.isFinite_iff bits).mp finite
  rw [ofBits_eq, if_pos less.le, Datum.ofIndex, if_pos less]

theorem ofBits_of_not_isFinite (notFinite : ¬format.IsFinite bits) :
    Datum.ofBits format bits = .nan ∨
      ∃ negative, Datum.ofBits format bits = .infinite negative := by
  have reached := mt (format.isFinite_iff bits).mpr notFinite
  rw [ofBits_eq, Datum.ofIndex, if_neg reached]
  split
  · exact .inr ⟨_, rfl⟩
  · exact .inl rfl

end

end LowestTerms.Binary.Format
