import LowestTerms.Proofs.Fraction.Reduction
import LowestTerms.Proofs.Fraction.Text

/-!
Which reader a text is given to, and what it is told if it is refused. The first slash decides
between a literal and two integers. Of two integers the dividend is looked at first, then the
divisor, then whether the divisor is zero, so that the first of these faults is the answer whatever
the others are.
-/

namespace LowestTerms

namespace Numeral

/-- An integer is a literal without a point and without an exponent. -/
theorem Denotes.exists_spelling {text : List Char} {integer : Int}
    (denotes : Denotes text integer) :
    ∃ spelling : Literal.Spelling, spelling.WellFormed ∧ text = spelling.characters ∧
      spelling.value = integer := by
  obtain ⟨sign, digits, isSign, written, someDigit, onlyDigits, rfl⟩ := denotes
  refine ⟨⟨sign, digits, none, none⟩, ?wellFormed, ?written, ?value⟩
  case wellFormed =>
    refine ⟨isSign, ?_, ?_, by simp, Nat.zero_le _, ?_⟩
    · simpa [Literal.Spelling.mantissa] using someDigit
    · simpa [Literal.Spelling.mantissa] using onlyDigits
    · simp [Literal.Spelling.decimals, Literal.powerOf]
  case written =>
    rw [written, Literal.Spelling.characters, Literal.writeExponent, List.append_nil]
    rfl
  case value =>
    rw [Literal.Spelling.value, Literal.Spelling.mantissa, Option.getD_none, List.append_nil]
    by_cases isMinus : sign = some '-'
    · simp [isMinus, withSign, Literal.Spelling.decimals, Literal.powerOf]
    · simp [isMinus, withSign, Literal.Spelling.decimals, Literal.powerOf]

end Numeral

namespace Fraction

open Numeral (readInteger)

theorem not_mem_of_denotes {text : List Char} {integer : Int}
    (denotes : Numeral.Denotes text integer) : '/' ∉ text := by
  intro member
  have unmarked := denotes.noSlash member
  contradiction

theorem unmarked_of_no_slash {characters : List Char} (noSlash : '/' ∉ characters) :
    ∀ character ∈ characters, marksQuotient character = false := by
  intro character member
  apply beq_false_of_ne
  rintro rfl
  exact noSlash member

theorem read_of_no_slash {text : String} (noSlash : '/' ∉ text.toList) :
    read text = readLiteral text := by
  rw [read, Numeral.cut_unmarked (unmarked_of_no_slash noSlash)]

theorem read_of_slash {dividend : String} (noSlash : '/' ∉ dividend.toList) (divisor : String) :
    read (dividend ++ "/" ++ divisor) = readParts dividend divisor := by
  have split : (dividend ++ "/" ++ divisor).toList =
      dividend.toList ++ '/' :: divisor.toList := by
    rw [String.toList_append, String.toList_append]
    exact List.append_assoc _ _ _
  rw [read, split, Numeral.cut_append (unmarked_of_no_slash noSlash) rfl]
  simp only [String.ofList_toList]

def Blames (purpose text : String) (failure : Failure) : Prop :=
  ∃ diagnosis, readInteger text.toList = .error diagnosis ∧
    Numeral.IntegerFault text.toList diagnosis ∧
      failure = .unreadable (.wrapped purpose (diagnosis.about text))

theorem Blames.ne_divisionByZero {purpose text : String} {failure : Failure}
    (blames : Blames purpose text failure) : failure ≠ .divisionByZero := by
  obtain ⟨_, _, _, rfl⟩ := blames
  exact Failure.noConfusion

theorem exists_blames (purpose : String) {text : String}
    (noInteger : ¬∃ integer, Numeral.Denotes text.toList integer) :
    ∃ failure, Blames purpose text failure ∧ readPart purpose text = .error failure := by
  cases read : readInteger text.toList with
  | error diagnosis =>
      refine ⟨_, ⟨diagnosis, read, Numeral.readInteger_eq_error_iff.mp read, rfl⟩, ?_⟩
      rw [readPart, read]
  | ok integer => exact absurd ⟨integer, Numeral.readInteger_eq_ok_iff.mp read⟩ noInteger

section

variable {dividend divisor : String}

theorem readParts_of_bad_dividend (noInteger : ¬∃ m, Numeral.Denotes dividend.toList m) :
    ∃ failure, Blames "could not read numerator" dividend failure ∧
      ∀ divisor, readParts dividend divisor = .error failure := by
  obtain ⟨failure, blames, failed⟩ := exists_blames "could not read numerator" noInteger
  refine ⟨failure, blames, ?_⟩
  intro divisor
  rw [readParts, failed]
  rfl

theorem readParts_of_bad_divisor (noInteger : ¬∃ n, Numeral.Denotes divisor.toList n) :
    ∃ failure, Blames "could not read denominator" divisor failure ∧
      ∀ dividend, (∃ m, Numeral.Denotes dividend.toList m) →
        readParts dividend divisor = .error failure := by
  obtain ⟨failure, blames, failed⟩ := exists_blames "could not read denominator" noInteger
  refine ⟨failure, blames, ?_⟩
  rintro dividend ⟨m, denotes⟩
  rw [readParts, (readPart_eq_ok_iff _ _).mpr denotes, failed]
  rfl

theorem readParts_of_integers {m n : Int}
    (dividendDenotes : Numeral.Denotes dividend.toList m)
    (divisorDenotes : Numeral.Denotes divisor.toList n) :
    readParts dividend divisor = ofParts m n := by
  rw [readParts, (readPart_eq_ok_iff _ _).mpr dividendDenotes,
    (readPart_eq_ok_iff _ _).mpr divisorDenotes]
  rfl

end

theorem readParts_divides_by_zero_iff (dividend divisor : String) :
    readParts dividend divisor = .error .divisionByZero ↔
      (∃ m, Numeral.Denotes dividend.toList m) ∧ Numeral.Denotes divisor.toList 0 := by
  constructor
  · intro failed
    by_cases isDividend : ∃ m, Numeral.Denotes dividend.toList m
    · obtain ⟨m, dividendDenotes⟩ := isDividend
      by_cases isDivisor : ∃ n, Numeral.Denotes divisor.toList n
      · obtain ⟨n, divisorDenotes⟩ := isDivisor
        rw [readParts_of_integers dividendDenotes divisorDenotes, ofParts_eq_error_iff] at failed
        exact ⟨⟨m, dividendDenotes⟩, failed ▸ divisorDenotes⟩
      · obtain ⟨failure, blames, refused⟩ := readParts_of_bad_divisor isDivisor
        have same := Except.error.inj ((refused dividend ⟨m, dividendDenotes⟩).symm.trans failed)
        exact absurd same blames.ne_divisionByZero
    · obtain ⟨failure, blames, refused⟩ := readParts_of_bad_dividend isDividend
      have same := Except.error.inj ((refused divisor).symm.trans failed)
      exact absurd same blames.ne_divisionByZero
  · rintro ⟨⟨m, dividendDenotes⟩, divisorDenotes⟩
    rw [readParts_of_integers dividendDenotes divisorDenotes, ofParts_eq_error_iff]

section

variable {text : String} {m : Int} (denotes : Numeral.Denotes text.toList m)

include denotes

theorem readLiteral_integer : readLiteral text = .ok (ofInt m) := by
  obtain ⟨spelling, wellFormed, written, value⟩ := denotes.exists_spelling
  rw [readLiteral_characters wellFormed written, value, ofInt_eq_ofRat]

theorem read_integer : read text = .ok (ofInt m) := by
  rw [read_of_no_slash (not_mem_of_denotes denotes), readLiteral_integer denotes]

theorem readParts_integer_over_one : readParts text "1" = .ok (ofInt m) := by
  have unit : Numeral.Denotes "1".toList 1 := Numeral.write_denotes 1
  rw [readParts_of_integers denotes unit, ofParts_eq_ok m one_ne_zero, Int.cast_one, div_one,
    ofInt_eq_ofRat]

end

/-- A text without a slash is read as a literal, any other as the two texts around its first slash.
Those are refused for the first that is no integer, then for a divisor that is zero, and give the
canonical fraction otherwise. An integer is read as the same fraction in all three ways. -/
theorem read_routes_and_first_fault :
    (∀ text : String, '/' ∉ text.toList → read text = readLiteral text) ∧
    (∀ dividend divisor : String, '/' ∉ dividend.toList →
      read (dividend ++ "/" ++ divisor) = readParts dividend divisor) ∧
    (∀ dividend : String, (¬∃ m, Numeral.Denotes dividend.toList m) →
      ∃ failure, Blames "could not read numerator" dividend failure ∧
        ∀ divisor, readParts dividend divisor = .error failure) ∧
    (∀ divisor : String, (¬∃ n, Numeral.Denotes divisor.toList n) →
      ∃ failure, Blames "could not read denominator" divisor failure ∧
        ∀ dividend, (∃ m, Numeral.Denotes dividend.toList m) →
          readParts dividend divisor = .error failure) ∧
    (∀ divisor : String, '/' ∈ divisor.toList → ¬∃ n, Numeral.Denotes divisor.toList n) ∧
    (∀ dividend divisor : String, readParts dividend divisor = .error .divisionByZero ↔
      (∃ m, Numeral.Denotes dividend.toList m) ∧ Numeral.Denotes divisor.toList 0) ∧
    (∀ (dividend divisor : String) (m n : Int), Numeral.Denotes dividend.toList m →
      Numeral.Denotes divisor.toList n → n ≠ 0 →
        ∃ x, readParts dividend divisor = .ok x ∧ x.Canonical ∧ x.value = m / n) ∧
    ∀ (text : String) (m : Int), Numeral.Denotes text.toList m →
      readParts text "1" = .ok (ofInt m) ∧ read text = .ok (ofInt m) ∧
        readLiteral text = .ok (ofInt m) := by
  refine ⟨fun _ noSlash => read_of_no_slash noSlash,
    fun _ divisor noSlash => read_of_slash noSlash divisor,
    fun _ noInteger => readParts_of_bad_dividend noInteger,
    fun _ noInteger => readParts_of_bad_divisor noInteger, ?slash, readParts_divides_by_zero_iff,
    ?quotient, ?integer⟩
  case slash =>
    rintro divisor member ⟨n, denotes⟩
    exact not_mem_of_denotes denotes member
  case quotient =>
    intro dividend divisor m n dividendDenotes divisorDenotes nonzero
    refine ⟨ofRat (m / n), ?_, canonical_ofRat _, value_ofRat _⟩
    rw [readParts_of_integers dividendDenotes divisorDenotes, ofParts_eq_ok m nonzero]
  case integer =>
    intro text m denotes
    exact ⟨readParts_integer_over_one denotes, read_integer denotes, readLiteral_integer denotes⟩

theorem read_routes_and_first_fault_of_two_slashes :
    read "+6/-08/x" = readParts "+6" "-08/x" ∧
      (∃ failure, Blames "could not read denominator" "-08/x" failure ∧
        readParts "+6" "-08/x" = .error failure) ∧
      (∃ failure, Blames "could not read numerator" "6." failure ∧
        readParts "6." "0" = .error failure ∧ readParts "6." "x" = .error failure) ∧
      readParts "+6" "-00" = .error .divisionByZero ∧
      (∃ x, readParts "+6" "-08" = .ok x ∧ x.Canonical ∧ x.value = -3 / 4) ∧
      read "-007" = .ok (ofInt (-7)) := by
  obtain ⟨_, route, dividendFault, divisorFault, slash, byZero, quotient, integer⟩ :=
    read_routes_and_first_fault
  have six : Numeral.Denotes "+6".toList 6 := Numeral.readInteger_eq_ok_iff.mp (by decide)
  have minusEight : Numeral.Denotes "-08".toList (-8) :=
    Numeral.readInteger_eq_ok_iff.mp (by decide)
  have zero : Numeral.Denotes "-00".toList 0 := Numeral.readInteger_eq_ok_iff.mp (by decide)
  have minusSeven : Numeral.Denotes "-007".toList (-7) :=
    Numeral.readInteger_eq_ok_iff.mp (by decide)
  have point : ¬∃ m, Numeral.Denotes "6.".toList m := by
    rintro ⟨m, denotes⟩
    have found : Numeral.readInteger "6.".toList = .error (.unexpectedCharacter '.') := by decide
    rw [Numeral.readInteger_eq_ok_iff.mpr denotes] at found
    cases found
  obtain ⟨failure, blames, refused⟩ := dividendFault _ point
  obtain ⟨other, otherBlames, otherRefused⟩ := divisorFault _ (slash "-08/x" (by decide))
  obtain ⟨x, found, canonical, value⟩ := quotient _ _ _ _ six minusEight (by decide)
  refine ⟨route "+6" "-08/x" (by decide), ⟨other, otherBlames, otherRefused _ ⟨6, six⟩⟩,
    ⟨failure, blames, refused _, refused _⟩, (byZero _ _).mpr ⟨⟨6, six⟩, zero⟩,
    ⟨x, found, canonical, ?_⟩, (integer _ _ minusSeven).2.1⟩
  rw [value]
  norm_num

end Fraction

end LowestTerms
