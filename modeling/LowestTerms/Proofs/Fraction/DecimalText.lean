import LowestTerms.Proofs.Fraction.Decimal
import LowestTerms.Proofs.Fraction.Text

/-!
The text of a decimal. It is a literal without an exponent whose last `scale` digits stand after the
point, so the literal reader counts as many decimals as the decimal has, and reads the fraction that
the decimal is converted to from its mantissa.
-/

namespace LowestTerms

namespace Decimal

open Literal (Spelling)
open Numeral (decimalNumber)

structure Written (d : Decimal) (spelling : Spelling) : Prop where
  sign : spelling.sign = if d.negative then some '-' else none
  whole : spelling.whole ≠ []
  noPoint : d.scale = 0 → spelling.fractional = none
  places : (spelling.fractional.getD []).length = d.scale
  digits : ∀ character ∈ spelling.mantissa, character.isDigit = true
  number : decimalNumber spelling.mantissa = d.mantissa
  noExponent : spelling.exponent = none

section

variable {d : Decimal} {spelling : Spelling} (written : d.Written spelling)

include written

theorem Written.decimals : spelling.decimals = d.scale := by
  rw [Spelling.decimals, written.places, written.noExponent]
  rfl

theorem Written.wellFormed (valid : d.Valid) : spelling.WellFormed := by
  have few : d.scale ≤ 28 := valid.2
  refine ⟨?sign, ?someDigit, written.digits, ?exponent, ?power, ?decimals⟩
  case sign =>
    rw [written.sign]
    cases d.negative <;> simp
  case someDigit => exact List.append_ne_nil_of_left_ne_nil written.whole _
  case exponent => simp [written.noExponent]
  case power => simp [written.noExponent, Literal.powerOf]
  case decimals =>
    rw [written.decimals]
    omega

theorem Written.value_eq : spelling.value = d.value := by
  rw [Spelling.value, written.number, written.decimals, d.value_eq, written.sign, mul_div_assoc]
  cases d.negative <;> simp [signFactor]

end

theorem mem_paddedDigits {mantissa scale : Nat} {character : Char}
    (member : character ∈ paddedDigits mantissa scale) : character.isDigit = true := by
  rcases List.mem_append.mp member with inZeros | inDigits
  · rw [List.eq_of_mem_replicate inZeros]
    rfl
  · exact Nat.isDigit_of_mem_toDigits (by decide) (by decide) inDigits

theorem lt_length_paddedDigits (mantissa scale : Nat) :
    scale < (paddedDigits mantissa scale).length := by
  simp only [paddedDigits, List.length_append, List.length_replicate]
  omega

theorem decimalNumber_paddedDigits (mantissa scale : Nat) :
    decimalNumber (paddedDigits mantissa scale) = mantissa := by
  rw [paddedDigits, Numeral.decimalNumber_zeros_append, Numeral.decimalNumber_toDigits]

def spelling (d : Decimal) : Spelling :=
  let digits := paddedDigits d.mantissa d.scale
  ⟨if d.negative then some '-' else none, digits.take (digits.length - d.scale),
    if d.scale = 0 then none else some (digits.drop (digits.length - d.scale)), none⟩

theorem toList_text (d : Decimal) : d.text.toList = d.spelling.characters := by
  rw [text, String.toList_ofList, spelling, Spelling.characters, Literal.writeExponent,
    List.append_nil]
  by_cases isWhole : d.scale = 0
  · cases d.negative <;> simp [isWhole, Literal.writeMantissa]
  · cases d.negative <;> simp [isWhole, Literal.writeMantissa]

theorem mantissa_spelling (d : Decimal) :
    d.spelling.mantissa = paddedDigits d.mantissa d.scale := by
  rw [Spelling.mantissa, spelling]
  by_cases isWhole : d.scale = 0
  · simp [isWhole]
  · simp [isWhole]

theorem written_spelling (d : Decimal) : d.Written d.spelling := by
  have long := lt_length_paddedDigits d.mantissa d.scale
  refine ⟨rfl, ?whole, fun isWhole => if_pos isWhole, ?places, ?digits, ?number, rfl⟩
  case whole =>
    rw [← List.length_pos_iff, spelling, List.length_take]
    omega
  case places =>
    by_cases isWhole : d.scale = 0
    · simp [spelling, isWhole]
    · simp only [spelling, if_neg isWhole, Option.getD_some, List.length_drop]
      omega
  case digits =>
    intro character member
    exact mem_paddedDigits (d.mantissa_spelling ▸ member)
  case number => rw [mantissa_spelling, decimalNumber_paddedDigits]

end Decimal

namespace Fraction

open Literal (Spelling)

theorem readLiteral_written {d : Decimal} {spelling : Spelling} (valid : d.Valid)
    (written : d.Written spelling) {text : String} (spelled : text.toList = spelling.characters) :
    readLiteral text = .ok (ofDecimal d) := by
  rw [readLiteral_characters (written.wellFormed valid) spelled, written.value_eq,
    ofDecimal_eq_ofRat]

theorem read_written {d : Decimal} {spelling : Spelling} (valid : d.Valid)
    (written : d.Written spelling) {text : String} (spelled : text.toList = spelling.characters) :
    read text = .ok (ofDecimal d) := by
  rw [ofDecimal_eq_ofRat, ← written.value_eq]
  exact read_eq_ok_iff.mpr ⟨_, .literal spelled (written.wellFormed valid), rfl⟩

/-- The text of a decimal is a way to write it, and every way to write it is read, as a literal and
as a fraction, like the decimal is converted. A decimal factor is thus the literal of its text. -/
theorem decimal_text_agrees :
    (∀ d : Decimal, ∃ spelling, d.Written spelling ∧ d.text.toList = spelling.characters) ∧
    (∀ (d : Decimal) (spelling : Spelling) (text : String), d.Valid → d.Written spelling →
      text.toList = spelling.characters →
        readLiteral text = .ok (ofDecimal d) ∧ read text = .ok (ofDecimal d)) ∧
    ∀ d : Decimal, d.Valid →
      readLiteral d.text = .ok (ofDecimal d) ∧ read d.text = .ok (ofDecimal d) ∧
      ∀ x : Fraction, x.Valid → ∃ parsed, readLiteral d.text = .ok parsed ∧
        x.mulDecimal d = x * parsed ∧ decimalMul d x = x * parsed ∧
        (x * parsed).value = x.value * d.value := by
  refine ⟨fun d => ⟨_, d.written_spelling, d.toList_text⟩, ?written, ?text⟩
  case written =>
    intro d spelling text valid written spelled
    exact ⟨readLiteral_written valid written spelled, read_written valid written spelled⟩
  case text =>
    intro d valid
    have literal := readLiteral_written valid d.written_spelling d.toList_text
    refine ⟨literal, read_written valid d.written_spelling d.toList_text, ?_⟩
    intro x xValid
    have dValid : (ofDecimal d).Valid := .inl (canonical_ofDecimal d)
    refine ⟨_, literal, rfl, mul_comm_of_valid dValid xValid, ?_⟩
    rw [mul_eq_ofRat xValid dValid, value_ofRat, value_ofDecimal]

theorem decimal_text_agrees_padded_and_negative_zero :
    readLiteral (Decimal.text ⟨true, 5, 28⟩) = .ok (ofDecimal ⟨true, 5, 28⟩) ∧
      read "-0.00" = .ok (ofDecimal ⟨true, 0, 2⟩) ∧
      decimalMul ⟨false, 400, 2⟩ ⟨-3, 8⟩ = (⟨-3, 8⟩ : Fraction).mulDecimal ⟨false, 400, 2⟩ := by
  obtain ⟨_, written, text⟩ := decimal_text_agrees
  have zeroWritten : Decimal.Written ⟨true, 0, 2⟩ ⟨some '-', ['0'], some ['0', '0'], none⟩ :=
    ⟨rfl, by decide, by decide, rfl, by simp [Spelling.mantissa], by decide, rfl⟩
  obtain ⟨parsed, _, right, left, _⟩ :=
    (text ⟨false, 400, 2⟩ (by decide)).2.2 ⟨-3, 8⟩ (.inl ⟨by decide, by decide⟩)
  exact ⟨(text ⟨true, 5, 28⟩ (by decide)).1, (written _ _ _ (by decide) zeroWritten (by decide)).2,
    left.trans right.symm⟩

end Fraction

end LowestTerms
