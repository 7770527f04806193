import LowestTerms.Document.Reading
import LowestTerms.Proofs.Literal.Grammar
import LowestTerms.Proofs.Numeral.Writing

/-!
Fractions as text. A text denotes at most one number, either as two integers with a slash between
them or as a literal, which holds no slash. The reader accepts the texts that denote a number, and
what is written for a fraction is one of the texts of its value.
-/

namespace LowestTerms

theorem Fraction.marksQuotient_of_isDigit {character : Char} (isDigit : character.isDigit = true) :
    marksQuotient character = false := by
  apply beq_false_of_ne
  rintro rfl
  contradiction

theorem Literal.Spelling.WellFormed.noSlash {spelling : Spelling} (wellFormed : spelling.WellFormed)
    {character : Char} (member : character ∈ spelling.characters) :
    Fraction.marksQuotient character = false := by
  have ofDigit := @Fraction.marksQuotient_of_isDigit character
  rcases List.mem_append.mp member with inSign | inUnsigned
  · rcases Numeral.mem_sign wellFormed.sign inSign with rfl | rfl
    · rfl
    · rfl
  · rcases List.mem_append.mp inUnsigned with inMantissa | inExponent
    · rcases mem_writeMantissa wellFormed.digits inMantissa with isDigit | rfl
      · exact ofDigit isDigit
      · rfl
    · cases written : spelling.exponent with
      | none =>
          rw [written, writeExponent] at inExponent
          cases inExponent
      | some exponent =>
          obtain ⟨isMarker, _, onlyDigits⟩ := wellFormed.exponent exponent.1 exponent.2 written
          rw [written, writeExponent, List.mem_cons, List.mem_cons] at inExponent
          rcases inExponent with rfl | rfl | inDigits
          · rcases isMarker with upper | lower
            · rw [upper]
              rfl
            · rw [lower]
              rfl
          · rfl
          · exact ofDigit (onlyDigits character inDigits)

theorem Numeral.Denotes.noSlash {text : List Char} {integer : Int} (denotes : Denotes text integer)
    {character : Char} (member : character ∈ text) : Fraction.marksQuotient character = false := by
  rcases denotes.mem member with rfl | rfl | isDigit
  · rfl
  · rfl
  · exact Fraction.marksQuotient_of_isDigit isDigit

namespace Fraction

open Literal (Spelling)

inductive Denotes (text : List Char) : Rat → Prop
  | quotient {dividend divisor : List Char} {dividendValue divisorValue : Int} :
      text = dividend ++ '/' :: divisor → Numeral.Denotes dividend dividendValue →
        Numeral.Denotes divisor divisorValue → divisorValue ≠ 0 →
          Denotes text (dividendValue / divisorValue)
  | literal {spelling : Spelling} :
      text = spelling.characters → spelling.WellFormed → Denotes text spelling.value

theorem readPart_eq_ok_iff (purpose text : String) {integer : Int} :
    readPart purpose text = .ok integer ↔ Numeral.Denotes text.toList integer := by
  rw [← Numeral.readInteger_eq_ok_iff, readPart]
  cases Numeral.readInteger text.toList <;> simp

theorem readParts_eq_ok_iff {dividend divisor : String} {x : Fraction} :
    readParts dividend divisor = .ok x ↔
      ∃ dividendValue divisorValue : Int, Numeral.Denotes dividend.toList dividendValue ∧
        Numeral.Denotes divisor.toList divisorValue ∧ divisorValue ≠ 0 ∧
          x = ofRat (dividendValue / divisorValue) := by
  have made : ∀ dividendValue divisorValue, ofParts dividendValue divisorValue = .ok x ↔
      divisorValue ≠ 0 ∧ x = ofRat (dividendValue / divisorValue) := by
    intro dividendValue divisorValue
    by_cases isZero : divisorValue = 0
    · simp [ofParts, isZero]
    · rw [ofParts, if_neg isZero, reduce_eq_ofRat isZero, Except.ok.injEq, eq_comm]
      simp only [ne_eq, isZero, not_false_eq_true, true_and]
  simp only [← readPart_eq_ok_iff "could not read numerator" dividend,
    ← readPart_eq_ok_iff "could not read denominator" divisor, ← made]
  rw [readParts]
  cases readPart "could not read numerator" dividend with
  | error failure => simp [bind, Except.bind]
  | ok dividendValue =>
      cases readPart "could not read denominator" divisor with
      | error failure => simp [bind, Except.bind]
      | ok divisorValue => simp [bind, Except.bind]

theorem readLiteral_eq_ok_iff {text : String} {x : Fraction} :
    readLiteral text = .ok x ↔
      ∃ spelling : Spelling, text.toList = spelling.characters ∧ spelling.WellFormed ∧
        x = ofRat spelling.value := by
  constructor
  · intro found
    cases scanned : Literal.scan text.toList with
    | error diagnosis => simp [readLiteral, scanned] at found
    | ok literal =>
        obtain ⟨spelling, wellFormed, written⟩ := Literal.exists_spelling_of_scan scanned
        rw [readLiteral_characters wellFormed written.symm, Except.ok.injEq] at found
        exact ⟨spelling, written.symm, wellFormed, found.symm⟩
  · rintro ⟨spelling, written, wellFormed, rfl⟩
    exact readLiteral_characters wellFormed written

/-- Everything that is read is what the text denotes, in lowest terms, and nothing else is read. -/
theorem read_eq_ok_iff {text : String} {x : Fraction} :
    read text = .ok x ↔ ∃ number, Denotes text.toList number ∧ x = ofRat number := by
  constructor
  · intro found
    rcases Numeral.cut_cases marksQuotient text.toList with
      ⟨uncut, _⟩ | ⟨dividend, slash, divisor, halves, split, isSlash, _⟩
    · rw [read, uncut] at found
      obtain ⟨spelling, written, wellFormed, rfl⟩ := readLiteral_eq_ok_iff.mp found
      exact ⟨_, .literal written wellFormed, rfl⟩
    · rw [read, halves] at found
      obtain ⟨dividendValue, divisorValue, dividendDenotes, divisorDenotes, nonzero, rfl⟩ :=
        readParts_eq_ok_iff.mp found
      rw [String.toList_ofList] at dividendDenotes divisorDenotes
      rw [beq_iff_eq.mp isSlash] at split
      exact ⟨_, .quotient split dividendDenotes divisorDenotes nonzero, rfl⟩
  · rintro ⟨number, denotes, rfl⟩
    cases denotes with
    | quotient split dividendDenotes divisorDenotes nonzero =>
        rw [read, split, Numeral.cut_append (fun _ member => dividendDenotes.noSlash member) rfl]
        apply readParts_eq_ok_iff.mpr
        refine ⟨_, _, ?_, ?_, nonzero, rfl⟩
        · rwa [String.toList_ofList]
        · rwa [String.toList_ofList]
    | literal written wellFormed =>
        rw [read, written, Numeral.cut_unmarked (fun _ member => wellFormed.noSlash member)]
        exact readLiteral_eq_ok_iff.mpr ⟨_, written, wellFormed, rfl⟩

theorem Denotes.unique {text : String} {first second : Rat} (left : Denotes text.toList first)
    (right : Denotes text.toList second) : first = second := by
  have leftRead := read_eq_ok_iff.mpr ⟨first, left, rfl⟩
  have rightRead := read_eq_ok_iff.mpr ⟨second, right, rfl⟩
  exact ofRat_injective (Except.ok.inj (leftRead.symm.trans rightRead))

theorem display_denotes {x : Fraction} (valid : x.Valid) : Denotes x.display.toList x.value := by
  rw [valid.value_eq_parts]
  apply Denotes.quotient
  · rw [display, String.toList_append, String.toList_append]
    exact List.append_assoc _ _ _
  · exact Numeral.write_denotes x.numerator
  · exact Numeral.write_denotes x.denominator
  · exact valid.denominator_ne_zero

theorem read_display {x : Fraction} (valid : x.Valid) : read x.display = .ok (ofRat x.value) :=
  read_eq_ok_iff.mpr ⟨_, display_denotes valid, rfl⟩

theorem Valid.parts_eq {x : Fraction} (valid : x.Valid) :
    (⟨x.numerator, x.denominator⟩ : Fraction) = ofRat x.value := by
  rw [valid.numerator_eq, valid.denominator_eq, ofRat]

def quotientText (number : Rat) : String :=
  Numeral.write number.num ++ "/" ++ Numeral.write number.den

theorem Valid.display_eq {x : Fraction} (valid : x.Valid) : x.display = quotientText x.value := by
  rw [display, valid.numerator_eq, valid.denominator_eq, quotientText]

theorem display_eq_iff {x y : Fraction} (left : x.Valid) (right : y.Valid) :
    x.display = y.display ↔ x.value = y.value := by
  constructor
  · intro same
    have denotes := display_denotes left
    rw [same] at denotes
    exact denotes.unique (display_denotes right)
  · intro same
    rw [left.display_eq, right.display_eq, same]

theorem toFraction_ofFraction {x : Fraction} (valid : x.Valid) :
    (Document.ofFraction x).toFraction = .ok (ofRat x.value) := by
  rw [Document.ofFraction, Document.toFraction, read_display valid]
  rfl

/-- What is written for a fraction is read as its parts. What is read can be written and read again,
and a text that is read denotes one number, which alone decides what is written for it. -/
theorem read_display_round_trip :
    (∀ x : Fraction, x.Valid →
      read x.display = .ok ⟨x.numerator, x.denominator⟩ ∧
      (Document.ofFraction x).toFraction = .ok ⟨x.numerator, x.denominator⟩ ∧
      (⟨x.numerator, x.denominator⟩ : Fraction) = if x = undefined then zero else x) ∧
    (∀ text x, read text = .ok x →
      read x.display = .ok x ∧ (Document.ofFraction x).toFraction = .ok x ∧
      ∃ number, ∀ other, Denotes text.toList other ↔ other = number) ∧
    ∀ first second x y, read first = .ok x → read second = .ok y →
      (x.display = y.display ↔
        ∃ number, Denotes first.toList number ∧ Denotes second.toList number) := by
  refine ⟨?_, ?_, ?_⟩
  · intro x valid
    rw [valid.parts_eq]
    refine ⟨read_display valid, toFraction_ofFraction valid, ?_⟩
    split
    · rename_i isUndefined
      rw [isUndefined, value_undefined, zero_eq_ofRat]
    · rename_i isDefined
      exact (valid.resolve_right isDefined).eq_ofRat.symm
  · intro text x found
    obtain ⟨number, denotes, rfl⟩ := read_eq_ok_iff.mp found
    have valid := valid_ofRat number
    refine ⟨?_, ?_, number, ?_⟩
    · rw [read_display valid, value_ofRat]
    · rw [toFraction_ofFraction valid, value_ofRat]
    · intro other
      exact ⟨fun alsoDenotes => alsoDenotes.unique denotes, fun same => same ▸ denotes⟩
  · intro first second x y firstFound secondFound
    obtain ⟨number, denotes, rfl⟩ := read_eq_ok_iff.mp firstFound
    obtain ⟨other, alsoDenotes, rfl⟩ := read_eq_ok_iff.mp secondFound
    rw [display_eq_iff (valid_ofRat number) (valid_ofRat other), value_ofRat, value_ofRat]
    constructor
    · rintro rfl
      exact ⟨number, denotes, alsoDenotes⟩
    · rintro ⟨shared, left, right⟩
      exact (denotes.unique left).trans (right.unique alsoDenotes)

theorem read_display_round_trip_two_spellings :
    read (⟨-3, 4⟩ : Fraction).display = .ok ⟨-3, 4⟩ ∧
      (Document.ofFraction undefined).toFraction = .ok zero ∧
      ∃ number, Denotes "+6/-08".toList number ∧ Denotes "-75E-2".toList number := by
  obtain ⟨ofValid, ofRead, ofTexts⟩ := read_display_round_trip
  have quotientRead : read "+6/-08" = .ok ⟨-3, 4⟩ := by decide +kernel
  have literalRead : read "-75E-2" = .ok ⟨-3, 4⟩ := by decide +kernel
  exact ⟨(ofRead _ _ quotientRead).1, (ofValid undefined (Or.inr rfl)).2.1,
    (ofTexts _ _ _ _ quotientRead literalRead).mp rfl⟩

end Fraction

end LowestTerms
