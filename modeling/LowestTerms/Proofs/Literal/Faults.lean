import LowestTerms.Proofs.Literal.Grammar

/-!
What a text is told that is no literal. The parts of a text are examined in a fixed order: the
exponent, then whether there is anything to be read, then the characters of the mantissa, then the
number of decimals. A fault is described here by the parts in which it is found, without the reader,
and the reader gives the first fault and no other.
-/

namespace LowestTerms

namespace Diagnosis

theorem toList_message_unexpected (found : Char) :
    (unexpectedCharacter found).message.toList =
      "unexpected character '".toList ++ found :: "'".toList := by
  have framed : ∀ before after : String,
      (before ++ String.singleton found ++ after).toList =
        before.toList ++ found :: after.toList := by
    intro before after
    rw [String.toList_append, String.toList_append, String.toList_singleton, List.append_assoc,
      List.singleton_append]
  exact framed _ _

theorem message_unexpected_ne (found : Char) {text : String}
    (otherStart : text.toList.head? ≠ some 'u') : (unexpectedCharacter found).message ≠ text := by
  rintro rfl
  have start : "unexpected character '".toList.head? = some 'u' := by decide
  rw [toList_message_unexpected, List.head?_append, start] at otherStart
  exact otherStart rfl

theorem message_injective {first second : Diagnosis} (same : first.message = second.message) :
    first = second := by
  cases first with
  | unexpectedCharacter found =>
      cases second with
      | unexpectedCharacter other =>
          have characters := congrArg String.toList same
          rw [toList_message_unexpected, toList_message_unexpected, List.append_cancel_left_eq,
            List.cons.injEq] at characters
          rw [characters.1]
      | _ => exact absurd same (message_unexpected_ne found (by decide))
  | _ =>
      -- All other messages are fixed and can be compared as they stand.
      cases second with
      | unexpectedCharacter other =>
          exact absurd same.symm (message_unexpected_ne other (by decide))
      | _ => first | rfl | exact absurd same (by decide)

theorem about_of_ne_emptyText {diagnosis : Diagnosis} (notEmpty : diagnosis ≠ .emptyText)
    (text : String) : diagnosis.about text = .reading diagnosis.message text := by
  cases diagnosis with
  | emptyText => contradiction
  | _ => rfl

end Diagnosis

namespace Literal

open Numeral (Divided Signed cut cut_eq_iff decimalNumber splitSign)

/-! Faults, by the part in which they are found. -/

inductive ExponentFault (written : List Char) : Diagnosis → Prop
  | notNegative : written.head? ≠ some '-' → ExponentFault written .exponentNotNegative
  | malformed {digits : List Char} : written = '-' :: digits →
      digits = [] ∨ (∃ character ∈ digits, character.isDigit = false) →
        ExponentFault written .malformedExponent
  | tooLarge {digits : List Char} : written = '-' :: digits → digits ≠ [] →
      (∀ character ∈ digits, character.isDigit = true) → 100000 < decimalNumber digits →
        ExponentFault written .exponentTooLarge

inductive MantissaFault (characters : List Char) (decimals : Nat) : Diagnosis → Prop
  | noDigits : characters = [] → MantissaFault characters decimals .noDigits
  | unexpected {before after : List Char} {found : Char} :
      characters = before ++ found :: after →
        (∀ character ∈ before, character.isDigit = true) → found.isDigit = false →
          MantissaFault characters decimals (.unexpectedCharacter found)
  | tooMany : characters ≠ [] → (∀ character ∈ characters, character.isDigit = true) →
      2 ^ 32 ≤ decimals → MantissaFault characters decimals .tooManyDecimals

def HasPower (afterMarker : Option (List Char)) (power : Nat) : Prop :=
  match afterMarker with
  | none => power = 0
  | some written => ∃ digits, written = '-' :: digits ∧ digits ≠ [] ∧
      (∀ character ∈ digits, character.isDigit = true) ∧
        decimalNumber digits = power ∧ power ≤ 100000

/-- The first fault of a text. A sign is set aside, then the text is divided at its first marker,
then the mantissa at its first point. -/
inductive FirstFault (text : List Char) : Diagnosis → Prop
  | empty : text = [] → FirstFault text .emptyText
  | exponent {sign : Option Char} {unsigned mantissa written : List Char} {diagnosis : Diagnosis} :
      Signed text sign unsigned → Divided marksExponent unsigned mantissa (some written) →
        ExponentFault written diagnosis → FirstFault text diagnosis
  | mantissa {sign : Option Char} {unsigned mantissa whole : List Char}
      {afterMarker fractional : Option (List Char)} {power : Nat} {diagnosis : Diagnosis} :
      text ≠ [] → Signed text sign unsigned → Divided marksExponent unsigned mantissa afterMarker →
        HasPower afterMarker power → Divided marksPoint mantissa whole fractional →
          MantissaFault (whole ++ fractional.getD []) ((fractional.getD []).length + power)
            diagnosis → FirstFault text diagnosis

theorem isMalformed_iff {digits : List Char} :
    (digits.isEmpty || digits.any (fun character => !character.isDigit)) = true ↔
      digits = [] ∨ ∃ character ∈ digits, character.isDigit = false := by
  simp

theorem exceeds_maxExponent_iff {number : Nat} :
    (count? number).filter (· ≤ maxExponent) = none ↔ 100000 < number := by
  by_cases counted : number < countBound
  · simp only [count?, if_pos counted, Option.filter_some, decide_eq_true_eq, ite_eq_right_iff,
      reduceCtorEq, imp_false, Nat.not_le]
    rfl
  · have large : 2 ^ 32 ≤ number := Nat.le_of_not_lt counted
    simp only [count?, if_neg counted, Option.filter_none, true_iff]
    omega

theorem readExponent_eq_error_iff {written : List Char} {diagnosis : Diagnosis} :
    readExponent written = .error diagnosis ↔ ExponentFault written diagnosis := by
  constructor
  · intro failed
    unfold readExponent at failed
    split at failed
    · rename_i digits
      split at failed
      · rename_i malformed
        cases failed
        exact .malformed rfl (isMalformed_iff.mp malformed)
      · rename_i wellFormed
        obtain ⟨someDigit, onlyDigits⟩ := isDigits_iff.mp (Bool.eq_false_of_not_eq_true wellFormed)
        split at failed
        · cases failed
        · rename_i beyond
          cases failed
          rw [Numeral.ofDigitChars_eq_decimalNumber, exceeds_maxExponent_iff] at beyond
          exact .tooLarge rfl someDigit onlyDigits beyond
    · rename_i noMinus
      cases failed
      refine .notNegative ?_
      intro isMinus
      obtain ⟨rest, rfl⟩ := List.head?_eq_some_iff.mp isMinus
      exact noMinus rest rfl
  · intro fault
    cases fault with
    | notNegative noMinus =>
        unfold readExponent
        split
        · exact absurd rfl noMinus
        · rfl
    | malformed split malformed =>
        rw [split, readExponent, if_pos (isMalformed_iff.mpr malformed)]
    | tooLarge split someDigit onlyDigits beyond =>
        have wellFormed := isDigits_iff.mpr ⟨someDigit, onlyDigits⟩
        rw [← exceeds_maxExponent_iff] at beyond
        simp only [split, readExponent, wellFormed, Bool.false_eq_true, if_false,
          Numeral.ofDigitChars_eq_decimalNumber, beyond]

theorem readsExponent_iff {afterMarker : Option (List Char)} {power : Nat} :
    ReadsExponent afterMarker power ↔ HasPower afterMarker power := by
  cases afterMarker with
  | none => rfl
  | some written => exact readExponent_eq_ok_iff

theorem count?_bind_eq_none_iff {places power : Nat} :
    (count? places).bind (fun counted => count? (counted + power)) = none ↔
      2 ^ 32 ≤ places + power := by
  rw [← not_iff_not, ← ne_eq, Option.ne_none_iff_exists', Nat.not_le]
  simp only [Option.bind_eq_some_iff, count?_eq_some_iff]
  constructor
  · rintro ⟨decimals, counted, ⟨_, rfl⟩, fits, _⟩
    exact fits
  · intro fits
    exact ⟨_, _, ⟨by omega, rfl⟩, fits, rfl⟩

theorem readMantissa_eq_error_iff {mantissa whole : List Char} {fractional : Option (List Char)}
    (halves : cut marksPoint mantissa = (whole, fractional)) {power : Nat} {diagnosis : Diagnosis} :
    readMantissa mantissa power = .error diagnosis ↔
      MantissaFault (whole ++ fractional.getD []) ((fractional.getD []).length + power)
        diagnosis := by
  have noDigits : (whole.isEmpty && (fractional.getD []).isEmpty) = true ↔
      whole ++ fractional.getD [] = [] := by
    simp
  simp only [readMantissa, halves]
  constructor
  · intro failed
    by_cases nothing : whole ++ fractional.getD [] = []
    · rw [if_pos (noDigits.mpr nothing)] at failed
      cases failed
      exact .noDigits nothing
    · rw [if_neg (mt noDigits.mp nothing)] at failed
      cases read : Numeral.readDigits (whole ++ fractional.getD []) with
      | error other =>
          simp only [read, bind, Except.bind, Except.error.injEq] at failed
          subst failed
          cases Numeral.readDigits_eq_error_iff.mp read with
          | missing isEmpty =>
              -- This is what the digit reader would say, but it is not asked to read nothing.
              exact absurd isEmpty nothing
          | unexpected split digitsBefore notDigit => exact .unexpected split digitsBefore notDigit
      | ok number =>
          obtain ⟨_, onlyDigits, _⟩ := Numeral.readDigits_eq_ok_iff.mp read
          cases counted : (count? (fractional.getD []).length).bind
              (fun places => count? (places + power)) with
          | some decimals => simp [read, counted, bind, Except.bind, pure, Except.pure] at failed
          | none =>
              simp only [read, counted, bind, Except.bind, throw, throwThe, MonadExceptOf.throw,
                Except.error.injEq] at failed
              subst failed
              exact .tooMany nothing onlyDigits (count?_bind_eq_none_iff.mp counted)
  · intro fault
    cases fault with
    | noDigits nothing => rw [if_pos (noDigits.mpr nothing)]
    | unexpected split digitsBefore notDigit =>
        have something : whole ++ fractional.getD [] ≠ [] := by simp [split]
        have failed := Numeral.readDigits_eq_error_iff.mpr
          (.unexpected split digitsBefore notDigit)
        rw [if_neg (mt noDigits.mp something), failed]
        rfl
    | tooMany something onlyDigits beyond =>
        have read := Numeral.readDigits_eq_ok_iff.mpr ⟨something, onlyDigits, rfl⟩
        rw [if_neg (mt noDigits.mp something), read]
        simp only [bind, Except.bind]
        rw [count?_bind_eq_none_iff.mpr beyond]
        rfl

theorem scan_eq_error_of_cut {text mantissa : List Char} {afterMarker : Option (List Char)}
    (nonempty : text ≠ [])
    (halves : cut marksExponent (splitSign text).2 = (mantissa, afterMarker))
    {diagnosis : Diagnosis} :
    scan text = .error diagnosis ↔
      (∃ written, afterMarker = some written ∧ readExponent written = .error diagnosis) ∨
        ∃ power, ReadsExponent afterMarker power ∧
          readMantissa mantissa power = .error diagnosis := by
  have reads : ∀ power,
      (readMantissa mantissa power).bind
          (fun found => .ok (⟨(splitSign text).1, found.1, found.2⟩ : Literal)) =
            .error diagnosis ↔ readMantissa mantissa power = .error diagnosis := by
    intro power
    cases readMantissa mantissa power <;> simp [Except.bind]
  have filled : ¬text.isEmpty = true := by simpa using nonempty
  simp only [scan, if_neg filled, halves]
  cases afterMarker with
  | none =>
      simp only [ReadsExponent, exists_eq_left, reduceCtorEq, false_and, exists_false, false_or]
      exact reads 0
  | some written =>
      simp only [ReadsExponent, Option.some.injEq, exists_eq_left']
      cases readExponent written with
      | error other => simp [bind, Except.bind]
      | ok power =>
          simp only [reduceCtorEq, Except.ok.injEq, exists_eq_left', false_or]
          exact reads power

theorem scan_eq_error_iff {text : List Char} {diagnosis : Diagnosis} :
    scan text = .error diagnosis ↔ FirstFault text diagnosis := by
  constructor
  · intro failed
    by_cases isEmpty : text = []
    · subst isEmpty
      cases failed
      exact .empty rfl
    · obtain ⟨sign, signed⟩ := Numeral.exists_signed text
      cases halves : cut marksExponent (splitSign text).2 with
      | mk mantissa afterMarker =>
          have divided := cut_eq_iff.mp halves
          rcases (scan_eq_error_of_cut isEmpty halves).mp failed with
            ⟨written, rfl, exponentFailed⟩ | ⟨power, reads, mantissaFailed⟩
          · exact .exponent signed divided (readExponent_eq_error_iff.mp exponentFailed)
          · cases point : cut marksPoint mantissa with
            | mk whole fractional =>
                exact .mantissa isEmpty signed divided (readsExponent_iff.mp reads)
                  (cut_eq_iff.mp point) ((readMantissa_eq_error_iff point).mp mantissaFailed)
  · intro fault
    cases fault with
    | empty isEmpty =>
        rw [isEmpty]
        rfl
    | exponent signed divided fault =>
        have nonempty : text ≠ [] := by
          cases divided with
          | marked split _ _ => simp [signed.parts, split]
        have halves := (congrArg (fun parts => cut marksExponent parts.2) signed.splitSign_eq).trans
          (cut_eq_iff.mpr divided)
        exact (scan_eq_error_of_cut nonempty halves).mpr
          (.inl ⟨_, rfl, readExponent_eq_error_iff.mpr fault⟩)
    | mantissa nonempty signed divided power point fault =>
        have halves := (congrArg (fun parts => cut marksExponent parts.2) signed.splitSign_eq).trans
          (cut_eq_iff.mpr divided)
        exact (scan_eq_error_of_cut nonempty halves).mpr
          (.inr ⟨_, readsExponent_iff.mpr power,
            (readMantissa_eq_error_iff (cut_eq_iff.mpr point)).mpr fault⟩)

theorem FirstFault.unique {text : List Char} {first second : Diagnosis}
    (left : FirstFault text first) (right : FirstFault text second) : first = second :=
  Except.error.inj ((scan_eq_error_iff.mpr left).symm.trans (scan_eq_error_iff.mpr right))

theorem FirstFault.eq_emptyText_iff {text : List Char} {diagnosis : Diagnosis}
    (fault : FirstFault text diagnosis) : diagnosis = .emptyText ↔ text = [] := by
  constructor
  · rintro rfl
    cases fault with
    | empty isEmpty => exact isEmpty
    | exponent _ _ exponentFault => cases exponentFault
    | mantissa _ _ _ _ _ mantissaFault => cases mantissaFault
  · intro isEmpty
    exact fault.unique (.empty isEmpty)

/-- That there are no digits is noticed before digits are read, and digits can always be read. -/
theorem FirstFault.not_of_digits {text : List Char} {diagnosis : Diagnosis}
    (fault : FirstFault text diagnosis) :
    diagnosis ≠ .expectedDigits ∧ diagnosis ≠ .unreadableDigits := by
  cases fault with
  | empty _ => simp
  | exponent _ _ exponentFault => cases exponentFault <;> simp
  | mantissa _ _ _ _ _ mantissaFault => cases mantissaFault <;> simp

end Literal

namespace Fraction

open Literal (FirstFault scan)

theorem readLiteral_eq_error_iff {text : String} {failure : Failure} :
    readLiteral text = .error failure ↔
      ∃ diagnosis, FirstFault text.toList diagnosis ∧
        failure = .unreadable (diagnosis.about text) := by
  simp only [← Literal.scan_eq_error_iff]
  rw [readLiteral]
  cases scan text.toList with
  | ok literal => simp
  | error diagnosis => simp [eq_comm]

theorem about_of_firstFault {text : String} {diagnosis : Diagnosis}
    (fault : FirstFault text.toList diagnosis) :
    diagnosis.about text =
      if text = "" then .bare diagnosis.message else .reading diagnosis.message text := by
  have isEmpty_iff : text = "" ↔ diagnosis = .emptyText := by
    rw [fault.eq_emptyText_iff, String.toList_eq_nil_iff]
  by_cases isEmpty : text = ""
  · rw [if_pos isEmpty, isEmpty_iff.mp isEmpty]
    rfl
  · rw [if_neg isEmpty, Diagnosis.about_of_ne_emptyText (mt isEmpty_iff.mpr isEmpty)]

/-- A text that is no literal has one first fault, and that is what its only layer says, about the
complete text unless there is none. It is never said that digits were missing or could not be
read. -/
theorem readLiteral_first_fault (text : String) :
    (∀ failure, readLiteral text = .error failure ↔
      ∃ diagnosis, FirstFault text.toList diagnosis ∧ failure = .unreadable
        (if text = "" then .bare diagnosis.message else .reading diagnosis.message text)) ∧
    (∀ first second, FirstFault text.toList first → FirstFault text.toList second →
      first = second) ∧
    (scan text.toList ≠ .error .expectedDigits ∧ scan text.toList ≠ .error .unreadableDigits) ∧
    ∀ failure, readLiteral text = .error failure →
      failure.description ≠ some Diagnosis.expectedDigits.message ∧
        failure.description ≠ some Diagnosis.unreadableDigits.message := by
  refine ⟨?faults, fun _ _ => FirstFault.unique, ⟨?missing, ?unreadable⟩, ?descriptions⟩
  case faults =>
    intro failure
    rw [readLiteral_eq_error_iff]
    constructor
    · rintro ⟨diagnosis, fault, rfl⟩
      exact ⟨diagnosis, fault, by rw [about_of_firstFault fault]⟩
    · rintro ⟨diagnosis, fault, rfl⟩
      exact ⟨diagnosis, fault, by rw [about_of_firstFault fault]⟩
  case missing =>
    intro failed
    exact (Literal.scan_eq_error_iff.mp failed).not_of_digits.1 rfl
  case unreadable =>
    intro failed
    exact (Literal.scan_eq_error_iff.mp failed).not_of_digits.2 rfl
  case descriptions =>
    intro failure failed
    obtain ⟨diagnosis, fault, rfl⟩ := readLiteral_eq_error_iff.mp failed
    have description : (Failure.unreadable (diagnosis.about text)).description =
        some diagnosis.message := by
      rw [about_of_firstFault fault]
      split <;> rfl
    rw [description, ne_eq, ne_eq, Option.some.injEq, Option.some.injEq]
    exact ⟨mt Diagnosis.message_injective fault.not_of_digits.1,
      mt Diagnosis.message_injective fault.not_of_digits.2⟩

theorem readLiteral_first_fault_of_several :
    readLiteral "-1x.E5" = .error (.unreadable
      (.reading "only a negative exponent is supported" "-1x.E5")) ∧
    (∀ other, FirstFault "-1x.E5".toList other → other = .exponentNotNegative) ∧
    readLiteral "1.2.xE-5" = .error (.unreadable (.reading "unexpected character '.'" "1.2.xE-5")) ∧
    (Failure.unreadable (.reading "unexpected character '.'" "1.2.xE-5")).description ≠
      some Diagnosis.expectedDigits.message := by
  obtain ⟨faults, unique, _, _⟩ := readLiteral_first_fault "-1x.E5"
  obtain ⟨otherFaults, _, _, described⟩ := readLiteral_first_fault "1.2.xE-5"
  -- The letter in the mantissa is a fault as well, but a later one.
  have exponentFault : FirstFault "-1x.E5".toList .exponentNotNegative := by
    have signed : Numeral.Signed "-1x.E5".toList (some '-') ['1', 'x', '.', 'E', '5'] :=
      ⟨by simp, by decide, by simp⟩
    have divided : Numeral.Divided Literal.marksExponent ['1', 'x', '.', 'E', '5']
        ['1', 'x', '.'] (some ['5']) := Numeral.cut_eq_iff.mp (by decide)
    exact .exponent signed divided (.notNegative (by decide))
  have mantissaFault : FirstFault "1.2.xE-5".toList (.unexpectedCharacter '.') := by
    have signed : Numeral.Signed "1.2.xE-5".toList none ['1', '.', '2', '.', 'x', 'E', '-', '5'] :=
      ⟨by simp, by decide, by simp⟩
    have divided : Numeral.Divided Literal.marksExponent ['1', '.', '2', '.', 'x', 'E', '-', '5']
        ['1', '.', '2', '.', 'x'] (some ['-', '5']) := Numeral.cut_eq_iff.mp (by decide)
    have power : Literal.HasPower (some ['-', '5']) 5 :=
      ⟨['5'], rfl, by decide, by simp, by decide, by decide⟩
    have point : Numeral.Divided Literal.marksPoint ['1', '.', '2', '.', 'x'] ['1']
        (some ['2', '.', 'x']) := Numeral.cut_eq_iff.mp (by decide)
    have split : ['1'] ++ ['2', '.', 'x'] = ['1', '2'] ++ '.' :: ['x'] := rfl
    exact .mantissa (by decide) signed divided power point (.unexpected split (by simp) rfl)
  have otherFailed : readLiteral "1.2.xE-5" = .error (.unreadable
      (.reading "unexpected character '.'" "1.2.xE-5")) :=
    (otherFaults _).mpr ⟨_, mantissaFault, by decide⟩
  exact ⟨(faults _).mpr ⟨_, exponentFault, by decide⟩,
    fun other fault => unique other _ fault exponentFault, otherFailed, (described _ otherFailed).1⟩

end Fraction

end LowestTerms
