import LowestTerms.Literal
import LowestTerms.Proofs.Fraction.Closure
import LowestTerms.Proofs.Numeral.Reading

/-!
The grammar of decimal literals. A spelling lists the parts of a literal in the order in which they
are written. The reader looks for marks before it looks at digits; that it accepts the spellings and
nothing else rests on digits and the point being no marks of an exponent and no signs, so that every
text can be cut in only one way.
-/

namespace LowestTerms.Literal

open Numeral (decimalNumber cut splitSign)

structure Spelling where
  sign : Option Char
  whole : List Char
  fractional : Option (List Char)
  /-- The marker, and the digits after the minus. -/
  exponent : Option (Char × List Char)

def writeMantissa (whole : List Char) : Option (List Char) → List Char
  | none => whole
  | some fractional => whole ++ '.' :: fractional

def writeExponent : Option (Char × List Char) → List Char
  | none => []
  | some (marker, digits) => marker :: '-' :: digits

def powerOf : Option (Char × List Char) → Nat
  | none => 0
  | some (_, digits) => decimalNumber digits

namespace Spelling

variable (spelling : Spelling)

def characters : List Char :=
  spelling.sign.toList ++
    (writeMantissa spelling.whole spelling.fractional ++ writeExponent spelling.exponent)

def mantissa : List Char := spelling.whole ++ spelling.fractional.getD []

def decimals : Nat := (spelling.fractional.getD []).length + powerOf spelling.exponent

def literal : Literal :=
  ⟨spelling.sign == some '-', decimalNumber spelling.mantissa, spelling.decimals⟩

def value : Rat :=
  (if spelling.sign = some '-' then -1 else 1) * decimalNumber spelling.mantissa /
    10 ^ spelling.decimals

structure WellFormed : Prop where
  sign : spelling.sign ∈ [none, some '+', some '-']
  someDigit : spelling.mantissa ≠ []
  digits : ∀ character ∈ spelling.mantissa, character.isDigit = true
  exponent : ∀ marker digits, spelling.exponent = some (marker, digits) →
    (marker = 'E' ∨ marker = 'e') ∧ digits ≠ [] ∧
      ∀ character ∈ digits, character.isDigit = true
  power : powerOf spelling.exponent ≤ 100000
  decimals : spelling.decimals < 2 ^ 32

end Spelling

theorem marksPoint_of_isDigit {character : Char} (isDigit : character.isDigit = true) :
    marksPoint character = false := by
  apply beq_false_of_ne
  rintro rfl
  contradiction

theorem marksExponent_iff {character : Char} :
    marksExponent character = true ↔ character = 'E' ∨ character = 'e' := by
  simp [marksExponent]

theorem count?_eq_some_iff {number count : Nat} :
    count? number = some count ↔ number < 2 ^ 32 ∧ number = count := by
  rw [count?, Option.ite_none_right_eq_some, Option.some.injEq]
  rfl

theorem isDigits_iff {digits : List Char} :
    (digits.isEmpty || digits.any (fun character => !character.isDigit)) = false ↔
      digits ≠ [] ∧ ∀ character ∈ digits, character.isDigit = true := by
  simp

theorem readExponent_eq_ok_iff {text : List Char} {magnitude : Nat} :
    readExponent text = .ok magnitude ↔
      ∃ digits, text = '-' :: digits ∧ digits ≠ [] ∧
        (∀ character ∈ digits, character.isDigit = true) ∧
          decimalNumber digits = magnitude ∧ magnitude ≤ 100000 := by
  unfold readExponent
  split
  · rename_i digits
    have bounded : (count? (decimalNumber digits)).filter (· ≤ maxExponent) = some magnitude ↔
        decimalNumber digits = magnitude ∧ magnitude ≤ 100000 := by
      rw [Option.filter_eq_some_iff, count?_eq_some_iff, decide_eq_true_eq]
      simp only [maxExponent]
      omega
    simp only [List.cons.injEq, true_and, exists_eq_left', Numeral.ofDigitChars_eq_decimalNumber]
    rw [← and_assoc, ← isDigits_iff, ← bounded]
    split
    · rename_i malformed
      simp [malformed]
    · rename_i wellFormed
      simp only [Bool.not_eq_true] at wellFormed
      simp only [wellFormed, true_and]
      cases (count? (decimalNumber digits)).filter (· ≤ maxExponent) with
      | none => simp
      | some found => simp
  · rename_i noMinus
    simp only [reduceCtorEq, false_iff]
    rintro ⟨digits, rfl, _⟩
    exact noMinus digits rfl

section

variable {whole : List Char} {fractional : Option (List Char)}
  (digits : ∀ character ∈ whole ++ fractional.getD [], character.isDigit = true)

include digits

theorem mem_writeMantissa {character : Char} (member : character ∈ writeMantissa whole fractional) :
    character.isDigit = true ∨ character = '.' := by
  cases fractional with
  | none => exact Or.inl (digits character (by simpa [writeMantissa] using member))
  | some fractional =>
      simp only [writeMantissa, List.mem_append, List.mem_cons] at member
      rcases member with inWhole | isPoint | inFractional
      · exact Or.inl (digits character (List.mem_append_left _ inWhole))
      · exact Or.inr isPoint
      · exact Or.inl (digits character (List.mem_append_right _ inFractional))

theorem cut_writeMantissa :
    cut marksPoint (writeMantissa whole fractional) = (whole, fractional) := by
  have unmarked : ∀ character ∈ whole, marksPoint character = false := by
    intro character member
    exact marksPoint_of_isDigit (digits character (List.mem_append_left _ member))
  cases fractional with
  | none => exact Numeral.cut_unmarked unmarked
  | some fractional => exact Numeral.cut_append unmarked rfl

end

theorem writeMantissa_of_cut {mantissa whole : List Char} {fractional : Option (List Char)}
    (halves : cut marksPoint mantissa = (whole, fractional)) :
    mantissa = writeMantissa whole fractional := by
  cases Numeral.cut_eq_iff.mp halves with
  | unmarked _ => rfl
  | marked split isPoint _ =>
      rw [split, beq_iff_eq.mp isPoint]
      rfl

theorem readMantissa_of_cut {mantissa whole : List Char} {fractional : Option (List Char)}
    (halves : cut marksPoint mantissa = (whole, fractional)) {exponent digits decimals : Nat} :
    readMantissa mantissa exponent = .ok (digits, decimals) ↔
      Numeral.readDigits (whole ++ fractional.getD []) = .ok digits ∧
        (fractional.getD []).length + exponent = decimals ∧ decimals < 2 ^ 32 := by
  have counted : (count? (fractional.getD []).length).bind (fun places =>
      count? (places + exponent)) = some decimals ↔
        (fractional.getD []).length + exponent = decimals ∧ decimals < 2 ^ 32 := by
    simp only [Option.bind_eq_some_iff, count?_eq_some_iff]
    constructor
    · rintro ⟨places, ⟨_, rfl⟩, fits, rfl⟩
      exact ⟨rfl, fits⟩
    · rintro ⟨rfl, fits⟩
      exact ⟨_, ⟨by omega, rfl⟩, fits, rfl⟩
  have noDigits : (whole.isEmpty && (fractional.getD []).isEmpty) = true ↔
      whole ++ fractional.getD [] = [] := by
    simp
  simp only [readMantissa, halves]
  by_cases nothing : whole ++ fractional.getD [] = []
  · rw [if_pos (noDigits.mpr nothing)]
    simp [nothing, Numeral.readDigits]
  · rw [if_neg (mt noDigits.mp nothing), ← counted]
    cases Numeral.readDigits (whole ++ fractional.getD []) with
    | error _ => simp [bind, Except.bind]
    | ok number =>
        cases (count? (fractional.getD []).length).bind
          (fun places => count? (places + exponent)) with
        | none => simp [bind, Except.bind, throw, throwThe, MonadExceptOf.throw]
        | some count => simp [bind, Except.bind, pure, Except.pure]

def ReadsExponent (afterMarker : Option (List Char)) (exponent : Nat) : Prop :=
  match afterMarker with
  | none => exponent = 0
  | some written => readExponent written = .ok exponent

theorem scan_of_cut {text mantissa : List Char} {afterMarker : Option (List Char)}
    (nonempty : text ≠ [])
    (halves : cut marksExponent (splitSign text).2 = (mantissa, afterMarker)) {literal : Literal} :
    scan text = .ok literal ↔
      literal.negative = (splitSign text).1 ∧ ∃ exponent, ReadsExponent afterMarker exponent ∧
        readMantissa mantissa exponent = .ok (literal.digits, literal.decimals) := by
  have reads : ∀ exponent,
      (readMantissa mantissa exponent).bind
          (fun found => .ok ⟨(splitSign text).1, found.1, found.2⟩) = .ok literal ↔
        literal.negative = (splitSign text).1 ∧
          readMantissa mantissa exponent = .ok (literal.digits, literal.decimals) := by
    intro exponent
    cases readMantissa mantissa exponent with
    | error _ => simp [Except.bind]
    | ok found =>
        cases literal
        simp [Except.bind, Prod.ext_iff, eq_comm]
  have filled : ¬text.isEmpty = true := by simpa using nonempty
  simp only [scan, if_neg filled, halves]
  cases afterMarker with
  | none =>
      simp only [ReadsExponent, exists_eq_left]
      exact reads 0
  | some written =>
      simp only [ReadsExponent]
      cases readExponent written with
      | error _ => simp [bind, Except.bind]
      | ok exponent =>
          simp only [Except.ok.injEq, exists_eq_left']
          exact reads exponent

namespace Spelling.WellFormed

variable {spelling : Spelling} (wellFormed : spelling.WellFormed)

include wellFormed

theorem mantissa_unmarked {character : Char}
    (member : character ∈ writeMantissa spelling.whole spelling.fractional) :
    marksExponent character = false ∧ character ≠ '-' ∧ character ≠ '+' := by
  rcases mem_writeMantissa wellFormed.digits member with isDigit | rfl
  · refine ⟨?_, ?_, ?_⟩
    · rw [← Bool.not_eq_true, marksExponent_iff]
      rintro (rfl | rfl) <;> contradiction
    · rintro rfl
      contradiction
    · rintro rfl
      contradiction
  · exact ⟨rfl, by decide, by decide⟩

theorem writeMantissa_ne_nil : writeMantissa spelling.whole spelling.fractional ≠ [] := by
  have someDigit := wellFormed.someDigit
  rw [Spelling.mantissa] at someDigit
  cases written : spelling.fractional with
  | none => simpa [writeMantissa, written] using someDigit
  | some fractional => simp [writeMantissa]

theorem splitSign_characters :
    splitSign spelling.characters = (spelling.sign == some '-',
      writeMantissa spelling.whole spelling.fractional ++ writeExponent spelling.exponent) := by
  apply Numeral.Signed.splitSign_eq
  refine ⟨wellFormed.sign, rfl, ?_⟩
  intro _ first isFirst
  rw [List.head?_append_of_ne_nil _ wellFormed.writeMantissa_ne_nil] at isFirst
  exact (wellFormed.mantissa_unmarked (List.mem_of_head? isFirst)).2

theorem cut_unsigned :
    cut marksExponent
        (writeMantissa spelling.whole spelling.fractional ++ writeExponent spelling.exponent) =
      (writeMantissa spelling.whole spelling.fractional,
        spelling.exponent.map (fun written => '-' :: written.2)) := by
  have unmarked : ∀ character ∈ writeMantissa spelling.whole spelling.fractional,
      marksExponent character = false :=
    fun _ member => (wellFormed.mantissa_unmarked member).1
  cases written : spelling.exponent with
  | none =>
      rw [writeExponent, List.append_nil]
      exact Numeral.cut_unmarked unmarked
  | some exponent =>
      have isMarker := (wellFormed.exponent exponent.1 exponent.2 written).1
      exact Numeral.cut_append unmarked (marksExponent_iff.mpr isMarker)

theorem readsExponent :
    ReadsExponent (spelling.exponent.map (fun written => '-' :: written.2))
      (powerOf spelling.exponent) := by
  have bounded := wellFormed.power
  cases written : spelling.exponent with
  | none => rfl
  | some exponent =>
      obtain ⟨_, someDigit, digits⟩ := wellFormed.exponent exponent.1 exponent.2 written
      rw [written] at bounded
      exact readExponent_eq_ok_iff.mpr ⟨exponent.2, rfl, someDigit, digits, rfl, bounded⟩

theorem scan_characters : scan spelling.characters = .ok spelling.literal := by
  have signed := wellFormed.splitSign_characters
  have nonempty : spelling.characters ≠ [] := by
    have something := wellFormed.writeMantissa_ne_nil
    simp [Spelling.characters, something]
  have digits : Numeral.readDigits spelling.mantissa = .ok spelling.literal.digits :=
    Numeral.readDigits_eq_ok_iff.mpr ⟨wellFormed.someDigit, wellFormed.digits, rfl⟩
  have halves := (congrArg (fun parts => cut marksExponent parts.2) signed).trans
    wellFormed.cut_unsigned
  rw [scan_of_cut nonempty halves, signed]
  refine ⟨rfl, powerOf spelling.exponent, wellFormed.readsExponent, ?_⟩
  rw [readMantissa_of_cut (cut_writeMantissa wellFormed.digits)]
  exact ⟨digits, rfl, wellFormed.decimals⟩

end Spelling.WellFormed

theorem exists_spelling_of_parts {sign : Option Char} {mantissa : List Char}
    {exponent : Option (Char × List Char)} {digits decimals : Nat}
    (isSign : sign ∈ [none, some '+', some '-'])
    (formed : ∀ marker digits, exponent = some (marker, digits) →
      (marker = 'E' ∨ marker = 'e') ∧ digits ≠ [] ∧
        ∀ character ∈ digits, character.isDigit = true)
    (bounded : powerOf exponent ≤ 100000)
    (read : readMantissa mantissa (powerOf exponent) = .ok (digits, decimals)) :
    ∃ spelling : Spelling, spelling.WellFormed ∧
      spelling.characters = sign.toList ++ (mantissa ++ writeExponent exponent) := by
  cases halves : cut marksPoint mantissa with
  | mk whole fractional =>
      obtain ⟨digitsRead, counted, fits⟩ := (readMantissa_of_cut halves).mp read
      obtain ⟨someDigit, onlyDigits, _⟩ := Numeral.readDigits_eq_ok_iff.mp digitsRead
      refine ⟨⟨sign, whole, fractional, exponent⟩, ?_, ?_⟩
      · exact ⟨isSign, someDigit, onlyDigits, formed, bounded, lt_of_eq_of_lt counted fits⟩
      · rw [Spelling.characters, ← writeMantissa_of_cut halves]

/-- Nothing else is read: the cuts that the reader makes are the parts of a spelling. -/
theorem exists_spelling_of_scan {text : List Char} {literal : Literal}
    (found : scan text = .ok literal) :
    ∃ spelling : Spelling, spelling.WellFormed ∧ spelling.characters = text := by
  have nonempty : text ≠ [] := by
    rintro rfl
    contradiction
  obtain ⟨sign, isSign, signed, _⟩ := Numeral.exists_signed text
  rcases Numeral.cut_cases marksExponent (splitSign text).2 with
    ⟨uncut, _⟩ | ⟨mantissa, marker, after, halves, split, isMarker, _⟩
  · obtain ⟨_, exponent, isZero, read⟩ := (scan_of_cut nonempty uncut).mp found
    obtain rfl : exponent = 0 := isZero
    have unmarked : readMantissa (splitSign text).2 (powerOf none) =
        .ok (literal.digits, literal.decimals) := read
    obtain ⟨spelling, wellFormed, written⟩ :=
      exists_spelling_of_parts isSign (by simp) (Nat.zero_le _) unmarked
    refine ⟨spelling, wellFormed, ?_⟩
    rw [written, writeExponent, List.append_nil, ← signed]
  · obtain ⟨_, exponent, readsExponent, read⟩ := (scan_of_cut nonempty halves).mp found
    obtain ⟨digits, rfl, someDigit, onlyDigits, rfl, bounded⟩ :=
      readExponent_eq_ok_iff.mp readsExponent
    have formed : ∀ otherMarker otherDigits,
        some (marker, digits) = some (otherMarker, otherDigits) →
          (otherMarker = 'E' ∨ otherMarker = 'e') ∧ otherDigits ≠ [] ∧
            ∀ character ∈ otherDigits, character.isDigit = true := by
      rintro _ _ ⟨⟩
      exact ⟨marksExponent_iff.mp isMarker, someDigit, onlyDigits⟩
    obtain ⟨spelling, wellFormed, written⟩ :=
      exists_spelling_of_parts isSign formed bounded read
    refine ⟨spelling, wellFormed, ?_⟩
    rw [written, writeExponent, ← split, ← signed]

end LowestTerms.Literal

namespace LowestTerms.Fraction

open Literal (Spelling)
open Numeral (decimalNumber)

theorem ofLiteral_eq_ofRat (literal : Literal) :
    ofLiteral literal =
      ofRat (Numeral.withSign literal.negative literal.digits / 10 ^ literal.decimals) := by
  unfold ofLiteral
  split
  · rename_i isZero
    rw [isZero, zero_eq_ofRat]
    cases literal.negative <;> simp [Numeral.withSign]
  · exact reduce_powerOfTen _ _

theorem readLiteral_characters {text : String} {spelling : Spelling}
    (wellFormed : spelling.WellFormed) (written : text.toList = spelling.characters) :
    readLiteral text = .ok (ofRat spelling.value) := by
  have value : (Numeral.withSign spelling.literal.negative spelling.literal.digits : Rat) /
      10 ^ spelling.literal.decimals = spelling.value := by
    by_cases isMinus : spelling.sign = some '-'
    · simp [Spelling.literal, Spelling.value, Numeral.withSign, isMinus]
    · simp [Spelling.literal, Spelling.value, Numeral.withSign, isMinus]
  simp only [readLiteral, written, wellFormed.scan_characters]
  rw [ofLiteral_eq_ofRat, value]

/-- The reader of literals accepts exactly the spellings that are well-formed, and gives what they
mean in lowest terms. -/
theorem readLiteral_accepts_grammar (text : String) :
    ((∃ x, readLiteral text = .ok x) ↔
      ∃ spelling : Spelling, spelling.WellFormed ∧ text.toList = spelling.characters) ∧
    ∀ spelling : Spelling, spelling.WellFormed → text.toList = spelling.characters →
      ∃ x, readLiteral text = .ok x ∧ x.Canonical ∧ x.value = spelling.value ∧
        (decimalNumber spelling.mantissa = 0 → x = zero) := by
  refine ⟨⟨?_, ?_⟩, ?_⟩
  · rintro ⟨x, found⟩
    cases scanned : Literal.scan text.toList with
    | error diagnosis => simp [readLiteral, scanned] at found
    | ok literal =>
        obtain ⟨spelling, wellFormed, written⟩ := Literal.exists_spelling_of_scan scanned
        exact ⟨spelling, wellFormed, written.symm⟩
  · rintro ⟨spelling, wellFormed, written⟩
    exact ⟨_, readLiteral_characters wellFormed written⟩
  · intro spelling wellFormed written
    refine ⟨_, readLiteral_characters wellFormed written, canonical_ofRat _, value_ofRat _, ?_⟩
    intro isZero
    rw [Spelling.value, isZero, zero_eq_ofRat]
    simp

theorem readLiteral_accepts_grammar_signed :
    ∃ x, readLiteral "-007.50e-01" = .ok x ∧ x.Canonical ∧ x.value = -3 / 4 := by
  let spelling : Spelling :=
    ⟨some '-', ['0', '0', '7'], some ['5', '0'], some ('e', ['0', '1'])⟩
  have wellFormed : spelling.WellFormed := by
    refine ⟨by decide, by decide, by simp [spelling, Spelling.mantissa], ?_, by decide, by decide⟩
    rintro _ _ ⟨⟩
    exact ⟨Or.inr rfl, by decide, by simp⟩
  have written : "-007.50e-01".toList = spelling.characters := by decide
  have value : spelling.value = -3 / 4 := by decide +kernel
  obtain ⟨x, found, canonical, means, _⟩ :=
    (readLiteral_accepts_grammar "-007.50e-01").2 spelling wellFormed written
  exact ⟨x, found, canonical, means.trans value⟩

end LowestTerms.Fraction
