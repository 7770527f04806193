import LowestTerms.Proofs.Numeral.Reading

/-!
The integers that texts denote. The integer reader accepts exactly the texts of an integer, so a
text denotes at most one; what is written for an integer is one of its texts. None of them holds a
slash, which lets two integers be written with a slash between them.
-/

namespace LowestTerms.Numeral

def Denotes (text : List Char) (integer : Int) : Prop :=
  ∃ sign digits, sign ∈ [none, some '+', some '-'] ∧ text = sign.toList ++ digits ∧
    digits ≠ [] ∧ (∀ character ∈ digits, character.isDigit = true) ∧
      integer = withSign (sign == some '-') (decimalNumber digits)

theorem signed_digits {sign : Option Char} {digits : List Char}
    (isSign : sign ∈ [none, some '+', some '-'])
    (onlyDigits : ∀ character ∈ digits, character.isDigit = true) :
    Signed (sign.toList ++ digits) sign digits := by
  refine ⟨isSign, rfl, ?_⟩
  intro _ first isFirst
  have isDigit := onlyDigits first (List.mem_of_head? isFirst)
  constructor
  · rintro rfl
    contradiction
  · rintro rfl
    contradiction

theorem readInteger_eq_ok_iff {text : List Char} {integer : Int} :
    readInteger text = .ok integer ↔ Denotes text integer := by
  constructor
  · intro found
    obtain ⟨sign, signed⟩ := exists_signed text
    cases read : readDigits (splitSign text).2 with
    | error diagnosis => simp [readInteger, read, Except.map] at found
    | ok magnitude =>
        obtain ⟨someDigit, onlyDigits, rfl⟩ := readDigits_eq_ok_iff.mp read
        simp only [readInteger, read, Except.map, Except.ok.injEq] at found
        refine ⟨sign, _, signed.isSign, signed.parts, someDigit, onlyDigits, ?_⟩
        rw [← found, signed.splitSign_eq]
  · rintro ⟨sign, digits, isSign, rfl, someDigit, onlyDigits, rfl⟩
    have read : readDigits digits = .ok (decimalNumber digits) :=
      readDigits_eq_ok_iff.mpr ⟨someDigit, onlyDigits, rfl⟩
    simp only [readInteger, (signed_digits isSign onlyDigits).splitSign_eq, read, Except.map]

def IntegerFault (text : List Char) (diagnosis : Diagnosis) : Prop :=
  ∃ sign unsigned, Signed text sign unsigned ∧ DigitFault unsigned diagnosis

theorem readInteger_eq_error_iff {text : List Char} {diagnosis : Diagnosis} :
    readInteger text = .error diagnosis ↔ IntegerFault text diagnosis := by
  have fails : readInteger text = .error diagnosis ↔
      readDigits (splitSign text).2 = .error diagnosis := by
    cases read : readDigits (splitSign text).2 with
    | error other => simp [readInteger, read, Except.map]
    | ok magnitude => simp [readInteger, read, Except.map]
  rw [fails, readDigits_eq_error_iff]
  constructor
  · intro fault
    obtain ⟨sign, signed⟩ := exists_signed text
    exact ⟨sign, _, signed, fault⟩
  · rintro ⟨sign, unsigned, signed, fault⟩
    rwa [signed.splitSign_eq]

theorem mem_sign {sign : Option Char} (isSign : sign ∈ [none, some '+', some '-'])
    {character : Char} (member : character ∈ sign.toList) : character = '+' ∨ character = '-' := by
  simp only [List.mem_cons, List.not_mem_nil, or_false] at isSign
  rcases isSign with rfl | rfl | rfl
  · cases member
  · exact Or.inl (List.mem_singleton.mp member)
  · exact Or.inr (List.mem_singleton.mp member)

theorem Denotes.mem {text : List Char} {integer : Int} (denotes : Denotes text integer)
    {character : Char} (member : character ∈ text) :
    character = '+' ∨ character = '-' ∨ character.isDigit = true := by
  obtain ⟨sign, digits, isSign, rfl, _, onlyDigits, _⟩ := denotes
  rcases List.mem_append.mp member with inSign | inDigits
  · rcases mem_sign isSign inSign with plus | minus
    · exact Or.inl plus
    · exact Or.inr (Or.inl minus)
  · exact Or.inr (Or.inr (onlyDigits character inDigits))

theorem decimalNumber_toDigits (magnitude : Nat) :
    decimalNumber (Nat.toDigits 10 magnitude) = magnitude := by
  rw [← ofDigitChars_eq_decimalNumber, Nat.ofDigitChars_ten_toDigits]

theorem write_denotes (integer : Int) : Denotes (write integer).toList integer := by
  have onlyDigits : ∀ character ∈ Nat.toDigits 10 integer.natAbs, character.isDigit = true :=
    fun _ member => Nat.isDigit_of_mem_toDigits (by decide) (by decide) member
  by_cases negative : integer < 0
  · refine ⟨some '-', _, by simp, ?_, Nat.toDigits_ne_nil, onlyDigits, ?_⟩
    · rw [write, if_pos negative, String.toList_append, Nat.toList_repr]
      rfl
    · rw [decimalNumber_toDigits]
      simp only [withSign, beq_self_eq_true, if_true]
      omega
  · refine ⟨none, _, by simp, ?_, Nat.toDigits_ne_nil, onlyDigits, ?_⟩
    · rw [write, if_neg negative, String.toList_append, Nat.toList_repr]
      rfl
    · rw [decimalNumber_toDigits]
      change integer = integer.natAbs
      omega

end LowestTerms.Numeral
