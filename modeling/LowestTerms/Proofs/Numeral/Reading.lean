import Mathlib.Data.List.Induction
import Mathlib.Data.List.TakeWhile
import Mathlib.Data.Nat.Digits.Defs
import LowestTerms.Numeral

/-!
What reading digits, taking off a sign and cutting at a mark do to every list of characters. Digits
denote a number by position, so zeros in front change nothing and are not needed to tell zero apart;
a text is cut at the first mark only, and the two halves with the mark between them are the text.
-/

namespace LowestTerms.Numeral

def decimalNumber (digits : List Char) : Nat :=
  Nat.ofDigits 10 (digits.reverse.map (fun digit => digit.toNat - '0'.toNat))

theorem ofDigitChars_eq_decimalNumber (digits : List Char) :
    Nat.ofDigitChars 10 digits 0 = decimalNumber digits := by
  induction digits using List.reverseRecOn with
  | nil => rfl
  | append_singleton digits last ih =>
      rw [Nat.ofDigitChars_append, ih, Nat.ofDigitChars_cons, Nat.ofDigitChars_nil]
      simp only [decimalNumber, List.reverse_append, List.reverse_singleton, List.singleton_append,
        List.map_cons, Nat.ofDigits_cons]
      rw [Nat.add_comm]

theorem decimalNumber_dropWhile_zero (digits : List Char) :
    decimalNumber (digits.dropWhile (· == '0')) = decimalNumber digits := by
  simp only [← ofDigitChars_eq_decimalNumber]
  induction digits with
  | nil => rfl
  | cons first rest ih =>
      by_cases isZero : first = '0'
      · subst isZero
        rw [List.dropWhile_cons_of_pos (by decide), ih, Nat.ofDigitChars_cons]
        rfl
      · rw [List.dropWhile_cons_of_neg (by simpa using isZero)]

theorem decimalNumber_zeros_append (count : Nat) (digits : List Char) :
    decimalNumber (List.replicate count '0' ++ digits) = decimalNumber digits := by
  have zeros : ∀ character ∈ List.replicate count '0', (character == '0') = true := by
    intro character member
    exact beq_iff_eq.mpr (List.eq_of_mem_replicate member)
  rw [← decimalNumber_dropWhile_zero, List.dropWhile_append_of_pos zeros,
    decimalNumber_dropWhile_zero]

theorem decimalNumber_append (leading following : List Char) :
    decimalNumber (leading ++ following) =
      decimalNumber leading * 10 ^ following.length + decimalNumber following := by
  simp only [decimalNumber, List.reverse_append, List.map_append, Nat.ofDigits_append,
    List.length_map, List.length_reverse]
  rw [Nat.add_comm, Nat.mul_comm]

theorem readDigits_eq (characters : List Char) :
    readDigits characters =
      if characters = [] then .error .expectedDigits
      else
        match characters.find? (fun character => !character.isDigit) with
        | some found => .error (.unexpectedCharacter found)
        | none => .ok (decimalNumber characters) := by
  simp only [readDigits, List.isEmpty_iff]
  cases found : characters.find? (fun character => !character.isDigit) with
  | some other => rfl
  | none =>
      have digitsOnly : ∀ character ∈ characters, character.isDigit = true := by
        simpa using found
      have trimmed := decimalNumber_dropWhile_zero characters
      by_cases onlyZeros : characters.dropWhile (· == '0') = []
      · have isZero : decimalNumber characters = 0 := by
          rw [← trimmed, onlyZeros]
          rfl
        simp only [if_pos onlyZeros, isZero]
      · have significantDigits : (characters.dropWhile (· == '0')).any
            (fun character => !character.isDigit) = false := by
          rw [List.any_eq_false]
          intro character member
          simpa using digitsOnly character ((List.dropWhile_sublist _).mem member)
        have nonempty : (characters.dropWhile (· == '0')).isEmpty = false := by
          simpa using onlyZeros
        have read : magnitude? (characters.dropWhile (· == '0')) =
            some (decimalNumber characters) := by
          simp only [magnitude?, nonempty, significantDigits, Bool.or_self, Bool.false_eq_true,
            if_false, ofDigitChars_eq_decimalNumber, trimmed]
        simp only [if_neg onlyZeros, read]

theorem readDigits_eq_ok_iff {characters : List Char} {number : Nat} :
    readDigits characters = .ok number ↔
      characters ≠ [] ∧ (∀ character ∈ characters, character.isDigit = true) ∧
        decimalNumber characters = number := by
  rw [readDigits_eq]
  by_cases isEmpty : characters = []
  · simp [isEmpty]
  · rw [if_neg isEmpty]
    cases found : characters.find? (fun character => !character.isDigit) with
    | none =>
        have digitsOnly : ∀ character ∈ characters, character.isDigit = true := by
          simpa using found
        simp only [Except.ok.injEq]
        exact ⟨fun same => ⟨isEmpty, digitsOnly, same⟩, fun parts => parts.2.2⟩
    | some other =>
        have notDigit : other.isDigit = false := by
          simpa using List.find?_some found
        simp only [reduceCtorEq, false_iff]
        rintro ⟨_, digitsOnly, _⟩
        rw [digitsOnly other (List.mem_of_find?_eq_some found)] at notDigit
        contradiction

inductive DigitFault (characters : List Char) : Diagnosis → Prop
  | missing : characters = [] → DigitFault characters .expectedDigits
  | unexpected {before after : List Char} {found : Char} :
      characters = before ++ found :: after →
        (∀ character ∈ before, character.isDigit = true) → found.isDigit = false →
          DigitFault characters (.unexpectedCharacter found)

theorem readDigits_eq_error_iff {characters : List Char} {diagnosis : Diagnosis} :
    readDigits characters = .error diagnosis ↔ DigitFault characters diagnosis := by
  rw [readDigits_eq]
  constructor
  · intro failed
    by_cases isEmpty : characters = []
    · rw [if_pos isEmpty] at failed
      cases failed
      exact .missing isEmpty
    · rw [if_neg isEmpty] at failed
      cases found : characters.find? (fun character => !character.isDigit) with
      | none => simp [found] at failed
      | some other =>
          simp only [found, Except.error.injEq] at failed
          obtain ⟨notDigit, before, after, split, digitsBefore⟩ :=
            List.find?_eq_some_iff_append.mp found
          rw [← failed]
          exact .unexpected split (by simpa using digitsBefore) (by simpa using notDigit)
  · intro fault
    cases fault with
    | missing isEmpty => rw [if_pos isEmpty]
    | @unexpected before after found split digitsBefore notDigit =>
        have first : characters.find? (fun character => !character.isDigit) = some found :=
          List.find?_eq_some_iff_append.mpr
            ⟨by simpa using notDigit, before, after, split, by simpa using digitsBefore⟩
        have nonempty : characters ≠ [] := by simp [split]
        rw [if_neg nonempty, first]

structure Signed (text : List Char) (sign : Option Char) (unsigned : List Char) : Prop where
  isSign : sign ∈ [none, some '+', some '-']
  parts : text = sign.toList ++ unsigned
  noSign : sign = none → ∀ first, unsigned.head? = some first → first ≠ '-' ∧ first ≠ '+'

theorem Signed.splitSign_eq {text unsigned : List Char} {sign : Option Char}
    (signed : Signed text sign unsigned) : splitSign text = (sign == some '-', unsigned) := by
  obtain ⟨isSign, rfl, noSign⟩ := signed
  simp only [List.mem_cons, List.not_mem_nil, or_false] at isSign
  rcases isSign with rfl | rfl | rfl
  · cases unsigned with
    | nil => rfl
    | cons first rest =>
        obtain ⟨notMinus, notPlus⟩ := noSign rfl first rfl
        simp only [Option.toList_none, List.nil_append]
        unfold splitSign
        split
        · rename_i equal
          exact absurd (List.cons.inj equal).1 notMinus
        · rename_i equal
          exact absurd (List.cons.inj equal).1 notPlus
        · rfl
  · rfl
  · rfl

theorem exists_signed (text : List Char) : ∃ sign, Signed text sign (splitSign text).2 := by
  unfold splitSign
  split
  · exact ⟨some '-', by simp, rfl, by simp⟩
  · exact ⟨some '+', by simp, rfl, by simp⟩
  · rename_i notMinus notPlus
    refine ⟨none, by simp, rfl, ?_⟩
    intro _ first isFirst
    obtain ⟨rest, rfl⟩ := List.head?_eq_some_iff.mp isFirst
    constructor
    · rintro rfl
      exact notMinus rest rfl
    · rintro rfl
      exact notPlus rest rfl

variable {marks : Char → Bool}

theorem cut_unmarked {characters : List Char}
    (unmarked : ∀ character ∈ characters, marks character = false) :
    cut marks characters = (characters, none) := by
  have passes : ∀ character ∈ characters, (!marks character) = true := by
    intro character member
    rw [unmarked character member]
    rfl
  rw [cut, List.takeWhile_eq_self_iff.mpr passes, List.dropWhile_eq_nil_iff.mpr passes]
  rfl

theorem cut_append {before after : List Char} {mark : Char}
    (unmarked : ∀ character ∈ before, marks character = false) (marked : marks mark = true) :
    cut marks (before ++ mark :: after) = (before, some after) := by
  have passes : ∀ character ∈ before, (!marks character) = true := by
    intro character member
    rw [unmarked character member]
    rfl
  rw [cut, List.takeWhile_append_of_pos passes, List.dropWhile_append_of_pos passes,
    List.takeWhile_cons_of_neg (by simp [marked]), List.dropWhile_cons_of_neg (by simp [marked]),
    List.append_nil]
  rfl

theorem cut_cases (marks : Char → Bool) (characters : List Char) :
    (cut marks characters = (characters, none) ∧
        ∀ character ∈ characters, marks character = false) ∨
      ∃ before mark after, cut marks characters = (before, some after) ∧
        characters = before ++ mark :: after ∧ marks mark = true ∧
          ∀ character ∈ before, marks character = false := by
  induction characters with
  | nil => exact Or.inl ⟨rfl, by simp⟩
  | cons first rest ih =>
      cases marked : marks first with
      | true =>
          have unmarked : ∀ character ∈ ([] : List Char), marks character = false := by simp
          exact Or.inr ⟨[], first, rest, cut_append unmarked marked, rfl, marked, unmarked⟩
      | false =>
          rcases ih with ⟨_, unmarked⟩ | ⟨before, mark, after, _, rfl, isMark, unmarked⟩
          · have allUnmarked : ∀ character ∈ first :: rest, marks character = false := by
              simpa using ⟨marked, unmarked⟩
            exact Or.inl ⟨cut_unmarked allUnmarked, allUnmarked⟩
          · have allUnmarked : ∀ character ∈ first :: before, marks character = false := by
              simpa using ⟨marked, unmarked⟩
            exact Or.inr ⟨first :: before, mark, after, cut_append allUnmarked isMark, rfl, isMark,
              allUnmarked⟩

inductive Divided (marks : Char → Bool) (characters : List Char) :
    List Char → Option (List Char) → Prop
  | unmarked : (∀ character ∈ characters, marks character = false) →
      Divided marks characters characters none
  | marked {before after : List Char} {mark : Char} : characters = before ++ mark :: after →
      marks mark = true → (∀ character ∈ before, marks character = false) →
        Divided marks characters before (some after)

theorem cut_eq_iff {characters before : List Char} {after : Option (List Char)} :
    cut marks characters = (before, after) ↔ Divided marks characters before after := by
  constructor
  · intro halves
    rcases cut_cases marks characters with
      ⟨uncut, unmarked⟩ | ⟨start, mark, rest, divided, split, isMark, unmarked⟩
    · obtain ⟨rfl, rfl⟩ := Prod.mk.inj (uncut.symm.trans halves)
      exact .unmarked unmarked
    · obtain ⟨rfl, rfl⟩ := Prod.mk.inj (divided.symm.trans halves)
      exact .marked split isMark unmarked
  · intro divided
    cases divided with
    | unmarked unmarked => exact cut_unmarked unmarked
    | marked split isMark unmarked =>
        rw [split]
        exact cut_append unmarked isMark

end LowestTerms.Numeral
