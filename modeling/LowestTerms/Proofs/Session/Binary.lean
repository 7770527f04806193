import LowestTerms.Proofs.Fraction.Binary
import LowestTerms.Session.Evaluate

/-!
Binary numbers as sources of fractions. Every pattern of bits that is a number gives a fraction, in
the order of the numbers, and every other pattern gives none.
-/

namespace LowestTerms.Session

open Binary (Format Datum)

structure Accepts (format : Format) (bits : Nat) : Prop where
  refused_iff : (∃ error, (Source.binary format (.ofBits format bits)).fraction =
    .error (.unreadable error)) ↔ ¬format.IsFinite bits
  absent_iff : evaluate (.createIfFinite (.binary format (.ofBits format bits))) =
    .result .absent ↔ ¬format.IsFinite bits
  made : format.IsFinite bits → ∃ x : Fraction,
    (Source.binary format (.ofBits format bits)).fraction = .ok x ∧
      evaluate (.createIfFinite (.binary format (.ofBits format bits))) = .result (.fraction x) ∧
      Fraction.Keeps format bits x ∧
      (Source.binary format (.ofBits format (format.negated bits))).fraction = .ok (-x)

section

variable {format : Format} {bits : Nat}

theorem evaluate_createIfFinite_ok {source : Source} {x : Fraction}
    (made : source.fraction = .ok x) :
    evaluate (.createIfFinite source) = .result (.fraction x) := by
  simp only [evaluate, made]

theorem evaluate_createIfFinite_error {source : Source} {failure : Failure}
    (failed : source.fraction = .error failure) :
    evaluate (.createIfFinite source) = .result .absent := by
  simp only [evaluate, failed]

theorem accepts_of_isFinite (twoBits : 2 ≤ format.precision)
    (exponentBit : 1 ≤ format.exponentBits) (few : (-format.leastExponent).toNat < 2 ^ 32)
    (inRange : bits < 2 ^ format.width) (finite : format.IsFinite bits) :
    Accepts format bits := by
  have made : (Source.binary format (.ofBits format bits)).fraction = .ok _ :=
    Fraction.ofBinary_of_isFinite finite
  have answer := evaluate_createIfFinite_ok made
  refine ⟨?refused, ?absent, fun _ => ⟨_, made, answer, ?kept, ?negated⟩⟩
  case refused => simp [made, finite]
  case absent => simp [answer, finite]
  case kept => exact Fraction.keeps_meant twoBits exponentBit few finite
  case negated =>
    have negatedFinite : format.IsFinite (format.negated bits) := by
      rwa [format.isFinite_iff, format.negated_mod, ← format.isFinite_iff]
    rw [Fraction.neg_eq_ofRat (Fraction.valid_ofRat _), Fraction.value_ofRat,
      ← Fraction.meant_negated twoBits inRange]
    exact Fraction.ofBinary_of_isFinite negatedFinite

theorem accepts_of_not_isFinite (notFinite : ¬format.IsFinite bits) : Accepts format bits := by
  obtain ⟨name, failed⟩ := Fraction.ofBinary_of_not_isFinite notFinite
  refine ⟨?refused, ?absent, fun finite => absurd finite notFinite⟩
  case refused => exact iff_of_true ⟨_, failed⟩ notFinite
  case absent => exact iff_of_true (evaluate_createIfFinite_error failed) notFinite

end

/-- In both formats all numbers are accepted and kept, and their fractions are ordered like them. -/
theorem binary_numbers_are_kept {format : Format}
    (interchange : format = Binary.double ∨ format = Binary.single) :
    (∀ bits < 2 ^ format.width, Accepts format bits) ∧
    ∀ bits < 2 ^ format.width, ∀ other < 2 ^ format.width,
      format.IsFinite bits → format.IsFinite other →
        format.denoted bits < format.denoted other →
          ∃ x y : Fraction, (Source.binary format (.ofBits format bits)).fraction = .ok x ∧
            (Source.binary format (.ofBits format other)).fraction = .ok y ∧ x.order y = .lt := by
  have sizes : 2 ≤ format.precision ∧ 1 ≤ format.exponentBits ∧
      (-format.leastExponent).toNat < 2 ^ 32 := by
    rcases interchange with rfl | rfl <;> decide
  obtain ⟨twoBits, exponentBit, few⟩ := sizes
  constructor
  · intro bits inRange
    by_cases finite : format.IsFinite bits
    · exact accepts_of_isFinite twoBits exponentBit few inRange finite
    · exact accepts_of_not_isFinite finite
  · intro bits _ other _ finite otherFinite less
    refine ⟨_, _, Fraction.ofBinary_of_isFinite finite, Fraction.ofBinary_of_isFinite otherFinite,
      ?_⟩
    rw [Fraction.order_lt_iff (Fraction.valid_ofRat _) (Fraction.valid_ofRat _),
      Fraction.value_ofRat, Fraction.value_ofRat]
    exact Fraction.meant_lt twoBits finite otherFinite less

theorem binary_numbers_are_kept_tenth :
    Fraction.Keeps Binary.double 0x3fb999999999999a ⟨1, 10⟩ ∧
      (Source.binary Binary.single (.ofBits Binary.single 0xbdcccccd)).fraction = .ok ⟨-1, 10⟩ ∧
      evaluate (.createIfFinite (.binary Binary.single (.ofBits Binary.single 0x7f800000))) =
        .result .absent ∧
      (⟨1, 10⟩ : Fraction).order ⟨1, 4⟩ = .lt := by
  have tenth : (Source.binary Binary.double (.ofBits Binary.double 0x3fb999999999999a)).fraction =
      .ok ⟨1, 10⟩ := by rfl
  have quarter : (Source.binary Binary.double (.ofBits Binary.double 0x3fd0000000000000)).fraction =
      .ok ⟨1, 4⟩ := by rfl
  have singleTenth : (Source.binary Binary.single (.ofBits Binary.single 0x3dcccccd)).fraction =
      .ok ⟨1, 10⟩ := by rfl
  obtain ⟨doubleAccepts, doubleOrder⟩ := binary_numbers_are_kept (.inl rfl : Binary.double = _ ∨ _)
  obtain ⟨singleAccepts, _⟩ := binary_numbers_are_kept (.inr rfl : Binary.single = _ ∨ _)
  obtain ⟨x, made, _, kept, _⟩ := (doubleAccepts 0x3fb999999999999a (by decide)).made (by decide)
  obtain ⟨y, singleMade, _, _, negated⟩ := (singleAccepts 0x3dcccccd (by decide)).made (by decide)
  obtain ⟨lower, upper, lowerMade, upperMade, less⟩ := doubleOrder 0x3fb999999999999a (by decide)
    0x3fd0000000000000 (by decide) (by decide) (by decide) (by decide +kernel)
  rw [tenth, Except.ok.injEq] at made lowerMade
  rw [quarter, Except.ok.injEq] at upperMade
  rw [singleTenth, Except.ok.injEq] at singleMade
  subst made lowerMade upperMade singleMade
  exact ⟨kept, negated, (singleAccepts 0x7f800000 (by decide)).absent_iff.mpr (by decide), less⟩

end LowestTerms.Session
