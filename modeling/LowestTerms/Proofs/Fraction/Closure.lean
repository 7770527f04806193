import LowestTerms.Document.Reading
import LowestTerms.Fraction.Binary
import LowestTerms.Fraction.Decimal
import LowestTerms.Fraction.Integer
import LowestTerms.Fraction.Order
import LowestTerms.Fraction.Whole
import LowestTerms.Proofs.Fraction.Power

/-!
Fractions in lowest terms are closed under everything that computes a fraction, also where nothing
is reduced, and every way to make a fraction from something else ends in lowest terms. Only what
hands back an operand can hand back the undefined one.
-/

namespace LowestTerms.Fraction

theorem canonical_zero : zero.Canonical := by
  rw [zero_eq_ofRat]
  exact canonical_ofRat 0

theorem canonical_one : one.Canonical := by
  rw [one_eq_ofRat]
  exact canonical_ofRat 1

theorem canonical_ofInt (value : Int) : (ofInt value).Canonical := by
  rw [ofInt_eq_ofRat]
  exact canonical_ofRat value

theorem Valid.zero_stored {x : Fraction} (valid : x.Valid) (isZero : x.num = 0) :
    x = zero ∨ x = undefined := by
  rcases valid with ⟨positive, coprime⟩ | isUndefined
  · left
    rw [isZero, Int.gcd_zero_left] at coprime
    cases x with
    | mk num den =>
        simp only at isZero positive coprime
        simp only [zero, mk.injEq]
        omega
  · exact Or.inr isUndefined

section Operations

variable {x y : Fraction} (left : x.Valid) (right : y.Valid)

include left right

theorem canonical_add : (x + y).Canonical := by
  rw [add_eq_ofRat left right]
  exact canonical_ofRat _

theorem canonical_sub : (x - y).Canonical := by
  rw [sub_eq_ofRat left right]
  exact canonical_ofRat _

theorem canonical_mul : (x * y).Canonical := by
  rw [mul_eq_ofRat left right]
  exact canonical_ofRat _

theorem canonical_divide {quotient : Fraction} (found : x.divide y = .ok quotient) :
    quotient.Canonical := by
  by_cases isZero : y.value = 0
  · rw [divide_eq_error right isZero] at found
    cases found
  · rw [divide_eq_ok left right isZero] at found
    cases found
    exact canonical_ofRat _

theorem canonical_divideOrAbort {quotient : Fraction}
    (found : x.divideOrAbort y = .ok quotient) : quotient.Canonical :=
  canonical_divide left right ((divideOrAbort_eq_ok_iff x y quotient).mp found)

omit right

theorem canonical_neg : (-x).Canonical := by
  rw [neg_eq_ofRat left]
  exact canonical_ofRat _

theorem canonical_abs : x.abs.Canonical := by
  rw [abs_eq_ofRat left]
  exact canonical_ofRat _

theorem canonical_invert {inverse : Fraction} (found : x.invert = .ok inverse) :
    inverse.Canonical := by
  by_cases isZero : x.value = 0
  · rw [invert_eq_error left isZero] at found
    cases found
  · rw [invert_eq_ok left isZero] at found
    cases found
    exact canonical_ofRat _

theorem canonical_pow {power : Fraction} {exponent : Int} (found : x.pow exponent = .ok power) :
    power.Canonical := by
  by_cases refused : x.value = 0 ∧ exponent ≤ 0
  · obtain ⟨failure, failed⟩ := (pow_fails_iff left exponent).mpr refused
    rw [failed] at found
    cases found
  · rw [pow_value left exponent refused] at found
    cases found
    exact canonical_ofRat _

end Operations

theorem canonical_sum {xs : List Fraction} (valid : ∀ x ∈ xs, x.Valid) : (sum xs).Canonical := by
  apply List.foldlRecOn xs add (motive := Canonical)
  · exact canonical_zero
  · intro total canonical x member
    exact canonical_add (.inl canonical) (valid x member)

theorem canonical_product {xs : List Fraction} (valid : ∀ x ∈ xs, x.Valid) :
    (product xs).Canonical := by
  apply List.foldlRecOn xs mul (motive := Canonical)
  · exact canonical_one
  · intro total canonical x member
    exact canonical_mul (.inl canonical) (valid x member)

section Integers

variable {x : Fraction} (valid : x.Valid) (n : Int)

include valid

theorem canonical_addInt : (x.addInt n).Canonical :=
  canonical_reduce valid.denominator_ne_zero

theorem canonical_subInt : (x.subInt n).Canonical :=
  canonical_reduce valid.denominator_ne_zero

theorem canonical_intSub : (intSub n x).Canonical :=
  canonical_reduce valid.denominator_ne_zero

theorem canonical_mulInt : (x.mulInt n).Canonical := by
  unfold mulInt
  split
  · exact canonical_zero
  · exact canonical_reduce valid.denominator_ne_zero

theorem canonical_divideInt {quotient : Fraction} (found : x.divideInt n = .ok quotient) :
    quotient.Canonical := by
  unfold divideInt at found
  split at found
  · cases found
  · rename_i nonzero
    cases found
    exact canonical_reduce (Int.mul_ne_zero valid.denominator_ne_zero nonzero)

theorem canonical_intDivide {quotient : Fraction} (found : intDivide n x = .ok quotient) :
    quotient.Canonical := by
  unfold intDivide at found
  split at found
  · cases found
  · rename_i notZero
    cases found
    have nonzero : x.value ≠ 0 := by simpa [valid.isZero_iff] using notZero
    apply canonical_reduce
    simpa [valid.numerator_eq] using nonzero

omit n in
theorem canonical_remainder : x.quotientAndRemainder.2.Canonical :=
  canonical_reduce valid.denominator_ne_zero

end Integers

theorem canonical_ofParts {dividend divisor : Int} {x : Fraction}
    (made : ofParts dividend divisor = .ok x) : x.Canonical := by
  unfold ofParts at made
  split at made
  · cases made
  · rename_i nonzero
    cases made
    exact canonical_reduce nonzero

theorem canonical_ofPartsOrZero (dividend divisor : Int) :
    (ofPartsOrZero dividend divisor).Canonical := by
  unfold ofPartsOrZero
  split
  · exact canonical_zero
  · rename_i nonzero
    exact canonical_reduce nonzero

theorem powerOfTen_ne_zero (exponent : Nat) : Int.pow 10 exponent ≠ 0 :=
  ne_of_gt (Int.pow_pos (by decide))

theorem reduce_powerOfTen (dividend : Int) (exponent : Nat) :
    reduce dividend (Int.pow 10 exponent) = ofRat (dividend / 10 ^ exponent) := by
  have power : ((Int.pow 10 exponent : Int) : Rat) = 10 ^ exponent := by
    rw [Int.pow_eq]
    push_cast
    rfl
  rw [reduce_eq_ofRat (powerOfTen_ne_zero exponent), power]

theorem canonical_ofLiteral (literal : Literal) : (ofLiteral literal).Canonical := by
  unfold ofLiteral
  split
  · exact canonical_zero
  · exact canonical_reduce (powerOfTen_ne_zero _)

theorem canonical_readLiteral {text : String} {x : Fraction}
    (made : readLiteral text = .ok x) : x.Canonical := by
  unfold readLiteral at made
  split at made
  · cases made
    exact canonical_ofLiteral _
  · cases made

theorem canonical_readParts {dividend divisor : String} {x : Fraction}
    (made : readParts dividend divisor = .ok x) : x.Canonical := by
  unfold readParts at made
  cases dividendRead : readPart "could not read numerator" dividend with
  | error failure => simp [dividendRead, bind, Except.bind] at made
  | ok dividendValue =>
      cases divisorRead : readPart "could not read denominator" divisor with
      | error failure => simp [dividendRead, divisorRead, bind, Except.bind] at made
      | ok divisorValue =>
          simp only [dividendRead, divisorRead, bind, Except.bind] at made
          exact canonical_ofParts made

theorem canonical_read {text : String} {x : Fraction} (made : read text = .ok x) :
    x.Canonical := by
  unfold read at made
  split at made
  · exact canonical_readLiteral made
  · exact canonical_readParts made

theorem canonical_ofDecimal (d : Decimal) : (ofDecimal d).Canonical := by
  unfold ofDecimal
  split
  · exact canonical_ofInt _
  · exact canonical_reduce (powerOfTen_ne_zero _)

theorem canonical_withSign {x : Fraction} (canonical : x.Canonical) (negative : Bool) :
    (withSign negative x).Canonical := by
  unfold withSign
  split
  · exact ⟨canonical.1, by simpa using canonical.2⟩
  · exact canonical

theorem canonical_ofMagnitude (format : Binary.Format) (index : Nat) :
    (ofMagnitude format index).Canonical := by
  simp only [ofMagnitude]
  split
  · exact canonical_ofInt _
  · apply canonical_reduce
    simp [Binary.Shortest.quotient, Binary.Shortest.powerOfTen]

theorem canonical_ofBinary {format : Binary.Format} {number : Binary.Datum} {x : Fraction}
    (made : ofBinary format number = .ok x) : x.Canonical := by
  cases number with
  | nan => cases made
  | infinite negative => cases made
  | finite negative index =>
      cases made
      exact canonical_withSign (canonical_ofMagnitude format index) negative

theorem canonical_toFraction {document : Document} {x : Fraction}
    (made : document.toFraction = .ok x) : x.Canonical := by
  cases document with
  | text written =>
      unfold Document.toFraction at made
      cases found : read written with
      | error failure => simp [found, Except.mapError] at made
      | ok y =>
          simp only [found, Except.mapError, Except.ok.injEq] at made
          exact made ▸ canonical_read found
  | _ => cases made

theorem larger_eq (x y : Fraction) : x.larger y = x ∨ x.larger y = y := by
  unfold larger
  split <;> simp

theorem smaller_eq (x y : Fraction) : x.smaller y = x ∨ x.smaller y = y := by
  unfold smaller
  split <;> simp

theorem clamp?_mem {x least greatest clamped : Fraction}
    (found : x.clamp? least greatest = some clamped) : clamped ∈ [x, least, greatest] := by
  unfold clamp? at found
  split at found
  · cases found
  · split at found
    · cases found
      simp
    · split at found <;> cases found <;> simp

theorem mem_sort {xs : List Fraction} {x : Fraction} : x ∈ sort xs ↔ x ∈ xs :=
  List.mem_mergeSort

end LowestTerms.Fraction
