import LowestTerms.Numeral

/-!
Decimal literals: an optional sign, digits with at most one point among them, and an optional
exponent, which has to be negative. `scan` looks at the parts in a fixed order, exponent first,
so that a text with several faults is always given the same diagnosis.
-/

namespace LowestTerms

/-- The number `digits / 10 ^ decimals`, negated if `negative`. -/
structure Literal where
  negative : Bool
  digits : Nat
  decimals : Nat
  deriving DecidableEq, Repr

namespace Literal

def maxExponent : Nat := 100000

def countBound : Nat := Nat.pow 2 32

def count? (number : Nat) : Option Nat :=
  if number < countBound then some number else none

def readExponent : List Char → Except Diagnosis Nat
  | '-' :: digits =>
    if digits.isEmpty || digits.any (fun character => !character.isDigit) then
      .error .malformedExponent
    else
      match (count? (Nat.ofDigitChars 10 digits 0)).filter (· ≤ maxExponent) with
      | some magnitude => .ok magnitude
      | none => .error .exponentTooLarge
  | _ => .error .exponentNotNegative

def marksExponent (character : Char) : Bool := character == 'E' || character == 'e'

def marksPoint (character : Char) : Bool := character == '.'

/-- The digits before and after the point, and how many decimals they make with an exponent. -/
def readMantissa (mantissa : List Char) (exponent : Nat) : Except Diagnosis (Nat × Nat) :=
  let (whole, afterPoint) := Numeral.cut marksPoint mantissa
  let fractional := afterPoint.getD []
  if whole.isEmpty && fractional.isEmpty then .error .noDigits
  else do
    let digits ← Numeral.readDigits (whole ++ fractional)
    match (count? fractional.length).bind (fun places => count? (places + exponent)) with
    | some decimals => return (digits, decimals)
    | none => throw .tooManyDecimals

def scan (text : List Char) : Except Diagnosis Literal :=
  if text.isEmpty then .error .emptyText
  else do
    let (negative, unsigned) := Numeral.splitSign text
    let (mantissa, afterMarker) := Numeral.cut marksExponent unsigned
    let exponent ← match afterMarker with
      | none => pure 0
      | some exponentText => readExponent exponentText
    let (digits, decimals) ← readMantissa mantissa exponent
    return ⟨negative, digits, decimals⟩

end Literal

end LowestTerms
