import LowestTerms.Decimal.Arithmetic
import LowestTerms.Nearest

/-!
Products and quotients with as many digits after the point as the mantissa has room for, the last of
them rounded to nearest, ties to even.
-/

namespace LowestTerms.Decimal

def quotientMantissa (dividend divisor scale : Nat) : Nat :=
  nearestInteger .even (dividend * Nat.pow 10 scale) divisor

/-- A decimal from its parts, zero without a sign, if the mantissa fits. -/
def ofParts? (negative : Bool) (mantissa scale : Nat) : Option Decimal :=
  if mantissa < limit then some ⟨negative && mantissa != 0, mantissa, scale⟩ else none

/-- The quotient at the largest scale up to a bound at which its mantissa fits. -/
def ofQuotient? (negative : Bool) (dividend divisor : Nat) : Nat → Option Decimal
  | 0 => ofParts? negative (quotientMantissa dividend divisor 0) 0
  | scale + 1 =>
    match ofParts? negative (quotientMantissa dividend divisor (scale + 1)) (scale + 1) with
    | some d => some d
    | none => ofQuotient? negative dividend divisor scale

/-- A product has no more digits after the point than its factors have together. -/
def Library.standard : Library where
  product x y :=
    ofQuotient? (x.negative != y.negative) (x.mantissa * y.mantissa)
      (Nat.pow 10 (x.scale + y.scale)) (min maxScale (x.scale + y.scale))
  quotient x y :=
    if y.isZero then none
    else
      ofQuotient? (x.negative != y.negative) (x.mantissa * Nat.pow 10 y.scale)
        (y.mantissa * Nat.pow 10 x.scale) maxScale

end LowestTerms.Decimal
