import LowestTerms.Binary.Format

/-!
The natural logarithm and the exponential function, rounded to a binary format. Both are summed
from their power series in fixed point, with so many more bits than the format has that only the
final rounding shows.
-/

namespace LowestTerms.Binary

def workingBits : Nat := 320

def workingUnit : Nat := Nat.pow 2 workingBits

/-- `power / position + power * ratio ^ 2 / (position + 2) + …`, in fixed point. -/
def artanhSum (dividend divisor : Nat) : Nat → Nat → Nat → Nat
  | 0, _, _ => 0
  | terms + 1, power, position =>
    power / position +
      artanhSum dividend divisor terms
        (power * (dividend * dividend) / (divisor * divisor)) (position + 2)

/-- Twice the inverse hyperbolic tangent of a quotient of at most one third, in fixed point. -/
def twiceArtanh (dividend divisor : Nat) : Nat :=
  2 * artanhSum dividend divisor 110 (workingUnit * dividend / divisor) 1

def logarithmOfTwo : Nat := twiceArtanh 1 3

/-- The natural logarithm of a positive integer, in fixed point: the binade contributes a multiple
of `log 2`, and what is left lies between one and two. -/
def logarithm (value : Nat) : Nat :=
  let binades := value.log2
  binades * logarithmOfTwo + twiceArtanh (value - Nat.pow 2 binades) (value + Nat.pow 2 binades)

/-- `term + term * x / position + …`, in fixed point. -/
def exponentialSum (x : Int) : Nat → Int → Nat → Int
  | 0, _, _ => 0
  | terms + 1, term, position =>
    term + exponentialSum x terms (term * x / (workingUnit * position : Nat)) (position + 1)

/-- The exponential function at a fixed point number: a power of two as exponent, and a fixed point
number near one. -/
def exponential (x : Int) : Int × Nat :=
  let binades := (2 * x + logarithmOfTwo) / (2 * logarithmOfTwo : Nat)
  let rest := x - binades * logarithmOfTwo
  (binades, (exponentialSum rest 80 workingUnit 1).toNat)

def Format.nearestLogarithm (format : Format) (value : Nat) : Nat :=
  format.nearest (logarithm value) workingUnit

def Format.nearestExponential (format : Format) (dividend : Int) (divisor : Nat) : Nat :=
  let (binades, mantissa) := exponential (dividend * workingUnit / divisor)
  let (up, down) := powerOfTwo binades
  format.nearest (mantissa * up) (workingUnit * down)

end LowestTerms.Binary
