import LowestTerms.Binary.Transcendental
import LowestTerms.Decimal.Binary
import LowestTerms.Decimal.Quotient
import LowestTerms.Decimal.Rounding
import LowestTerms.Fraction.Arithmetic

/-!
Fractions and the formats of limited size. A decimal is a fraction over a power of ten, so reading
one is exact. Writing divides the parts if they fit the format, and is the closest number then;
parts that do not fit are divided by way of their logarithms.
-/

namespace LowestTerms.Fraction

open Binary (double Datum)

def ofDecimal (d : Decimal) : Fraction :=
  if d.fract.isZero then ofInt d.trunc.signedMantissa
  else reduce d.signedMantissa (Int.pow 10 d.scale)

/-- The sum of two magnitudes, each a quotient, rounded to double. -/
def roundedSum (x y : Nat × Nat) : Nat :=
  double.nearest (x.1 * y.2 + y.1 * x.2) (x.2 * y.2)

def doubleLogarithmOfTwo : Nat := double.nearest Binary.logarithmOfTwo Binary.workingUnit

/-- The logarithm of the leading 64 bits of a positive integer, and the bits that follow times the
logarithm of two; every intermediate result is rounded to double. -/
def logarithmIndex (value : Nat) : Nat :=
  let rest := value.log2 - 63
  let (leading, unit) := double.magnitude (double.nearest (value / Nat.pow 2 rest) 1)
  let leadingLogarithm := double.nearestLogarithm (leading / unit)
  if rest = 0 then leadingLogarithm
  else
    let (factor, divisor) := double.magnitude doubleLogarithmOfTwo
    let restLogarithm := double.nearest (rest * factor) divisor
    roundedSum (double.magnitude leadingLogarithm) (double.magnitude restLogarithm)

/-- The quotient as the exponential of a difference of logarithms. -/
def logarithmicQuotient (x : Fraction) : Datum :=
  let (n, nDivisor) := double.magnitude (logarithmIndex x.numerator.natAbs)
  let (d, dDivisor) := double.magnitude (logarithmIndex x.denominator.natAbs)
  let difference : Int := n * dDivisor - d * nDivisor
  let index := double.nearest difference.natAbs (nDivisor * dDivisor)
  let (magnitude, divisor) := double.magnitude index
  .ofIndex double (x.numerator < 0)
    (double.nearestExponential (difference.sign * magnitude) divisor)

def exactQuotient? (x : Fraction) (library : Decimal.Library) : Option Decimal := do
  let dividend ← Decimal.ofInt? x.numerator
  let divisor ← Decimal.ofInt? x.denominator
  library.quotient dividend divisor

/-- The closest decimal, as far as both parts fit a mantissa. -/
def toDecimal (x : Fraction) (library : Decimal.Library) : Except Failure Decimal :=
  if x.denominator = 1 then
    match Decimal.ofInt? x.numerator with
    | some d => .ok d
    | none => .error (.overflow .wholeDecimal)
  else if x.isZero then .ok .zero
  else
    match x.exactQuotient? library with
    | some d => .ok d
    | none =>
      match Decimal.ofDouble x.logarithmicQuotient with
      | some d => .ok d
      | none => .error (.overflow .decimal)

/-- The quotient of the rounded parts, rounded, as far as both parts are in the double format. -/
def toDouble (x : Fraction) : Datum :=
  if x.denominator = 1 then .ofInt double x.numerator
  else if x.isZero then .finite false 0
  else
    let dividend := double.nearest x.numerator.natAbs 1
    let divisor := double.nearest x.denominator.natAbs 1
    if dividend < double.infinity ∧ divisor < double.infinity then
      let (n, nDivisor) := double.magnitude dividend
      let (d, dDivisor) := double.magnitude divisor
      .ofIndex double (x.numerator < 0) (double.nearest (n * dDivisor) (nDivisor * d))
    else x.logarithmicQuotient

def toRoundedDouble (x : Fraction) (library : Decimal.Library) (digits : Nat) :
    Except Interruption Datum := do
  let closest ← (x.toDecimal library).mapError .failed
  let rounded ← closest.round library digits .halfUp
  return rounded.toDouble

def mulDecimal (x : Fraction) (d : Decimal) : Fraction := x * ofDecimal d

def decimalMul (d : Decimal) (x : Fraction) : Fraction := ofDecimal d * x

end LowestTerms.Fraction
