import LowestTerms.Fraction.Basic

/-!
The field operations. Operands that are zero or one are answered without any multiplication, equal
denominators are kept, and all others meet at their least common multiple; `value` does not tell
these paths apart.
-/

namespace LowestTerms.Fraction

def commonDenominator (first second : Int) : Int :=
  (first.natAbs : Int).tdiv (Int.gcd first second) * second.natAbs

/-- What a numerator becomes when its denominator is widened to a multiple. -/
def widened (x : Fraction) (shared : Int) : Int :=
  x.numerator * shared.tdiv x.denominator

def add (x y : Fraction) : Fraction :=
  if x.isZero then y.defined
  else if y.isZero then x.defined
  else if x.denominator = y.denominator then reduce (x.numerator + y.numerator) x.denominator
  else
    let shared := commonDenominator x.denominator y.denominator
    reduce (x.widened shared + y.widened shared) shared

def neg (x : Fraction) : Fraction := ⟨-x.numerator, x.denominator⟩

def sub (x y : Fraction) : Fraction :=
  if y.isZero then x.defined
  else if x.isZero then y.neg
  else if x.denominator = y.denominator then reduce (x.numerator - y.numerator) x.denominator
  else
    let shared := commonDenominator x.denominator y.denominator
    reduce (x.widened shared - y.widened shared) shared

def mul (x y : Fraction) : Fraction :=
  if x.isZero || y.isZero then zero
  else if x.isOne then y
  else if y.isOne then x
  else reduce (x.numerator * y.numerator) (x.denominator * y.denominator)

instance : Add Fraction := ⟨add⟩
instance : Neg Fraction := ⟨neg⟩
instance : Sub Fraction := ⟨sub⟩
instance : Mul Fraction := ⟨mul⟩

def divide (x y : Fraction) : Except Failure Fraction :=
  if y.isZero then .error .divisionByZero
  else if x.isZero then .ok zero
  else if y.isOne then .ok x
  else .ok (reduce (x.numerator * y.denominator) (x.denominator * y.numerator))

/-- The quotient by a divisor that is taken not to be zero; the operation is broken off if it is. -/
def divideOrAbort (x y : Fraction) : Except Abort Fraction :=
  (x.divide y).mapError .unhandled

def abs (x : Fraction) : Fraction := ⟨x.numerator.natAbs, x.denominator⟩

/-- Swaps numerator and denominator. The sign moves along with the numerator. -/
def invert (x : Fraction) : Except Failure Fraction :=
  if x.isZero then .error .divisionByZero
  else if x.numerator < 0 then .ok ⟨-x.denominator, -x.numerator⟩
  else .ok ⟨x.denominator, x.numerator⟩

/-- An integer power. Powers of coprime parts are coprime, so nothing has to be reduced. -/
def pow (x : Fraction) (exponent : Int) : Except Failure Fraction :=
  if exponent = 0 then
    if x.isZero then .error (.domain .zeroToZero) else .ok one
  else if x.isZero && exponent < 0 then .error (.domain .zeroToNegative)
  else if x.isZero || x.isOne || exponent == 1 then .ok x.defined
  else do
    let base ← if exponent < 0 then x.invert else .ok x
    return ⟨Int.pow base.num exponent.natAbs, Int.pow base.den exponent.natAbs⟩

def sum (xs : List Fraction) : Fraction := xs.foldl add zero

def product (xs : List Fraction) : Fraction := xs.foldl mul one

end LowestTerms.Fraction
