import LowestTerms.Failure

/-!
Fractions of unbounded integers. A fraction is either canonical, that is in lowest terms over a
positive denominator, or the undefined pair `0/0` that stands for a value never given. Every
operation but `isUndefined` reads the undefined pair as `0/1`; `numerator`, `denominator` and
`parts` are that reading. `value` is the rational number meant, and `reduce` the canonical
fraction of a quotient.
-/

namespace LowestTerms

structure Fraction where
  num : Int
  den : Int
  deriving DecidableEq, Repr

namespace Fraction

def undefined : Fraction := ⟨0, 0⟩

instance : Inhabited Fraction := ⟨undefined⟩

def zero : Fraction := ⟨0, 1⟩

def one : Fraction := ⟨1, 1⟩

def ofInt (value : Int) : Fraction := ⟨value, 1⟩

/-- Lowest terms, a positive denominator, and therefore `0/1` for zero. -/
def Canonical (x : Fraction) : Prop :=
  0 < x.den ∧ Int.gcd x.num x.den = 1

/-- The fractions that exist. -/
def Valid (x : Fraction) : Prop :=
  x.Canonical ∨ x = undefined

/-- The rational number that a fraction stands for; an undefined one stands for zero. -/
def value (x : Fraction) : Rat := Rat.divInt x.num x.den

def isUndefined (x : Fraction) : Bool := x.den == 0

def numerator (x : Fraction) : Int := x.num

/-- Always positive: an undefined fraction is read over one. -/
def denominator (x : Fraction) : Int := if x.den = 0 then 1 else x.den

def parts (x : Fraction) : Int × Int := (x.numerator, x.denominator)

/-- Zero in place of an undefined fraction. -/
def defined (x : Fraction) : Fraction := if x.den = 0 then zero else x

def isZero (x : Fraction) : Bool := x.num == 0

def isOne (x : Fraction) : Bool := x.num == 1 && x.den == 1

def isWhole (x : Fraction) : Bool := x.denominator == 1

def sign (x : Fraction) : Int := x.num.sign

def dividedOut (dividend divisor : Int) : Int × Int :=
  if divisor = 1 then (dividend, divisor)
  else
    let common : Int := Int.gcd dividend divisor
    if common = 1 then (dividend, divisor)
    else (dividend.tdiv common, divisor.tdiv common)

/-- The quotient of two integers in lowest terms, its sign in the numerator. The divisor must not
be zero. -/
def reduce (dividend divisor : Int) : Fraction :=
  if dividend = 0 then zero
  else if dividend = divisor then one
  else
    let (num, den) := dividedOut dividend divisor
    if den < 0 then ⟨-num, -den⟩ else ⟨num, den⟩

def ofParts (dividend divisor : Int) : Except Failure Fraction :=
  if divisor = 0 then .error .divisionByZero else .ok (reduce dividend divisor)

def ofPartsOrZero (dividend divisor : Int) : Fraction :=
  if divisor = 0 then zero else reduce dividend divisor

/-- The ratio of a circle's circumference to its diameter, to about 28 decimals. -/
def piApproximation : Fraction := reduce 2646693125139304345 842468587426513207

/-- The base of the natural logarithm, to about 38 decimals. -/
def eulerApproximation : Fraction :=
  reduce 10873127313836180941441149885410649991 (4 * Int.pow 10 36)

end Fraction

end LowestTerms
