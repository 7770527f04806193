import LowestTerms.Fraction.Arithmetic

/-!
Operations between a fraction and an integer. The integer is never made a fraction: sums keep the
denominator, products and quotients change one part.
-/

namespace LowestTerms.Fraction

def addInt (x : Fraction) (n : Int) : Fraction :=
  reduce (x.numerator + x.denominator * n) x.denominator

def subInt (x : Fraction) (n : Int) : Fraction :=
  reduce (x.numerator - x.denominator * n) x.denominator

def intSub (n : Int) (x : Fraction) : Fraction :=
  reduce (x.denominator * n - x.numerator) x.denominator

def mulInt (x : Fraction) (n : Int) : Fraction :=
  if n = 0 then zero else reduce (x.numerator * n) x.denominator

def divideInt (x : Fraction) (n : Int) : Except Abort Fraction :=
  if n = 0 then .error (.unhandled .divisionByZero)
  else .ok (reduce x.numerator (x.denominator * n))

def intDivide (n : Int) (x : Fraction) : Except Abort Fraction :=
  if x.isZero then .error (.unhandled .divisionByZero)
  else .ok (reduce (x.denominator * n) x.numerator)

def increment (x : Fraction) : Fraction := x.addInt 1

def decrement (x : Fraction) : Fraction := x.subInt 1

def equalsInt (x : Fraction) (n : Int) : Bool :=
  x.denominator == 1 && x.numerator == n

def orderInt (x : Fraction) (n : Int) : Ordering :=
  compare x.numerator (x.denominator * n)

def intOrder (n : Int) (x : Fraction) : Ordering := (x.orderInt n).swap

end LowestTerms.Fraction
