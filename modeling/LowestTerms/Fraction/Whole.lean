import LowestTerms.Fraction.Basic

/-!
From fractions to integers: floor, ceiling and truncation, without a bound or into an integer type
of fixed width. Whether a result fits is decided after rounding.
-/

namespace LowestTerms

/-- A two's complement or unsigned integer type. -/
structure IntegerType where
  signed : Bool
  bits : Nat
  deriving DecidableEq, Repr

namespace IntegerType

def least (type : IntegerType) : Int :=
  if type.signed then -(Nat.pow 2 (type.bits - 1) : Nat) else 0

def greatest (type : IntegerType) : Int :=
  if type.signed then Nat.pow 2 (type.bits - 1) - 1 else Nat.pow 2 type.bits - 1

def contains (type : IntegerType) (n : Int) : Bool :=
  type.least ≤ n && n ≤ type.greatest

def long : IntegerType := ⟨true, 64⟩

def unsignedLong : IntegerType := ⟨false, 64⟩

/-- The type that a conversion goes through: there is none of its own to a type of less than 64
bits. -/
def direct (type : IntegerType) : IntegerType :=
  if type.bits < 64 then ⟨type.signed, 64⟩ else type

end IntegerType

namespace Fraction

def floorInteger (x : Fraction) : Int := Int.fdiv x.numerator x.denominator

def ceilInteger (x : Fraction) : Int := -Int.fdiv (-x.numerator) x.denominator

def floor (x : Fraction) : Fraction := ofInt x.floorInteger

def ceil (x : Fraction) : Fraction := ofInt x.ceilInteger

def floorInt (x : Fraction) : Except Failure Int :=
  if IntegerType.long.contains x.floorInteger then .ok x.floorInteger
  else .error (.overflow .floor)

def ceilInt (x : Fraction) : Except Failure Int :=
  if IntegerType.long.contains x.ceilInteger then .ok x.ceilInteger
  else .error (.overflow .ceiling)

def truncate (x : Fraction) : Int := Int.tdiv x.numerator x.denominator

/-- The truncated quotient of the parts, and what is left, which has the sign of the fraction. -/
def quotientAndRemainder (x : Fraction) : Fraction × Fraction :=
  (ofInt x.truncate, reduce (Int.tmod x.numerator x.denominator) x.denominator)

def toDirectInteger? (x : Fraction) (type : IntegerType) : Option Int :=
  if type.contains x.truncate then some x.truncate else none

def toInteger? (x : Fraction) (type : IntegerType) : Option Int :=
  (x.toDirectInteger? type.direct).filter type.contains

end Fraction

end LowestTerms
