import LowestTerms.Binary.Shortest
import LowestTerms.Fraction.Basic

/-!
Fractions from binary numbers. A whole number is taken exactly, however large; any other number is
taken to mean the shortest decimal that is rounded to it.
-/

namespace LowestTerms.Fraction

open Binary (Format Datum Shortest)

def noFraction (name : String) : Failure :=
  .unreadable (.bare (name ++ " has no fraction representation"))

def withSign (negative : Bool) (x : Fraction) : Fraction :=
  if negative then ⟨-x.num, x.den⟩ else x

def ofMagnitude (format : Format) (index : Nat) : Fraction :=
  let (dividend, divisor) := format.magnitude index
  if dividend % divisor = 0 then ofInt (dividend / divisor : Nat)
  else
    let (decimalDividend, decimalDivisor) := (Shortest.ofIndex .up format index).quotient
    reduce decimalDividend decimalDivisor

def ofBinary (format : Format) : Datum → Except Failure Fraction
  | .finite negative index => .ok (withSign negative (ofMagnitude format index))
  | .infinite negative => .error (noFraction (if negative then "-inf" else "inf"))
  | .nan => .error (noFraction "NaN")

end LowestTerms.Fraction
