import LowestTerms.Binary.Format
import LowestTerms.Decimal.Basic

/-!
Decimals from binary numbers. A power of two is a power of ten with as many fives divided out, so
those fives are worked into the mantissa one at a time, as long as it has room, and what has no
room is truncated. The digits are then cut to what the scale and the precision of the binary number
allow. The result is not always the nearest decimal, but always the same one.
-/

namespace LowestTerms.Decimal

/-- Multiplies a number of fives into `mantissa * 10 ^ exponent`. A five is half of a ten, which an
even mantissa can spare; an odd one takes the five itself, or is halved all the same if it has no
room. -/
def absorbFives : Nat → Nat → Int → Nat × Int
  | 0, mantissa, exponent => (mantissa, exponent)
  | count + 1, mantissa, exponent =>
    if mantissa % 2 = 0 then absorbFives count (mantissa / 2) (exponent + 1)
    else if 5 * mantissa < limit then absorbFives count (5 * mantissa) exponent
    else absorbFives count (mantissa / 2) (exponent + 1)

/-- Divides a number of fives out of `mantissa * 10 ^ exponent`. A fifth is two tenths while the
mantissa has room to be doubled, and is truncated otherwise; there is no decimal if the tens that
are left are too many for the fives that are left. -/
def absorbFifths : Nat → Nat → Int → Option (Nat × Int)
  | 0, mantissa, exponent => some (mantissa, exponent)
  | count + 1, mantissa, exponent =>
    if mantissa < limit / 2 then absorbFifths count (2 * mantissa) (exponent - 1)
    else if (count + 1 : Nat) < 2 * exponent then none
    else absorbFifths count (mantissa / 5) exponent

def absorbTens : Nat → Nat → Option Nat
  | 0, mantissa => some mantissa
  | count + 1, mantissa =>
    if 10 * mantissa < limit then absorbTens count (10 * mantissa) else none

def dropDigit (mantissa : Nat) : Nat := nearestInteger .up mantissa 10

/-- Drops digits until the scale is allowed; nothing is left of a number that is too small. -/
def dropToScale (mantissa : Nat) : Nat → Nat × Nat
  | scale =>
    if scale ≤ maxScale then (mantissa, scale)
    else if mantissa / 10 = 0 then (0, 0)
    else dropToScale (dropDigit mantissa) (scale - 1)
termination_by scale => scale
decreasing_by omega

def dropToPrecision (bound mantissa : Nat) : Nat → Nat × Nat
  | 0 => (mantissa, 0)
  | scale + 1 =>
    if mantissa < bound then (mantissa, scale + 1)
    else dropToPrecision bound (dropDigit mantissa) scale

def ofSignificand (negative : Bool) (significand : Nat) (exponent : Int) : Option Decimal := do
  let (mantissa, tens) ←
    if exponent < 0 then some (absorbFives exponent.natAbs significand exponent)
    else absorbFifths exponent.natAbs significand exponent
  if 0 < tens then
    let filled ← absorbTens tens.toNat mantissa
    return ⟨negative, filled, 0⟩
  else
    let (fitting, scale) := dropToScale mantissa tens.natAbs
    let (precise, places) := dropToPrecision (Nat.pow 2 52) fitting scale
    return ⟨negative && precise != 0, precise, places⟩

def ofDouble : Binary.Datum → Option Decimal
  | .finite negative index =>
    if index = 0 then some zero
    else
      let (significand, exponent) := Binary.double.significand index
      ofSignificand negative significand exponent
  | _ => none

def toDouble (d : Decimal) : Binary.Datum :=
  .ofIndex Binary.double d.negative (Binary.double.nearest d.mantissa (Nat.pow 10 d.scale))

end LowestTerms.Decimal
