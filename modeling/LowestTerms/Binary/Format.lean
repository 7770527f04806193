import LowestTerms.Nearest

/-!
Binary floating point formats. The magnitudes that a format can hold are numbered from zero upward,
and the number of a magnitude is its bit pattern without the sign: the low bits count through one
binade, the high bits through the binades, and one step past the largest finite magnitude stands
infinity. `nearest` rounds a quotient to that list, ties to the even number.
-/

namespace LowestTerms.Binary

structure Format where
  /-- Bits of a significand, the leading one included. -/
  precision : Nat
  exponentBits : Nat
  deriving DecidableEq, Repr

def double : Format := ⟨53, 11⟩

def single : Format := ⟨24, 8⟩

def powerOfTwo (exponent : Int) : Nat × Nat :=
  (Nat.pow 2 exponent.toNat, Nat.pow 2 (-exponent).toNat)

/-- The largest power of two that is not above a positive quotient. -/
def floorLog2 (dividend divisor : Nat) : Int :=
  let estimate : Int := (dividend.log2 : Int) - divisor.log2
  let (up, down) := powerOfTwo estimate
  if divisor * up ≤ dividend * down then estimate else estimate - 1

namespace Format

/-- How many magnitudes share an exponent. -/
def binade (format : Format) : Nat := Nat.pow 2 (format.precision - 1)

def leastExponent (format : Format) : Int :=
  3 - (Nat.pow 2 (format.exponentBits - 1) : Nat) - (format.precision : Int)

def infinity (format : Format) : Nat :=
  (Nat.pow 2 format.exponentBits - 1) * format.binade

def significand (format : Format) (index : Nat) : Nat × Int :=
  let high := index / format.binade
  let low := index % format.binade
  if high = 0 then (low, format.leastExponent)
  else (format.binade + low, format.leastExponent + (high - 1 : Nat))

def magnitude (format : Format) (index : Nat) : Nat × Nat :=
  let (significand, exponent) := format.significand index
  let (up, down) := powerOfTwo exponent
  (significand * up, down)

def roundingExponent (format : Format) (dividend divisor : Nat) : Int :=
  max (floorLog2 dividend divisor - (format.precision - 1 : Nat)) format.leastExponent

/-- The number of the magnitude nearest to a quotient, or of infinity if that is nearer. -/
def nearest (format : Format) (dividend divisor : Nat) : Nat :=
  if dividend = 0 then 0
  else
    let exponent := format.roundingExponent dividend divisor
    let (up, down) := powerOfTwo exponent
    let steps := (exponent - format.leastExponent).toNat
    let significand := nearestInteger .even (dividend * down) (divisor * up)
    min (steps * format.binade + significand) format.infinity

end Format

/-- A datum of a format: no number, or a sign with a numbered magnitude or infinity. -/
inductive Datum where
  | nan
  | infinite (negative : Bool)
  | finite (negative : Bool) (index : Nat)
  deriving DecidableEq, Repr

namespace Datum

def ofIndex (format : Format) (negative : Bool) (index : Nat) : Datum :=
  if index < format.infinity then finite negative index else infinite negative

def ofBits (format : Format) (bits : Nat) : Datum :=
  let signBit := Nat.pow 2 (format.precision - 1 + format.exponentBits)
  let index := bits % signBit
  let negative := signBit ≤ bits
  if index ≤ format.infinity then ofIndex format negative index else nan

def toBits (format : Format) : Datum → Nat
  | nan => format.infinity + format.binade / 2
  | infinite negative => signed negative format.infinity
  | finite negative index => signed negative index
where
  signed (negative : Bool) (index : Nat) : Nat :=
    if negative then Nat.pow 2 (format.precision - 1 + format.exponentBits) + index else index

def convert (source target : Format) : Datum → Datum
  | nan => nan
  | infinite negative => infinite negative
  | finite negative index =>
    let (dividend, divisor) := source.magnitude index
    ofIndex target negative (target.nearest dividend divisor)

def ofInt (format : Format) (value : Int) : Datum :=
  ofIndex format (value < 0) (format.nearest value.natAbs 1)

end Datum

end LowestTerms.Binary
