import LowestTerms.Numeral

/-!
Decimals of limited size: a sign, a mantissa below `2 ^ 96` and a scale of at most 28 digits after
the point. One number has several decimals, such as `1.2` and `1.20`, and zero has a negative form;
`text` writes the digits as they are, `normalize` picks the shortest form of the number.
-/

namespace LowestTerms

structure Decimal where
  negative : Bool
  mantissa : Nat
  scale : Nat
  deriving DecidableEq, Repr

namespace Decimal

def limit : Nat := Nat.pow 2 96

def maxScale : Nat := 28

def Valid (d : Decimal) : Prop := d.mantissa < limit ∧ d.scale ≤ maxScale

instance (d : Decimal) : Decidable d.Valid := inferInstanceAs (Decidable (_ ∧ _))

def zero : Decimal := ⟨false, 0, 0⟩

def ofInt (value : Int) : Decimal := ⟨value < 0, value.natAbs, 0⟩

def signedMantissa (d : Decimal) : Int := Numeral.withSign d.negative d.mantissa

def value (d : Decimal) : Rat := mkRat d.signedMantissa (Nat.pow 10 d.scale)

/-- Moves zeros off the end of the digits after the point. -/
def stripZeros (mantissa : Nat) : Nat → Nat × Nat
  | 0 => (mantissa, 0)
  | scale + 1 =>
    if mantissa % 10 = 0 then stripZeros (mantissa / 10) scale else (mantissa, scale + 1)

/-- The same number without trailing zeros, and without a sign if it is zero. -/
def normalize (d : Decimal) : Decimal :=
  let (mantissa, scale) := stripZeros d.mantissa d.scale
  ⟨d.negative && mantissa != 0, mantissa, scale⟩

/-- The digits of a mantissa, with zeros in front so that one is left before the point. -/
def paddedDigits (mantissa scale : Nat) : List Char :=
  let digits := Nat.toDigits 10 mantissa
  List.replicate (scale + 1 - digits.length) '0' ++ digits

def text (d : Decimal) : String :=
  let digits := paddedDigits d.mantissa d.scale
  let whole := digits.take (digits.length - d.scale)
  let fractional := digits.drop (digits.length - d.scale)
  String.ofList
    ((if d.negative then ['-'] else []) ++ whole ++
      (if d.scale = 0 then [] else '.' :: fractional))

def ofText (written : String) : Option Decimal :=
  let (negative, unsigned) := Numeral.splitSign written.toList
  let (whole, afterPoint) := Numeral.cut (· == '.') unsigned
  let fractional := afterPoint.getD []
  match Numeral.readDigits (whole ++ fractional) with
  | .error _ => none
  | .ok mantissa =>
    let d : Decimal := ⟨negative, mantissa, fractional.length⟩
    if d.Valid then some d else none

end Decimal

end LowestTerms
