import LowestTerms.Binary.Shortest
import LowestTerms.Fraction.Whole
import LowestTerms.Literal

/-!
Numbers of a structured document. An integer that 64 bits hold is kept as it is. Any other number
is read as a double, with limited effort: of its digits as many as 64 bits hold, scaled by powers of
ten that are doubles themselves, every step rounded. The double is mostly, but not always, the one
nearest to the number that is written.
-/

namespace LowestTerms.Document

def marked (word : String) : String := "`" ++ word ++ "`"

/-- An integer, or a sign with a numbered magnitude of the double format. -/
inductive Number where
  | integer (value : Int)
  | binary (negative : Bool) (index : Nat)
  deriving DecidableEq, Repr

namespace Number

open Binary (double Shortest)

/-- Digits are taken in as long as they make less than this. -/
def digitsBound : Nat := Nat.pow 2 64

/-- Appends digits to a number until one has no room, and counts the digits left over. -/
def appendDigits (number : Nat) : List Char → Nat × Nat
  | [] => (number, 0)
  | digit :: rest =>
    let longer := Nat.ofDigitChars 10 [digit] number
    if longer < digitsBound then appendDigits longer rest else (number, rest.length + 1)

def maxStep : Nat := 308

def powerOfTen (exponent : Nat) : Nat × Nat :=
  double.magnitude (double.nearest (Nat.pow 10 exponent) 1)

/-- Multiplies a numbered magnitude by a power of ten, unless the product is infinite. -/
def scaleUp (index exponent : Nat) : Option Nat :=
  if index = 0 then some 0
  else if maxStep < exponent then none
  else
    let (dividend, divisor) := double.magnitude index
    let (power, unit) := powerOfTen exponent
    let product := double.nearest (dividend * power) (divisor * unit)
    if product < double.infinity then some product else none

def divideOnce (index exponent : Nat) : Nat :=
  let (dividend, divisor) := double.magnitude index
  let (power, unit) := powerOfTen exponent
  double.nearest (dividend * unit) (divisor * power)

/-- Divides by a power of ten of any size, in as many steps as it takes. -/
def scaleDown (index exponent : Nat) : Nat :=
  if index = 0 then 0
  else if exponent ≤ maxStep then divideOnce index exponent
  else scaleDown (divideOnce index maxStep) (exponent - maxStep)
termination_by exponent
decreasing_by exact Nat.sub_lt (by omega) (by decide)

def scale (index : Nat) (exponent : Int) : Option Nat :=
  if 0 ≤ exponent then scaleUp index exponent.toNat else some (scaleDown index exponent.natAbs)

/-- Whether an integer is kept as it is. A zero with a sign would lose it. -/
def isKept (negative : Bool) (magnitude : Nat) : Bool :=
  let value := Numeral.withSign negative magnitude
  !(negative && magnitude == 0) &&
    (IntegerType.long.contains value || IntegerType.unsignedLong.contains value)

def read (written : List Char) : Option Number := do
  let (negative, unsigned) := Numeral.splitSign written
  let (mantissa, afterMarker) := Numeral.cut Literal.marksExponent unsigned
  let exponent ← match afterMarker with
    | none => some 0
    | some digits => (Numeral.readInteger digits).toOption
  let (whole, afterPoint) := Numeral.cut Literal.marksPoint mantissa
  let fractional := afterPoint.getD []
  let _ ← (Numeral.readDigits (whole ++ fractional)).toOption
  let (leading, dropped) := appendDigits 0 whole
  let isWhole := afterPoint.isNone && afterMarker.isNone && dropped == 0
  if isWhole && isKept negative leading then
    return integer (Numeral.withSign negative leading)
  else
    let (digits, ignored) := appendDigits leading fractional
    let index ← scale (double.nearest digits 1)
      (exponent + dropped - (fractional.length - ignored : Nat))
    return binary negative index

/-- The digits of a double are written around a point if the leading one stands near it. -/
def isPositional (shortest : Shortest) : Bool :=
  -5 ≤ shortest.leadingExponent && shortest.leadingExponent ≤ 15

/-- The shortest digits that are read back, the even ones if two are equally close. -/
def binaryText (negative : Bool) (index : Nat) : String :=
  let shortest := Shortest.ofIndex .even double index
  (if negative then "-" else "") ++
    if isPositional shortest then shortest.positional else shortest.scientific

def describe : Number → String
  | integer value => "integer " ++ marked (Numeral.write value)
  | binary negative index => "floating point " ++ marked (binaryText negative index)

end Number

end LowestTerms.Document
