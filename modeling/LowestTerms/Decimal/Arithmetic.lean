import LowestTerms.Decimal.Basic

/-!
Arithmetic of decimals. The parts of a decimal before and after its point, its sign, and order and
remainder are exact. A product or a quotient may have more digits than the format has room for;
which of them are kept is up to a `Library`.
-/

namespace LowestTerms.Decimal

def one : Decimal := ⟨false, 1, 0⟩

def ofInt? (value : Int) : Option Decimal :=
  if value.natAbs < limit then some (ofInt value) else none

def isZero (d : Decimal) : Bool := d.mantissa == 0

def abs (d : Decimal) : Decimal := ⟨false, d.mantissa, d.scale⟩

def signum (d : Decimal) : Decimal :=
  if d.isZero then zero else ⟨d.negative, 1, 0⟩

def trunc (d : Decimal) : Decimal := ⟨d.negative, d.mantissa / Nat.pow 10 d.scale, 0⟩

/-- The digits after the point, with the sign of the decimal. -/
def fract (d : Decimal) : Decimal := ⟨d.negative, d.mantissa % Nat.pow 10 d.scale, d.scale⟩

/-- The next integer away from zero if `away`, otherwise the integer before the point. -/
def toInteger (d : Decimal) (away : Bool) : Decimal :=
  if away && !d.fract.isZero then { d.trunc with mantissa := d.trunc.mantissa + 1 } else d.trunc

def floor (d : Decimal) : Decimal := d.toInteger d.negative

def ceil (d : Decimal) : Decimal := d.toInteger (!d.negative)

/-- The mantissa at a scale that is not smaller than the decimal's own. -/
def mantissaAt (d : Decimal) (scale : Nat) : Nat := d.mantissa * Nat.pow 10 (scale - d.scale)

/-- What a truncated division leaves, with the sign of the dividend. -/
def remainder (x y : Decimal) : Decimal :=
  let scale := max x.scale y.scale
  ⟨x.negative, x.mantissaAt scale % y.mantissaAt scale, scale⟩

def order (x y : Decimal) : Ordering :=
  let scale := max x.scale y.scale
  compare (Numeral.withSign x.negative (x.mantissaAt scale))
    (Numeral.withSign y.negative (y.mantissaAt scale))

/-- Products and quotients of decimals, absent if they are out of range or not defined. -/
structure Library where
  product : Decimal → Decimal → Option Decimal
  quotient : Decimal → Decimal → Option Decimal

end LowestTerms.Decimal
