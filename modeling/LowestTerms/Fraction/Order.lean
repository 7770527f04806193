import LowestTerms.Fraction.Basic

/-!
Order and equality of fractions. Equality compares the parts as they are read, the order compares
products, and hashing uses the same parts as equality; undefined fractions are zero to all three.
-/

namespace LowestTerms.Fraction

def order (x y : Fraction) : Ordering :=
  if x.denominator = y.denominator then compare x.numerator y.numerator
  else compare (x.numerator * y.denominator) (x.denominator * y.numerator)

instance : Ord Fraction := ⟨order⟩

/-- Any two fractions can be compared. -/
def partialOrder (x y : Fraction) : Option Ordering := some (order x y)

instance : BEq Fraction := ⟨fun x y => x.parts == y.parts⟩

def hashKey (x : Fraction) : Int × Int := x.parts

instance : Hashable Fraction := ⟨fun x => hash x.hashKey⟩

def atMost (x y : Fraction) : Bool := order x y != .gt

/-- The greater of two, the second if they are equal. -/
def larger (x y : Fraction) : Fraction := if order x y = .gt then x else y

/-- The lesser of two, the first if they are equal. -/
def smaller (x y : Fraction) : Fraction := if order x y = .gt then y else x

def clamp? (x least greatest : Fraction) : Option Fraction :=
  if !atMost least greatest then none
  else if order x least = .lt then some least
  else if order x greatest = .gt then some greatest
  else some x

/-- Ascending, equal fractions in the order in which they came. -/
def sort (xs : List Fraction) : List Fraction := xs.mergeSort atMost

def hashedCount (xs : List Fraction) : Nat := (xs.map hashKey).eraseDups.length

def insertDistinct (x : Fraction) : List Fraction → List Fraction
  | [] => [x]
  | y :: rest =>
    match order x y with
    | .lt => x :: y :: rest
    | .eq => y :: rest
    | .gt => y :: insertDistinct x rest

def distinct (xs : List Fraction) : List Fraction :=
  xs.foldl (fun members x => insertDistinct x members) []

end LowestTerms.Fraction
