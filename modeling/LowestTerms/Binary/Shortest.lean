import LowestTerms.Binary.Format

/-!
The shortest decimal of a binary magnitude: the coarsest grid of multiples of a power of ten that
has a point which is rounded back to the magnitude. Only the two grid points around the magnitude
are tried, the nearer one first; which one that is in the middle between them, a rule for ties
says. A decimal found this way has no zero as its last digit, and can be written with its point in
place or after the leading digit.
-/

namespace LowestTerms.Binary

/-- A decimal magnitude `coefficient * 10 ^ exponent`. -/
structure Shortest where
  coefficient : Nat
  exponent : Int
  deriving DecidableEq, Repr

namespace Shortest

def powerOfTen (exponent : Int) : Nat × Nat :=
  (Nat.pow 10 exponent.toNat, Nat.pow 10 (-exponent).toNat)

def quotient (shortest : Shortest) : Nat × Nat :=
  let (up, down) := powerOfTen shortest.exponent
  (shortest.coefficient * up, down)

def readsBack (format : Format) (index : Nat) (shortest : Shortest) : Bool :=
  format.nearest shortest.quotient.1 shortest.quotient.2 == index

/-- The two points of a grid around a quotient, in the order in which they are tried. -/
def neighbours (tie : Tie) (dividend divisor : Nat) (exponent : Int) : List Shortest :=
  let (up, down) := powerOfTen exponent
  let below := dividend * down / (divisor * up)
  if nearestInteger tie (dividend * down) (divisor * up) = below then
    [⟨below, exponent⟩, ⟨below + 1, exponent⟩]
  else [⟨below + 1, exponent⟩, ⟨below, exponent⟩]

/-- Tries one grid after the other, each ten times finer. -/
def search (tie : Tie) (format : Format) (index : Nat) (exponent : Int) : Nat → Option Shortest
  | 0 => none
  | grids + 1 =>
    let (dividend, divisor) := format.magnitude index
    match (neighbours tie dividend divisor exponent).find? (readsBack format index) with
    | some found => some found
    | none => search tie format index (exponent - 1) grids

/-- On the grid of `10 ^ -places`, every magnitude of at most that many binary places lies. -/
def exact (dividend divisor : Nat) : Shortest :=
  let places := divisor.log2
  ⟨dividend * Nat.pow 10 places / divisor, -(places : Int)⟩

/-- The shortest decimal of a numbered magnitude. The search starts above the leading digit and
ends on the grid on which the magnitude lies. -/
def ofIndex (tie : Tie) (format : Format) (index : Nat) : Shortest :=
  let (dividend, divisor) := format.magnitude index
  let leading := (Nat.toDigits 10 (dividend / divisor)).length
  match search tie format index leading (leading + divisor.log2) with
  | some found => found
  | none => exact dividend divisor

def digits (shortest : Shortest) : List Char := Nat.toDigits 10 shortest.coefficient

def leadingExponent (shortest : Shortest) : Int :=
  shortest.exponent + shortest.digits.length - 1

/-- All digits around a point, at least one on either side. -/
def positional (shortest : Shortest) : String :=
  let (dividend, divisor) := shortest.quotient
  let places := (-shortest.exponent).toNat
  let fractional := Nat.toDigits 10 (dividend % divisor)
  Nat.repr (dividend / divisor) ++ "." ++
    String.ofList (List.replicate (places - fractional.length) '0' ++ fractional)

/-- One digit before the point, which is left out if no digit follows, and a signed exponent. -/
def scientific (shortest : Shortest) : String :=
  let following := shortest.digits.drop 1
  String.ofList (shortest.digits.take 1 ++ if following.isEmpty then [] else '.' :: following) ++
    (if shortest.leadingExponent < 0 then "e-" else "e+") ++
    Nat.repr shortest.leadingExponent.natAbs

end Shortest

end LowestTerms.Binary
