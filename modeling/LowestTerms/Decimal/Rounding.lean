import LowestTerms.Decimal.Arithmetic
import LowestTerms.Failure

/-!
Rounding decimals to a number of digits. The point of the magnitude is moved to the right, the
integer above or below is taken, and the point is moved back. Which of the two integers it is, a
mode decides from the sign or from what is discarded; the modes that look at parity hand ties over
to one of the other two half modes. A decimal that has no more digits than asked for is left as it
is, scale and sign included.
-/

namespace LowestTerms

inductive RoundingMode where
  | ceiling
  | floor
  | down
  | up
  | halfDown
  | halfUp
  | halfEven
  | halfOdd
  deriving DecidableEq, Repr

namespace RoundingMode

def all : List RoundingMode :=
  [ceiling, floor, down, up, halfDown, halfUp, halfEven, halfOdd]

def tag : RoundingMode → Nat
  | ceiling => 0
  | floor => 1
  | down => 2
  | up => 3
  | halfDown => 4
  | halfUp => 5
  | halfEven => 6
  | halfOdd => 7

def name : RoundingMode → String
  | ceiling => "Ceiling"
  | floor => "Floor"
  | down => "Down"
  | up => "Up"
  | halfDown => "HalfDown"
  | halfUp => "HalfUp"
  | halfEven => "HalfEven"
  | halfOdd => "HalfOdd"

def ofTag (tag : Nat) : Except Failure RoundingMode :=
  match all[tag]? with
  | some mode => .ok mode
  | none => .error (.unrecognizedMode (Nat.repr tag))

def ofName (text : String) : Except Failure RoundingMode :=
  match all.find? (fun mode => mode.name == text) with
  | some mode => .ok mode
  | none => .error (.unrecognizedMode text)

/-- How many times a mode hands the decision over to another one. -/
def rank : RoundingMode → Nat
  | halfEven => 1
  | halfOdd => 1
  | _ => 0

end RoundingMode

namespace Decimal

def half : Decimal := ⟨false, 5, 1⟩

def two : Decimal := ⟨false, 2, 0⟩

def powerOfTen (digits : Nat) : Except Interruption Decimal :=
  match ofInt? (Int.pow 10 digits) with
  | some factor => .ok factor
  | none => .error (.failed (.overflow .roundingFactor))

variable (library : Library)

def shifted (d factor : Decimal) : Except Interruption Decimal :=
  match library.product d.abs factor with
  | some magnitude => .ok magnitude
  | none => .error (.failed (.overflow .shiftedDecimal))

/-- Moves the point of a magnitude back and restores the sign. -/
def unshift (d magnitude factor : Decimal) : Except Interruption Decimal :=
  match library.quotient magnitude factor with
  | none => .error (.failed (.overflow .roundedDecimal))
  | some unsigned =>
    match library.product d.signum unsigned with
    | some rounded => .ok rounded
    | none => .error (.aborted .decimalProduct)

/-- Away from zero. -/
def roundUp (d factor : Decimal) : Except Interruption Decimal := do
  let magnitude ← shifted library d factor
  unshift library d magnitude.ceil factor

/-- Toward zero. -/
def roundDown (d factor : Decimal) : Except Interruption Decimal := do
  let magnitude ← shifted library d factor
  unshift library d magnitude.floor factor

/-- Away from zero if the discarded part passes a test, otherwise toward zero. -/
def roundOn (increases : Decimal → Bool) (d factor : Decimal) : Except Interruption Decimal := do
  let magnitude ← shifted library d factor
  if increases magnitude.fract then roundUp library d factor else roundDown library d factor

def round (d : Decimal) (digits : Nat) (mode : RoundingMode) : Except Interruption Decimal :=
  if maxScale < digits || d.scale ≤ digits then .ok d
  else do
    let factor ← powerOfTen digits
    match mode with
    | .ceiling => if d.negative then roundDown library d factor else roundUp library d factor
    | .floor => if d.negative then roundUp library d factor else roundDown library d factor
    | .up => roundUp library d factor
    | .down => roundDown library d factor
    | .halfUp => roundOn library (fun discarded => (order discarded half).isGE) d factor
    | .halfDown => roundOn library (fun discarded => (order discarded half).isGT) d factor
    | .halfEven =>
      let magnitude ← shifted library d factor
      round d digits (if (magnitude.floor.remainder two).isZero then .halfDown else .halfUp)
    | .halfOdd =>
      let magnitude ← shifted library d factor
      round d digits (if (magnitude.floor.remainder two).isZero then .halfUp else .halfDown)
termination_by mode.rank
decreasing_by all_goals split <;> decide

def roundAll (d : Decimal) (digits : Nat) : Except Interruption (List Decimal) :=
  RoundingMode.all.mapM (round library d digits)

end Decimal

end LowestTerms
