import LowestTerms.Binary.Format
import LowestTerms.Decimal.Rounding
import LowestTerms.Document.Reading
import LowestTerms.Fraction.Order

/-!
What a session answers: a result of one of several kinds, or one of the ways to come to none.
-/

namespace LowestTerms.Session

structure Profile where
  numerator : Int
  denominator : Int
  display : String
  sign : Int
  isZero : Bool
  isOne : Bool
  isWhole : Bool
  isUndefined : Bool
  deriving DecidableEq, Repr

def Profile.ofFraction (x : Fraction) : Profile where
  numerator := x.numerator
  denominator := x.denominator
  display := x.display
  sign := x.sign
  isZero := x.isZero
  isOne := x.isOne
  isWhole := x.isWhole
  isUndefined := x.isUndefined

structure Comparison where
  order : Ordering
  partialOrder : Option Ordering
  equal : Bool
  sameHash : Bool
  larger : Fraction
  smaller : Fraction
  deriving DecidableEq, Repr

def Comparison.ofFractions (x y : Fraction) : Comparison where
  order := x.order y
  partialOrder := x.partialOrder y
  equal := x == y
  sameHash := x.hashKey == y.hashKey
  larger := x.larger y
  smaller := x.smaller y

structure IntComparison where
  equal : Bool
  order : Ordering
  reversed : Ordering
  deriving DecidableEq, Repr

inductive Result where
  | fraction (x : Fraction)
  | absent
  | integer (n : Int)
  | quotientAndRemainder (quotient remainder : Fraction)
  | profile (profile : Profile)
  | decimal (d : Decimal)
  | verbatimDecimal (d : Decimal)
  | decimals (ds : List Decimal)
  | binary (format : Binary.Format) (value : Binary.Datum)
  | document (document : Document)
  | comparison (comparison : Comparison)
  | intComparison (comparison : IntComparison)
  | fractions (xs : List Fraction)
  | distinct (hashed : Nat) (ordered : List String)
  | mode (mode : RoundingMode)
  | modes (modes : List RoundingMode)
  | size (numeratorBits denominatorBits : Nat)
  | explanation (failure : Failure)

inductive Answer where
  | result (result : Result)
  | failed (failure : Failure)
  | aborted (abort : Abort)
  | refused (error : DocumentError)
  | unsetRegister (name : String)

namespace Answer

def ofExcept : Except Failure Result → Answer
  | .ok found => .result found
  | .error failure => failed failure

def ofAbortable : Except Abort Fraction → Answer
  | .ok x => result (.fraction x)
  | .error abort => aborted abort

def ofInterruptible : Except Interruption Result → Answer
  | .ok found => .result found
  | .error (.failed failure) => failed failure
  | .error (.aborted abort) => aborted abort

def ofDocument : Except DocumentError Result → Answer
  | .ok found => .result found
  | .error error => refused error

def fraction? : Answer → Option Fraction
  | result (.fraction x) => some x
  | _ => none

/-- A failure becomes the result, every other answer stays. -/
def explain : Answer → Answer
  | failed failure => result (.explanation failure)
  | answer => answer

end Answer

end LowestTerms.Session
