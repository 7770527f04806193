import LowestTerms.Fraction.Binary
import LowestTerms.Fraction.Decimal
import LowestTerms.Fraction.Integer
import LowestTerms.Session.Answer
import LowestTerms.Session.Operation

/-!
The answer to an operation on given fractions, and the effect of an assigning step on a fraction.
Decimals are multiplied and divided by the standard library. An assigning division takes the
dividend away before it divides, so that a division by zero leaves an undefined fraction behind;
every other change is made only after it is computed.
-/

namespace LowestTerms.Session

def Constant.value : Constant → Fraction
  | pi => Fraction.piApproximation
  | euler => Fraction.eulerApproximation
  | zero => Fraction.zero
  | one => Fraction.one
  | undefined => Fraction.undefined

def Source.fraction : Source → Except Failure Fraction
  | parts dividend divisor => Fraction.ofParts dividend divisor
  | partsOrZero dividend divisor => .ok (Fraction.ofPartsOrZero dividend divisor)
  | integer value => .ok (Fraction.ofInt value)
  | texts dividend divisor => Fraction.readParts dividend divisor
  | literal written => Fraction.readLiteral written
  | text written => Fraction.read written
  | decimal value => .ok (Fraction.ofDecimal value)
  | binary format value => Fraction.ofBinary format value
  | constant which => .ok which.value

def Unary.apply (which : Unary) (x : Fraction) : Except Failure Fraction :=
  match which with
  | copy => .ok x
  | negate => .ok (-x)
  | absolute => .ok x.abs
  | invert => x.invert
  | increment => .ok x.increment
  | decrement => .ok x.decrement
  | floor => .ok x.floor
  | ceil => .ok x.ceil

def Arithmetic.apply (which : Arithmetic) (x y : Fraction) : Except Abort Fraction :=
  match which with
  | add => .ok (x + y)
  | subtract => .ok (x - y)
  | multiply => .ok (x * y)
  | divide => x.divideOrAbort y

def Arithmetic.applyInt (which : Arithmetic) (side : Side) (x : Fraction) (n : Int) :
    Except Abort Fraction :=
  match which, side with
  | add, _ => .ok (x.addInt n)
  | subtract, .right => .ok (x.subInt n)
  | subtract, .left => .ok (Fraction.intSub n x)
  | multiply, _ => .ok (x.mulInt n)
  | divide, .right => x.divideInt n
  | divide, .left => Fraction.intDivide n x

def Query.apply (which : Query) (x : Fraction) : Answer :=
  match which with
  | profile => .result (.profile (.ofFraction x))
  | floorInt => .ofExcept (x.floorInt.map .integer)
  | ceilInt => .ofExcept (x.ceilInt.map .integer)
  | quotientAndRemainder =>
    .result (.quotientAndRemainder x.quotientAndRemainder.1 x.quotientAndRemainder.2)
  | decimal => .ofExcept ((x.toDecimal .standard).map .decimal)
  | double => .result (.binary Binary.double x.toDouble)
  | roundedDouble digits =>
    .ofInterruptible ((x.toRoundedDouble .standard digits).map (.binary Binary.double))
  | integer type =>
    match x.toInteger? type with
    | some n => .result (.integer n)
    | none => .result .absent
  | single => .result (.binary Binary.single (x.toDouble.convert Binary.double Binary.single))
  | document => .result (.document (.ofFraction x))

def bitLength (n : Nat) : Nat := if n = 0 then 0 else n.log2 + 1

def roundByName (d : Decimal) (digits : Nat) (name : String) : Except Interruption Decimal := do
  let mode ← (RoundingMode.ofName name).mapError .failed
  d.round .standard digits mode

def evaluate : Operation Fraction → Answer
  | .create source => .ofExcept (source.fraction.map .fraction)
  | .createIfFinite source =>
    match source.fraction with
    | .ok x => .result (.fraction x)
    | .error _ => .result .absent
  | .readDocument document => .ofDocument (document.toFraction.map .fraction)
  | .unary which x => .ofExcept ((which.apply x).map .fraction)
  | .binary which x y => .ofAbortable (which.apply x y)
  | .checkedDivide x y => .ofExcept ((x.divide y).map .fraction)
  | .checkedDivideInt x n => .ofExcept ((x.divide (Fraction.ofInt n)).map .fraction)
  | .integer which side x n => .ofAbortable (which.applyInt side x n)
  | .multiplyDecimal .left x d => .result (.fraction (Fraction.decimalMul d x))
  | .multiplyDecimal .right x d => .result (.fraction (x.mulDecimal d))
  | .power x exponent => .ofExcept ((x.pow exponent).map .fraction)
  | .sum xs => .result (.fraction (Fraction.sum xs))
  | .product xs => .result (.fraction (Fraction.product xs))
  | .clamp x least greatest =>
    match x.clamp? least greatest with
    | some y => .result (.fraction y)
    | none => .aborted .boundsOutOfOrder
  | .query which x => which.apply x
  | .compare x y => .result (.comparison (.ofFractions x y))
  | .compareInt x n =>
    .result (.intComparison ⟨x.equalsInt n, x.orderInt n, Fraction.intOrder n x⟩)
  | .sort xs => .result (.fractions (Fraction.sort xs))
  | .distinct xs =>
    .result (.distinct (Fraction.hashedCount xs) ((Fraction.distinct xs).map Fraction.display))
  | .literalSize text =>
    .ofExcept ((Fraction.readLiteral text).map fun x =>
      .size (bitLength x.numerator.natAbs) (bitLength x.denominator.natAbs))
  | .round d digits mode => .ofInterruptible ((roundByName d digits mode).map .decimal)
  | .roundVerbatim d digits mode =>
    .ofInterruptible ((roundByName d digits mode).map .verbatimDecimal)
  | .roundAll d digits => .ofInterruptible ((d.roundAll .standard digits).map .decimals)
  | .modeOfTag tag => .ofExcept ((RoundingMode.ofTag tag).map .mode)
  | .modeOfName name => .ofExcept ((RoundingMode.ofName name).map .mode)
  | .modes => .result (.modes RoundingMode.all)
  | .writeMode name =>
    .ofExcept ((RoundingMode.ofName name).map fun mode => .document (.ofMode mode))
  | .readMode document => .ofDocument (document.toMode.map fun mode => .document (.ofMode mode))
  | .describe error => .result (.explanation (.unreadable error))

/-- What a change leaves in place of `x`, and what it answers. -/
def Change.apply (x : Fraction) : Change Fraction → Fraction × Answer
  | combine which y =>
    match which.apply x y with
    | .ok combined => (combined, .result (.fraction combined))
    | .error abort => (Fraction.undefined, .aborted abort)
  | addInt n => replace (x.addInt n)
  | subtractInt n => replace (x.subInt n)
  | multiplyInt n => replace (x.mulInt n)
  | setZero => replace Fraction.zero
  | setOne => replace Fraction.one
where
  replace (changed : Fraction) : Fraction × Answer := (changed, .result (.fraction changed))

end LowestTerms.Session
