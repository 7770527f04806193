import LowestTerms.Binary.Format
import LowestTerms.Decimal.Basic
import LowestTerms.Document.Basic
import LowestTerms.Fraction.Whole

/-!
The operations that a session can ask for, as data. Their fraction operands are of any type, so
that one operation can hold register names, fractions, or two versions of an operand at once:
`map` changes the operands and `operands` lists them.
-/

namespace LowestTerms.Session

inductive Arithmetic where
  | add
  | subtract
  | multiply
  | divide
  deriving DecidableEq, Repr

/-- On which side of a fraction the other operand stands. -/
inductive Side where
  | left
  | right
  deriving DecidableEq, Repr

inductive Unary where
  | copy
  | negate
  | absolute
  | invert
  | increment
  | decrement
  | floor
  | ceil
  deriving DecidableEq, Repr

inductive Constant where
  | pi
  | euler
  | zero
  | one
  | undefined
  deriving DecidableEq, Repr

inductive Source where
  | parts (dividend divisor : Int)
  | partsOrZero (dividend divisor : Int)
  | integer (value : Int)
  | texts (dividend divisor : String)
  | literal (text : String)
  | text (text : String)
  | decimal (value : Decimal)
  | binary (format : Binary.Format) (value : Binary.Datum)
  | constant (which : Constant)
  deriving DecidableEq, Repr

inductive Query where
  | profile
  | floorInt
  | ceilInt
  | quotientAndRemainder
  | decimal
  | double
  | roundedDouble (digits : Nat)
  | integer (type : IntegerType)
  | single
  | document
  deriving DecidableEq, Repr

inductive Operation (α : Type) where
  | create (source : Source)
  /-- Like `create`, where a number that is no fraction is absent instead of a failure. -/
  | createIfFinite (source : Source)
  | readDocument (document : Document)
  | unary (which : Unary) (x : α)
  | binary (which : Arithmetic) (x y : α)
  | checkedDivide (x y : α)
  | checkedDivideInt (x : α) (n : Int)
  | integer (which : Arithmetic) (side : Side) (x : α) (n : Int)
  | multiplyDecimal (side : Side) (x : α) (d : Decimal)
  | power (x : α) (exponent : Int)
  | sum (xs : List α)
  | product (xs : List α)
  | clamp (x least greatest : α)
  | query (which : Query) (x : α)
  | compare (x y : α)
  | compareInt (x : α) (n : Int)
  | sort (xs : List α)
  | distinct (xs : List α)
  | literalSize (text : String)
  | round (d : Decimal) (digits : Nat) (mode : String)
  /-- Like `round`, the result shown with all its digits. -/
  | roundVerbatim (d : Decimal) (digits : Nat) (mode : String)
  | roundAll (d : Decimal) (digits : Nat)
  | modeOfTag (tag : Nat)
  | modeOfName (name : String)
  | modes
  | writeMode (name : String)
  | readMode (document : Document)
  | describe (error : ReadError)

namespace Operation

def map {α β : Type} (f : α → β) : Operation α → Operation β
  | create source => create source
  | createIfFinite source => createIfFinite source
  | readDocument document => readDocument document
  | unary which x => unary which (f x)
  | binary which x y => binary which (f x) (f y)
  | checkedDivide x y => checkedDivide (f x) (f y)
  | checkedDivideInt x n => checkedDivideInt (f x) n
  | integer which side x n => integer which side (f x) n
  | multiplyDecimal side x d => multiplyDecimal side (f x) d
  | power x exponent => power (f x) exponent
  | sum xs => sum (xs.map f)
  | product xs => product (xs.map f)
  | clamp x least greatest => clamp (f x) (f least) (f greatest)
  | query which x => query which (f x)
  | compare x y => compare (f x) (f y)
  | compareInt x n => compareInt (f x) n
  | sort xs => sort (xs.map f)
  | distinct xs => distinct (xs.map f)
  | literalSize text => literalSize text
  | round d digits mode => round d digits mode
  | roundVerbatim d digits mode => roundVerbatim d digits mode
  | roundAll d digits => roundAll d digits
  | modeOfTag tag => modeOfTag tag
  | modeOfName name => modeOfName name
  | modes => modes
  | writeMode name => writeMode name
  | readMode document => readMode document
  | describe error => describe error

def operands {α : Type} : Operation α → List α
  | unary _ x => [x]
  | binary _ x y => [x, y]
  | checkedDivide x y => [x, y]
  | checkedDivideInt x _ => [x]
  | integer _ _ x _ => [x]
  | multiplyDecimal _ x _ => [x]
  | power x _ => [x]
  | sum xs => xs
  | product xs => xs
  | clamp x least greatest => [x, least, greatest]
  | query _ x => [x]
  | compare x y => [x, y]
  | compareInt x _ => [x]
  | sort xs => xs
  | distinct xs => xs
  | _ => []

end Operation

inductive Change (α : Type) where
  | combine (which : Arithmetic) (y : α)
  | addInt (n : Int)
  | subtractInt (n : Int)
  | multiplyInt (n : Int)
  | setZero
  | setOne
  deriving Repr

namespace Change

def map {α β : Type} (f : α → β) : Change α → Change β
  | combine which y => combine which (f y)
  | addInt n => addInt n
  | subtractInt n => subtractInt n
  | multiplyInt n => multiplyInt n
  | setZero => setZero
  | setOne => setOne

def operands {α : Type} : Change α → List α
  | combine _ y => [y]
  | _ => []

end Change

end LowestTerms.Session
