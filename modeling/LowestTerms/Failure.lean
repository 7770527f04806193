/-!
The ways in which exact arithmetic can fail, each a cause of its own, and the words for them.
A failure to read text is layered: a reader may wrap the error of a reader it called, and the
innermost layer usually keeps the offending text. `ReadError.display` renders all layers in one
line, `ReadError.chain` unwinds them one by one. A `Failure` is reported to whoever asked; an
`Abort` breaks the operation off and is reported to nobody.
-/

namespace LowestTerms

/-- Text that could not be read, with the layers that readers put around the first complaint. -/
inductive ReadError where
  | bare (description : String)
  | reading (description text : String)
  | wrapped (description : String) (inner : ReadError)
  deriving DecidableEq, Repr

namespace ReadError

def description : ReadError → String
  | bare description => description
  | reading description _ => description
  | wrapped description _ => description

/-- All layers from the outside in, the offending text verbatim at the end. -/
def layers : ReadError → String
  | bare description => description
  | reading description text => description ++ ": while reading \"" ++ text ++ "\""
  | wrapped description inner => description ++ ": " ++ inner.layers

def display (error : ReadError) : String :=
  "ParseError: " ++ error.layers

def chain : ReadError → List ReadError
  | wrapped description inner => wrapped description inner :: inner.chain
  | bare description => [bare description]
  | reading description text => [reading description text]

/-- The first complaint, about `text` if there is one. -/
def innermost (description : String) : Option String → ReadError
  | none => bare description
  | some text => reading description text

/-- One more layer for each description, the last one outermost. -/
def wrapAll (error : ReadError) (descriptions : List String) : ReadError :=
  descriptions.foldl (fun inner description => wrapped description inner) error

end ReadError

inductive DomainError where
  | zeroToZero
  | zeroToNegative
  deriving DecidableEq, Repr

def DomainError.message : DomainError → String
  | zeroToZero => "cannot compute 0^0"
  | zeroToNegative => "cannot raise zero to a negative power"

inductive Overflow where
  | floor
  | ceiling
  | wholeDecimal
  | decimal
  | roundingFactor
  | shiftedDecimal
  | roundedDecimal
  deriving DecidableEq, Repr

def Overflow.message : Overflow → String
  | floor => "floor does not fit into an i64"
  | ceiling => "ceiling does not fit into an i64"
  | wholeDecimal => "integer is outside of the decimal range"
  | decimal => "value is outside of the decimal range"
  | roundingFactor => "rounding factor is outside of the decimal range"
  | shiftedDecimal => "value is too large to round at this many digits"
  | roundedDecimal => "rounded value is outside of the decimal range"

inductive Failure where
  | divisionByZero
  | domain (cause : DomainError)
  | unreadable (error : ReadError)
  | overflow (result : Overflow)
  | unrecognizedMode (text : String)
  deriving DecidableEq, Repr

namespace Failure

def display : Failure → String
  | divisionByZero => "division by zero"
  | domain cause => "domain error: " ++ cause.message
  | unreadable error => error.display
  | overflow result => "overflow: " ++ result.message
  | unrecognizedMode text => "rounding mode \"" ++ text ++ "\" is not recognized"

def description : Failure → Option String
  | unreadable error => some error.description
  | _ => none

def sources : Failure → List String
  | unreadable error => error.chain.map ReadError.display
  | _ => []

end Failure

inductive Abort where
  | unhandled (failure : Failure)
  | boundsOutOfOrder
  | decimalProduct
  deriving DecidableEq, Repr

def Abort.message : Abort → String
  | unhandled failure => failure.display
  | boundsOutOfOrder => "assertion failed: min <= max"
  | decimalProduct => "Multiplication overflowed"

/-- The two ways for an operation to end without a result. -/
inductive Interruption where
  | failed (failure : Failure)
  | aborted (abort : Abort)
  deriving DecidableEq, Repr

end LowestTerms
