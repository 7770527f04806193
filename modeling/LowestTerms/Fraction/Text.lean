import LowestTerms.Fraction.Basic
import LowestTerms.Literal

/-!
Fractions as text. A fraction is written as its two parts with a slash between them, also when it
is whole; reading takes that form or a decimal literal, and tells them apart by the first slash.
-/

namespace LowestTerms.Fraction

/-- The two parts as they are read, so that an undefined fraction is written as zero. -/
def display (x : Fraction) : String :=
  Numeral.write x.numerator ++ "/" ++ Numeral.write x.denominator

instance : ToString Fraction := ⟨display⟩

def ofLiteral (literal : Literal) : Fraction :=
  if literal.digits = 0 then zero
  else reduce (Numeral.withSign literal.negative literal.digits) (Int.pow 10 literal.decimals)

def readLiteral (text : String) : Except Failure Fraction :=
  match Literal.scan text.toList with
  | .ok literal => .ok (ofLiteral literal)
  | .error diagnosis => .error (.unreadable (diagnosis.about text))

/-- One of the two integers of a quotient; `purpose` says which. -/
def readPart (purpose text : String) : Except Failure Int :=
  match Numeral.readInteger text.toList with
  | .ok value => .ok value
  | .error diagnosis => .error (.unreadable (.wrapped purpose (diagnosis.about text)))

/-- The quotient of two integers that are written apart. The dividend is looked at first. -/
def readParts (dividend divisor : String) : Except Failure Fraction := do
  let dividendValue ← readPart "could not read numerator" dividend
  let divisorValue ← readPart "could not read denominator" divisor
  ofParts dividendValue divisorValue

def marksQuotient (character : Char) : Bool := character == '/'

def read (text : String) : Except Failure Fraction :=
  match Numeral.cut marksQuotient text.toList with
  | (_, none) => readLiteral text
  | (dividend, some divisor) => readParts (String.ofList dividend) (String.ofList divisor)

end LowestTerms.Fraction
