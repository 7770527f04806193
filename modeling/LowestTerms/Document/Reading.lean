import LowestTerms.Decimal.Rounding
import LowestTerms.Document.Basic
import LowestTerms.Fraction.Text

/-!
Fractions and rounding modes as values of a structured document. Both are written as text. A
fraction is read from text only; a mode also from a map whose single entry has the name of the mode
as its key and nothing under it. Text that says nothing is refused with the words of the reader that
refused it.
-/

namespace LowestTerms

/-- What a reader is ready to find. -/
inductive Expectation where
  | text
  | textOrMap
  | nothing
  deriving DecidableEq, Repr

def Expectation.describe : Expectation → String
  | text => "a string"
  | textOrMap => "string or map"
  | nothing => "unit"

inductive DocumentError where
  | unexpected (found : Document.Shape) (expectation : Expectation)
  | notSingleEntry
  | failed (failure : Failure)
  | unknownMode (name : String)
  deriving DecidableEq, Repr

def DocumentError.message : DocumentError → String
  | unexpected found expectation =>
    "invalid type: " ++ found.describe ++ ", expected " ++ expectation.describe
  | notSingleEntry => "invalid value: map, expected map with a single key"
  | failed failure => failure.display
  | unknownMode name =>
    "unknown variant " ++ Document.marked name ++ ", expected one of " ++
      ", ".intercalate (RoundingMode.all.map (fun mode => Document.marked mode.name))

namespace Document

def ofFraction (x : Fraction) : Document := text x.display

def toFraction : Document → Except DocumentError Fraction
  | text written => (Fraction.read written).mapError .failed
  | other => .error (.unexpected other.shape .text)

def ofMode (mode : RoundingMode) : Document := text mode.name

def modeOfName (name : String) : Except DocumentError RoundingMode :=
  (RoundingMode.ofName name).mapError (fun _ => .unknownMode name)

def expectNothing : Document → Except DocumentError Unit
  | null => .ok ()
  | other => .error (.unexpected other.shape .nothing)

def toMode : Document → Except DocumentError RoundingMode
  | text name => modeOfName name
  | map [(name, content)] => do
    let mode ← modeOfName name
    content.expectNothing
    return mode
  | map _ => .error .notSingleEntry
  | other => .error (.unexpected other.shape .textOrMap)

end Document

end LowestTerms
