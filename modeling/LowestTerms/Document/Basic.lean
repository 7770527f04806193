import LowestTerms.Document.Number
import LowestTerms.Text.Quoted

/-!
Values of a structured document, and what readers say about a value that they did not expect.
-/

namespace LowestTerms

inductive Document where
  | null
  | boolean (value : Bool)
  | number (value : Document.Number)
  | text (value : String)
  | sequence (members : List Document)
  | map (entries : List (String × Document))

namespace Document

inductive Shape where
  | null
  | boolean (value : Bool)
  | number (value : Number)
  | text (value : String)
  | sequence
  | map
  deriving DecidableEq, Repr

def shape : Document → Shape
  | null => .null
  | boolean value => .boolean value
  | number value => .number value
  | text value => .text value
  | sequence _ => .sequence
  | map _ => .map

def Shape.describe : Shape → String
  | null => "null"
  | boolean value => "boolean " ++ marked (if value then "true" else "false")
  | number value => value.describe
  | text value => "string " ++ Text.quote value
  | sequence => "sequence"
  | map => "map"

end Document

end LowestTerms
