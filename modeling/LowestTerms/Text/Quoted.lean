import LowestTerms.Text.Visible

/-!
Text between double quotes, each character that is not visible on its own escaped. The characters
that have an escape of their own are written with one letter, all others by their code point.
-/

namespace LowestTerms.Text

def escapeCodePoint (character : Char) : List Char :=
  "\\u\x7b".toList ++ Nat.toDigits 16 character.toNat ++ ['\x7d']

def escape (character : Char) : List Char :=
  match character with
  | '\x00' => "\\0".toList
  | '\t' => "\\t".toList
  | '\n' => "\\n".toList
  | '\r' => "\\r".toList
  | '"' => "\\\"".toList
  | '\\' => "\\\\".toList
  | other => if isVisible other then [other] else escapeCodePoint other

def quote (text : String) : String :=
  String.ofList ('"' :: text.toList.flatMap escape ++ ['"'])

end LowestTerms.Text
