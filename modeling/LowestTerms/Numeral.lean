import LowestTerms.Failure

/-!
Decimal numerals as lists of characters: an optional sign followed by ASCII digits. Reading names
the first fault it meets. Leading zeros carry no meaning, and all of zero's spellings are zero.
-/

namespace LowestTerms

inductive Diagnosis where
  | emptyText
  | noDigits
  | expectedDigits
  | unexpectedCharacter (found : Char)
  | unreadableDigits
  | exponentNotNegative
  | malformedExponent
  | exponentTooLarge
  | tooManyDecimals
  deriving DecidableEq, Repr

namespace Diagnosis

def message : Diagnosis → String
  | emptyText => "empty text is not a number"
  | noDigits => "there are no digits"
  | expectedDigits => "expected digits"
  | unexpectedCharacter found => "unexpected character '" ++ String.singleton found ++ "'"
  | unreadableDigits => "digits could not be read"
  | exponentNotNegative => "only a negative exponent is supported"
  | malformedExponent => "malformed exponent"
  | exponentTooLarge => "exponent is too large"
  | tooManyDecimals => "too many decimals"

/-- The diagnosis together with the complete text it is about, which empty text does not have. -/
def about (text : String) (diagnosis : Diagnosis) : ReadError :=
  match diagnosis with
  | emptyText => .bare diagnosis.message
  | _ => .reading diagnosis.message text

end Diagnosis

namespace Numeral

/-- Takes off at most one sign; `true` stands for a minus. -/
def splitSign : List Char → Bool × List Char
  | '-' :: rest => (true, rest)
  | '+' :: rest => (false, rest)
  | characters => (false, characters)

/-- Cuts before the first character that satisfies `marks`, and drops that character. -/
def cut (marks : Char → Bool) (characters : List Char) : List Char × Option (List Char) :=
  (characters.takeWhile (fun character => !marks character),
    (characters.dropWhile (fun character => !marks character)).tail?)

def magnitude? (digits : List Char) : Option Nat :=
  if digits.isEmpty || digits.any (fun character => !character.isDigit) then none
  else some (Nat.ofDigitChars 10 digits 0)

def readDigits (characters : List Char) : Except Diagnosis Nat :=
  if characters.isEmpty then .error .expectedDigits
  else
    match characters.find? (fun character => !character.isDigit) with
    | some found => .error (.unexpectedCharacter found)
    | none =>
      let significant := characters.dropWhile (· == '0')
      if significant.isEmpty then .ok 0
      else
        match magnitude? significant with
        | some magnitude => .ok magnitude
        | none => .error .unreadableDigits

def withSign (negative : Bool) (magnitude : Nat) : Int :=
  if negative then -(magnitude : Int) else magnitude

def readInteger (characters : List Char) : Except Diagnosis Int :=
  let (negative, digits) := splitSign characters
  (readDigits digits).map (withSign negative)

/-- Digits without leading zeros, after a minus if the integer is negative. -/
def write (value : Int) : String :=
  (if value < 0 then "-" else "") ++ Nat.repr value.natAbs

end Numeral

end LowestTerms
