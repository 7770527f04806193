/-!
The integer nearest to a quotient of natural numbers, decided on quotient and remainder alone. A
quotient that lies in the middle between two integers goes where a rule for ties sends it.
-/

namespace LowestTerms

/-- Where a quotient goes that lies in the middle between two integers. -/
inductive Tie where
  | even
  | up
  deriving DecidableEq, Repr

def Tie.choose : Tie → Nat → Nat
  | even, below => below + below % 2
  | up, below => below + 1

def nearestInteger (tie : Tie) (dividend divisor : Nat) : Nat :=
  let below := dividend / divisor
  let rest := dividend % divisor
  if 2 * rest < divisor then below
  else if divisor < 2 * rest then below + 1
  else tie.choose below

end LowestTerms
