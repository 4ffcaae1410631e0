import RawPost.Number.Integer

/-!
# Destinations

A destination is given by texts.  An empty host stands for the default one.  A port is the integer that
its text begins with, white space before it not counted, if that is a port at all; any other text stands
for the default port.
-/

namespace RawPost.Destination

open Text Number

def maxPort : Int := 65535

def hostOr (default text : String) : String :=
  if text.isEmpty then default else text

/-- A text begins with a number that has too many digits to be read. -/
structure TooManyDigits where
  count : Nat
  deriving DecidableEq, Repr

def TooManyDigits.message (excess : TooManyDigits) : String :=
  "Exceeds the limit (" ++ integerText maxDigits ++ " digits) for integer string conversion: value has " ++
    integerText excess.count ++
    " digits; use sys.set_int_max_str_digits() to increase the limit"

/-- The sign and the digits of the integer that a text begins with; there may be no digits. -/
def leadingInteger (text : List Char) : Bool × List Nat :=
  let (negative, run) := splitSign (text.dropWhile isBlank)
  (negative, (run.takeWhile isDigit).filterMap digitValue?)

def portOr (default : Int) (text : String) : Except TooManyDigits Int :=
  let (negative, digits) := leadingInteger text.toList
  if maxDigits < digits.length then
    .error ⟨digits.length⟩
  else
    let port := applySign negative (digitsValue digits)
    .ok (if 0 < port ∧ port ≤ maxPort then port else default)

end RawPost.Destination
