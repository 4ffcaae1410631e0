import RawPost.Number.Binary64
import RawPost.Number.Integer

/-!
# Decimal numbers

The text of a decimal number is an optional sign and either a word for an infinity or for what is no
number, without regard to case, or a run of digits with at most one point and an optional exponent.  On
each side of the point the digits may be missing, but not on both; underscores are those of integer
numerals, so none stands beside the point or the exponent mark.
-/

namespace RawPost.Number

open Text

/-- A run of digits that may be missing. -/
def optionalDigits? (run : List Char) : Option (List Nat) :=
  if run.isEmpty then some [] else groupedDigits? run

/-- The power of ten after the exponent mark, zero where there is no mark. -/
def readExponent? : List Char → Option Int
  | [] => some 0
  | _ :: rest => do
    let (negative, run) := splitSign rest
    return applySign negative (digitsValue (← groupedDigits? run))

def isExponentMark (c : Char) : Bool :=
  c == 'e' || c == 'E'

def readScaled? (text : List Char) : Option (Nat × Int) := do
  let (mantissa, exponentPart) := text.span (!isExponentMark ·)
  let (whole, fractionPart) := mantissa.span (· != '.')
  let wholeDigits ← optionalDigits? whole
  let fractionDigits ← optionalDigits? (fractionPart.drop 1)
  if wholeDigits.isEmpty && fractionDigits.isEmpty then
    none
  else
    let exponent ← readExponent? exponentPart
    return (digitsValue (wholeDigits ++ fractionDigits), exponent - fractionDigits.length)

def infinityWords : List String := ["inf", "infinity"]

def nanWord : String := "nan"

def readDecimal? (text : String) : Option Binary64 := do
  let (negative, unsigned) := splitSign (trimBoth isSpace text.toList)
  let word := lower (String.ofList unsigned)
  if infinityWords.contains word then
    return .infinity negative
  else if word = nanWord then
    return .nan
  else
    let (digits, exponent) ← readScaled? unsigned
    return .ofDecimal negative digits exponent

end RawPost.Number
