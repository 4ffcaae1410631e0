import RawPost.Text.DecimalDigit
import RawPost.Text.WhiteSpace

/-!
# Integers and their numerals

A numeral is an optional sign and a run of decimal digits of any script, in which single underscores may
stand between two digits; white space around it does not count.  A numeral of more than 4300 digits is
refused whatever its value, leading zeros included, and an integer that would take so many is not written
either.
-/

namespace RawPost.Number

open Text

def maxDigits : Nat := 4300

/-- Splits an optional sign from a numeral; `true` is the minus. -/
def splitSign : List Char → Bool × List Char
  | '-' :: rest => (true, rest)
  | '+' :: rest => (false, rest)
  | text => (false, text)

def applySign (negative : Bool) (magnitude : Nat) : Int :=
  if negative then -(magnitude : Int) else magnitude

/-- The digits of a run that begins and ends with a digit, single underscores between digits left out. -/
def groupedDigits? : List Char → Option (List Nat)
  | [] => none
  | [c] => (digitValue? c).map ([·])
  | c :: '_' :: rest => do
    let digit ← digitValue? c
    let digits ← groupedDigits? rest
    return digit :: digits
  | c :: rest => do
    let digit ← digitValue? c
    let digits ← groupedDigits? rest
    return digit :: digits

def readInteger? (text : String) : Option Int := do
  let (negative, run) := splitSign (trimBoth isSpace text.toList)
  let digits ← groupedDigits? run
  if digits.length ≤ maxDigits then
    return applySign negative (digitsValue digits)
  else
    none

def digitsIn (base n : Nat) : List Char :=
  Nat.toDigits base n

/-- The numeral of an integer, however many digits it takes. -/
def integerText (n : Int) : String :=
  String.ofList ((if n < 0 then ['-'] else []) ++ digitsIn 10 n.natAbs)

/-- The digits of an integer are not too many for it to be written. -/
def IsWritable (n : Int) : Prop :=
  (digitsIn 10 n.natAbs).length ≤ maxDigits

instance (n : Int) : Decidable (IsWritable n) :=
  inferInstanceAs (Decidable ((digitsIn 10 n.natAbs).length ≤ maxDigits))

/-- The numeral of an integer that can be written. -/
def writeInteger? (n : Int) : Option String :=
  if IsWritable n then some (integerText n) else none

def unwritableMessage : String :=
  "Exceeds the limit (" ++ integerText maxDigits ++
    " digits) for integer string conversion; use sys.set_int_max_str_digits() to increase the limit"

end RawPost.Number
