import RawPost.Number.Integer
import RawPost.Number.Rounding

/-!
# Scientific form

A natural number in scientific form is its first digit, the digits that follow without the zeros at their
end, and the power of ten of the first digit.  A number of more digits than there are places is rounded to
the nearest that fits into them, ties to an even last digit; a carry may add to the power of ten.
-/

namespace RawPost.Number

structure Scientific where
  first : Char
  rest : List Char
  exponent : Nat
  deriving DecidableEq, Repr

def withoutFinalZeros (digits : List Char) : List Char :=
  (digits.reverse.dropWhile (· == '0')).reverse

namespace Scientific

def ofNat (places n : Nat) : Scientific :=
  let dropped := (digitsIn 10 n).length - places
  let digits := digitsIn 10 (nearestQuotient n (Nat.pow 10 dropped))
  {
    first := digits.headD '0'
    rest := withoutFinalZeros digits.tail
    exponent := dropped + digits.tail.length }

/-- How many of the places are free after the last digit. -/
def freePlaces (number : Scientific) (places : Nat) : Nat :=
  places - (number.rest.length + 1)

end Scientific

end RawPost.Number
