import RawPost.Number.Rounding

/-!
# Binary64 numbers

A number of the binary64 format is its word of 64 bits.  Without the sign bit the words are ordered as the
magnitudes they stand for, infinity is the word `0x7FF0000000000000`, and every larger one is no number.

A positive rational is rounded to the nearest word, ties to the even one, in exact arithmetic on natural
numbers: a step of the grid near it is a power of two not below `2 ^ (-1074)`, and the nearest multiple of
that step is at most `2 ^ 53` steps, so that the number of steps below the binade and the count inside it
add up to the word.
-/

namespace RawPost.Number

structure Binary64 where
  word : UInt64
  deriving DecidableEq, Repr

namespace Binary64

def signPlace : Nat := 0x8000000000000000

def infinityMagnitude : Nat := 0x7FF0000000000000

/-- The number of words between two powers of two. -/
def binadeSteps : Nat := 0x10000000000000

def magnitude (x : Binary64) : Nat :=
  x.word.toNat % signPlace

def isNegative (x : Binary64) : Bool :=
  signPlace ≤ x.word.toNat

def isNaN (x : Binary64) : Bool :=
  infinityMagnitude < x.magnitude

/-- Greater than zero; what is no number is not. -/
def isPositive (x : Binary64) : Bool :=
  !x.isNaN && !x.isNegative && x.magnitude != 0

/-- Zero or less; what is no number is not, so this is not the negation of `isPositive`. -/
def isNonpositive (x : Binary64) : Bool :=
  !x.isNaN && (x.isNegative || x.magnitude == 0)

def ofMagnitude (negative : Bool) (magnitude : Nat) : Binary64 :=
  ⟨UInt64.ofNat ((if negative then signPlace else 0) + magnitude)⟩

def nan : Binary64 := ofMagnitude false 0x7FF8000000000000

def infinity (negative : Bool) : Binary64 := ofMagnitude negative infinityMagnitude

def scaledDown (num den : Nat) (exponent : Int) : Nat × Nat :=
  (num * Nat.pow 2 (-exponent).toNat, den * Nat.pow 2 exponent.toNat)

def gridExponent (num den : Nat) : Int :=
  let k : Int := (num.log2 : Int) - den.log2
  let (num, den) := scaledDown num den k
  max (-1074) ((if num < den then k - 1 else k) - 52)

def nearestMagnitude (num den : Nat) : Nat :=
  let e := gridExponent num den
  let (num, den) := scaledDown num den e
  min infinityMagnitude ((e + 1074).toNat * binadeSteps + nearestQuotient num den)

/--
The number nearest to `digits * 10 ^ exponent`.  Far outside the range of the format the power of ten is
not computed: `10 ^ 400` is beyond every finite number, and `10 ^ n` is more than `2 ^ (3 * n)`.
-/
def ofDecimal (negative : Bool) (digits : Nat) (exponent : Int) : Binary64 :=
  if digits = 0 ∨ ((digits.log2 : Int) + 1100 < -3 * exponent) then
    ofMagnitude negative 0
  else if 400 < exponent then
    infinity negative
  else
    ofMagnitude negative
      (nearestMagnitude (digits * Nat.pow 10 exponent.toNat) (Nat.pow 10 (-exponent).toNat))

/--
The natural number of the format nearest to a natural number, ties to the even count of steps; none if
that is beyond the finite numbers.  Below the 53rd bit every number is held, above it every multiple of a
power of two.
-/
def nearestNatural? (n : Nat) : Option Nat :=
  let nearest := nearestMultiple (Nat.pow 2 (n.log2 - 52)) n
  if nearest.log2 < 1024 then some nearest else none

end Binary64

end RawPost.Number
