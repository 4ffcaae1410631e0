/-!
# Rounding of quotients

A quotient of natural numbers is rounded to the nearest natural number, and one that lies in the middle
between two neighbours to the even one.
-/

namespace RawPost.Number

/-- The natural number nearest to a quotient; of two at the same distance the even one. -/
def nearestQuotient (num den : Nat) : Nat :=
  let quotient := num / den
  let rest := num % den
  if den < 2 * rest ∨ (2 * rest = den ∧ quotient % 2 = 1) then quotient + 1 else quotient

def nearestMultiple (step n : Nat) : Nat :=
  step * nearestQuotient n step

@[simp] theorem nearestQuotient_one (n : Nat) : nearestQuotient n 1 = n := by
  simp [nearestQuotient, Nat.mod_one]

@[simp] theorem nearestMultiple_one (n : Nat) : nearestMultiple 1 n = n := by
  simp [nearestMultiple]

end RawPost.Number
