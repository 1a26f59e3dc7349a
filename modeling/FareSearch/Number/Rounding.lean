/-!
# Rounding a quotient

Quotients of natural numbers, rounded to the nearest whole number.
-/

namespace FareSearch.Number

/-- The nearest whole number to `num / den`; a half goes to the even neighbour. -/
def roundHalfEven (num den : Nat) : Nat :=
  let quotient := num / den
  let twice := 2 * (num % den)
  if twice < den then quotient
  else if den < twice then quotient + 1
  else quotient + quotient % 2

/-- The nearest whole number to `num / den`; a half goes up. -/
def roundHalfUp (num den : Nat) : Nat :=
  (2 * num + den) / (2 * den)

end FareSearch.Number
