/-!
Rounding a quotient of natural numbers to the nearest whole number. A tie goes to the even
neighbour.
-/

namespace TypeLineage.Number

def roundHalfEven (num den : Nat) : Nat :=
  let q := num / den
  let twice := 2 * (num % den)
  if twice < den then q
  else if den < twice then q + 1
  else if q % 2 = 0 then q
  else q + 1

/-- The quotient `num / den * base ^ shift` as a numerator and a denominator. -/
def scale (base num den : Nat) (shift : Int) : Nat × Nat :=
  if 0 ≤ shift then (num * Nat.pow base shift.toNat, den)
  else (num, den * Nat.pow base (-shift).toNat)

end TypeLineage.Number
