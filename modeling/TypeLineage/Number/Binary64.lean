import TypeLineage.Number.Rounding

/-!
Double-precision numbers as exact values: a finite one is `significand * 2 ^ exponent` with a sign.
Quotients and differences are rounded to nearest, ties to even, and beyond the largest number to
infinity.
-/

namespace TypeLineage

inductive Binary64 where
  | nan
  | infinite (negative : Bool)
  | finite (negative : Bool) (significand : Nat) (exponent : Int)
  deriving DecidableEq, Repr, Inhabited

namespace Binary64

open Number

/-- The least exponent of a finite number. -/
def minExponent : Int := -1074

/-- The greatest exponent of a finite number. -/
def maxExponent : Int := 971

/-- Significands stay below this. -/
def significandLimit : Nat := Nat.pow 2 53

def zero (negative : Bool) : Binary64 :=
  .finite negative 0 minExponent

/-- The exponent with which a positive quotient gets a significand of 53 bits, or of fewer bits
where the exponent cannot be lower. -/
def exponentFor (num den : Nat) : Int :=
  let k : Int := num.log2 - den.log2
  let (n, d) := scale 2 num den (-k)
  max minExponent (if d ≤ n then k - 52 else k - 53)

/-- The number nearest to a quotient. -/
def ofRatio (negative : Bool) (num den : Nat) : Binary64 :=
  if num = 0 then zero negative
  else
    let e := exponentFor num den
    let (n, d) := scale 2 num den (-e)
    let m := roundHalfEven n d
    let (m, e) := if m = significandLimit then (m / 2, e + 1) else (m, e)
    if maxExponent < e then .infinite negative
    else if m = 0 then zero negative
    else .finite negative m e

def ofInt (n : Int) : Binary64 :=
  ofRatio (n < 0) n.natAbs 1

/-- The number nearest to `digits * 10 ^ exponent`. Exponents far out of range are cut short. -/
def ofDecimal (negative : Bool) (digits : Nat) (exponent : Int) : Binary64 :=
  let magnitude : Int := (digits.log2 : Int) * 30103 / 100000 + exponent
  if digits = 0 then zero negative
  else if 400 < magnitude then .infinite negative
  else if magnitude < -400 then zero negative
  else
    let (n, d) := scale 10 digits 1 exponent
    ofRatio negative n d

/-- Below zero; a negative zero and `nan` are not. -/
def isNegative : Binary64 → Bool
  | .nan => false
  | .infinite negative => negative
  | .finite negative m _ => negative && m ≠ 0

/-- The integer that a number is equal to. -/
def whole? : Binary64 → Option Int
  | .finite negative m e =>
    let sign : Int := if negative then -1 else 1
    let divisor := Nat.pow 2 (-e).toNat
    if m % divisor = 0 then some (sign * (m / divisor * Nat.pow 2 e.toNat : Nat)) else none
  | _ => none

/-- The size of a finite number as a quotient. -/
def ratio (significand : Nat) (exponent : Int) : Nat × Nat :=
  scale 2 significand 1 exponent

/-- A finite number in units of a power of two that is not above its own. -/
def units (negative : Bool) (significand : Nat) (exponent unit : Int) : Int :=
  let n : Int := significand * Nat.pow 2 (exponent - unit).toNat
  if negative then -n else n

/-- The difference of two numbers: the exact one, rounded. -/
def sub : Binary64 → Binary64 → Binary64
  | .nan, _ | _, .nan => .nan
  | .infinite negative, .infinite negative' =>
    if negative = negative' then .nan else .infinite negative
  | .infinite negative, .finite .. => .infinite negative
  | .finite .., .infinite negative => .infinite !negative
  | .finite negative m e, .finite negative' m' e' =>
    let unit := min e e'
    let difference := units negative m e unit - units negative' m' e' unit
    if difference = 0 then zero (negative && !negative')
    else
      let (n, d) := scale 2 difference.natAbs 1 unit
      ofRatio (difference < 0) n d

/-- Whether one number is less than another. No number is less or greater than `nan`. -/
def isLess : Binary64 → Binary64 → Bool
  | .nan, _ | _, .nan => false
  | .infinite negative, .infinite negative' => negative && !negative'
  | .infinite negative, .finite .. => negative
  | .finite .., .infinite negative => !negative
  | .finite negative m e, .finite negative' m' e' =>
    units negative m e (min e e') < units negative' m' e' (min e e')

end Binary64

end TypeLineage
