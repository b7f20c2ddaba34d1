import TypeLineage.Number.Binary64

/-!
The shortest decimal that reads back as a given double-precision number, and of those the nearest.
-/

namespace TypeLineage.Binary64

open Number

/-- The decimals `digits * 10 ^ exponent`. -/
structure Decimal where
  digits : Nat
  exponent : Int
  deriving DecidableEq, Repr

/-- The greatest `k` with `10 ^ k ≤ num / den`, for a positive quotient. -/
def decade (num den : Nat) : Int :=
  let guess : Int := (Nat.toDigits 10 num).length - (Nat.toDigits 10 den).length
  let (n, d) := scale 10 num den (-guess)
  if d ≤ n then guess else guess - 1

/-- The halfway points to the two neighbours of `m * 2 ^ e`, and the number itself between them,
all in units of `2 ^ (e - 2)`. -/
def rounding (m : Nat) (e : Int) : Nat × Nat × Nat :=
  let below := if m = significandLimit / 2 ∧ minExponent < e then 1 else 2
  (4 * m - below, 4 * m, 4 * m + 2)

/-- Whether a multiple `c` of `10 ^ k` reads back as `m * 2 ^ e`. -/
def readsBack (m : Nat) (e : Int) (k : Int) (c : Nat) : Bool :=
  let (low, _, high) := rounding m e
  let (unit, den) := scale 10 1 1 k
  let (quarter, qden) := scale 2 1 1 (e - 2)
  let x := c * unit * qden
  let lo := low * quarter * den
  let hi := high * quarter * den
  if m % 2 = 0 then lo ≤ x && x ≤ hi else lo < x && x < hi

/-- The multiple of `10 ^ k` nearest to `m * 2 ^ e` that reads back as it, if there is one. Of two
equally near the even one is taken. -/
def onGrid? (m : Nat) (e : Int) (k : Int) : Option Nat :=
  let (n, d) := ratio m e
  let (n, d) := scale 10 n d (-k)
  let c := n / d
  let nearest := roundHalfEven n d
  let other := if nearest = c then c + 1 else c
  if readsBack m e k nearest then some nearest
  else if readsBack m e k other then some other
  else none

/-- Tries more and more digits, up to a number of them. -/
def search (m : Nat) (e : Int) (top : Int) : (remaining : Nat) → (used : Nat) → Decimal
  | 0, used => ⟨((onGrid? m e (top - used)).getD 0), top - used⟩
  | remaining + 1, used =>
    match onGrid? m e (top - used) with
    | some c => ⟨c, top - used⟩
    | none => search m e top remaining (used + 1)

/-- The shortest decimal for `m * 2 ^ e`, where `m` is positive. Seventeen digits always do. -/
def shortest (m : Nat) (e : Int) : Decimal :=
  let (n, d) := ratio m e
  search m e (decade n d) 16 0

end TypeLineage.Binary64
