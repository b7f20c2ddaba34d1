import TypeLineage.Setting.Value
import TypeLineage.Toml.Basic

/-!
Numbers in configuration files: decimal, hexadecimal, octal and binary integers, decimals with a
point or an exponent, infinities and `nan`. Underscores may stand between digits.
-/

namespace TypeLineage.Toml

open Text

/-- The value of a digit of any base up to sixteen. -/
def hexValue? (c : Char) : Option Nat :=
  if c.isDigit then some (c.toNat - 48)
  else
    let d := c.toLower.toNat
    if 97 ≤ d ∧ d ≤ 102 then some (d - 87) else none

/-- A whole text of digits of a base, at least one. -/
def natural? (base : Nat) (s : List Char) : Option Nat :=
  if s.isEmpty then none
  else
    s.foldl
      (fun n c => do
        let n ← n
        let d ← hexValue? c
        if d < base then some (base * n + d) else none)
      (some 0)

/-- Neighbouring characters of a text. -/
def neighbours (s : List Char) : List (Char × Char) :=
  s.zip s.tail

/-- No underscore stands at an end, beside a point or beside another one. -/
def underscoresInside (s : List Char) : Bool :=
  s.head? ≠ some '_' && s.getLast? ≠ some '_' &&
    (neighbours s).all fun (a, b) =>
      !(a = '_' && (b = '_' || b = '.')) && !(a = '.' && b = '_')

/-- No zero stands in front, unless a point or the letter of a base follows. -/
def noLeadingZero (signed : Bool) : List Char → Bool
  | '0' :: c :: _ => c = '.' || (!signed && (c = 'x' || c = 'o' || c = 'b'))
  | _ => true

/-- What a number outside of arrays has to look like. -/
def isStrict (s : List Char) : Bool :=
  let word := trim s
  let unsigned := (Binary64.readSign word).2
  !word.isEmpty && underscoresInside word && noLeadingZero (unsigned.length < word.length) unsigned

def negateIf (negative : Bool) (n : Int) : Int :=
  if negative then -n else n

/-- Subtracts from zero, so that a negated zero is positive. -/
def subtractIf (negative : Bool) : Binary64 → Binary64
  | .nan => .nan
  | .infinite given => .infinite (negative != given)
  | .finite given m e => .finite (m ≠ 0 && negative != given) m e

def isDecimal (s : List Char) : Bool :=
  s.contains '.' || (!s.contains 'x' && (s.contains 'e' || s.contains 'E'))

/-- A number with a point or an exponent. A digit comes first and something follows the point. -/
def decimal? (s : List Char) : Option Binary64 :=
  if !(s.head?.any Char.isDigit) || s.dropWhile (· ≠ '.') = ['.'] then none else Binary64.ofText? s

/-- The size of an integer: with the letter of its base, or decimal without zeros in front. -/
def magnitude? : List Char → Option Nat
  | '0' :: c :: rest =>
    if c = 'x' ∨ c = 'X' then natural? 16 rest
    else if c = 'o' ∨ c = 'O' then natural? 8 rest
    else if c = 'b' ∨ c = 'B' then natural? 2 rest
    else if (c :: rest).all (· = '0') then some 0 else none
  | s => if s.length ≤ Value.mostDigits then natural? 10 s else none

/-- A digit of any script as the ASCII one. -/
def asciiDigit (c : Char) : Char :=
  match digitValue? c with
  | some d => Char.ofNat (48 + d)
  | none => c

/-- An integer with a sign of its own and blanks around it. -/
def integer? (s : List Char) : Option Int :=
  let (negative, digits) := Binary64.readSign ((Binary64.unpad s).map asciiDigit)
  (magnitude? digits).map fun n => negateIf negative n

/-- The number that a word stands for. -/
def number? (word : List Char) : Option Value :=
  let (negative, unsigned) := Binary64.readSign word
  let s := unsigned.filter (· ≠ '_')
  let lower := String.ofList (s.map Char.toLower)
  if isDecimal s then (decimal? s).map fun x => .real (subtractIf negative x)
  else if lower = "inf" then some (.real (.infinite negative))
  else if lower = "nan" then some (.real .nan)
  else (integer? s).map fun n => .integer (negateIf negative n)

end TypeLineage.Toml
