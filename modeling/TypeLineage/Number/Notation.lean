import TypeLineage.Number.Shortest
import TypeLineage.Text.Blank
import TypeLineage.Text.Digit

/-!
Numbers as text: the shortest notation that reads back, a fixed number of places, and reading.
-/

namespace TypeLineage.Binary64

open Number Text

/-- Decimal digits of a natural number. -/
def digits (n : Nat) : List Char :=
  Nat.toDigits 10 n

def signText (negative : Bool) : List Char :=
  if negative then ['-'] else []

/-- How a number is written. Powers of ten from `leastPositional` up to but without
`firstScientific` are written positionally, the others with an exponent of at least
`exponentDigits` digits. -/
structure Style where
  leastPositional : Int
  firstScientific : Int
  exponentDigits : Nat
  nan : String
  infinity : String

/-- The style of all numbers that are shown or stored. -/
def shown : Style where
  leastPositional := -4
  firstScientific := 16
  exponentDigits := 2
  nan := "nan"
  infinity := "inf"

def padLeft (n : Nat) (fill : Char) (s : List Char) : List Char :=
  List.replicate (n - s.length) fill ++ s

/-- Digits `ds`, the first of which stands for `10 ^ top`, with a decimal point and at least one
place. -/
def positional (ds : List Char) (top : Int) : List Char :=
  if top < 0 then
    "0.".toList ++ List.replicate (-top - 1).toNat '0' ++ ds
  else
    let whole := top.toNat + 1
    let front := ds.take whole
    let places := ds.drop whole
    front ++ List.replicate (whole - front.length) '0' ++
      '.' :: (if places.isEmpty then ['0'] else places)

/-- Digits `ds`, the first of which stands for `10 ^ top`, with an exponent. -/
def scientific (style : Style) (ds : List Char) (top : Int) : List Char :=
  let places := ds.drop 1
  ds.take 1 ++ (if places.isEmpty then [] else '.' :: places) ++
    ['e', if top < 0 then '-' else '+'] ++ padLeft style.exponentDigits '0' (digits top.natAbs)

/-- The text of a decimal; zeros at the end of its digits are not written. -/
def decimalText (style : Style) (x : Decimal) : List Char :=
  let all := digits x.digits
  let ds := (all.reverse.dropWhile (· = '0')).reverse
  let top := x.exponent + all.length - 1
  if style.leastPositional ≤ top ∧ top < style.firstScientific then positional ds top
  else scientific style ds top

/-- The shortest text that reads back as the number. -/
def text (style : Style) : Binary64 → List Char
  | .nan => style.nan.toList
  | .infinite negative => signText negative ++ style.infinity.toList
  | .finite negative m e =>
    signText negative ++ (if m = 0 then "0.0".toList else decimalText style (shortest m e))

/-- A number of hundredths with two places. -/
def hundredthsText (n : Nat) : List Char :=
  digits (n / 100) ++ '.' :: padLeft 2 '0' (digits (n % 100))

/-- The number with two places, rounded from its exact value with ties to even. -/
def twoPlaces : Binary64 → List Char
  | .nan => shown.nan.toList
  | .infinite negative => signText negative ++ shown.infinity.toList
  | .finite negative m e =>
    let (n, d) := ratio m e
    signText negative ++ hundredthsText (roundHalfEven (100 * n) d)

/-- Digits with single underscores between them, up to a character that is neither: the digits and
the rest. No digit at all, or an underscore that does not stand between digits, is refused. -/
def readDigits? (afterDigit : Bool) (read : List Nat) : List Char → Option (List Nat × List Char)
  | [] => if afterDigit then some (read.reverse, []) else none
  | c :: rest =>
    match digitValue? c with
    | some v => readDigits? true (v :: read) rest
    | none =>
      if c = '_' then if afterDigit then readDigits? false read rest else none
      else if afterDigit then some (read.reverse, c :: rest) else none

/-- The number that decimal digits stand for. -/
def ofDigits (ds : List Nat) : Nat :=
  ds.foldl (fun n d => 10 * n + d) 0

def readSign : List Char → Bool × List Char
  | '-' :: rest => (true, rest)
  | '+' :: rest => (false, rest)
  | s => (false, s)

/-- A digit stands at the front. -/
def startsWithDigit (s : List Char) : Bool :=
  (s.head?.bind digitValue?).isSome

/-- An optional run of digits: none if the text does not begin with a digit or an underscore. -/
def readPart? (s : List Char) : Option (List Nat × List Char) :=
  if startsWithDigit s ∨ s.head? = some '_' then readDigits? false [] s else some ([], s)

/-- The exponent part after a significand, which ends the text. -/
def readExponent? : List Char → Option Int
  | [] => some 0
  | c :: rest =>
    if c = 'e' ∨ c = 'E' then
      let (negative, rest) := readSign rest
      match readDigits? false [] rest with
      | some (ds, []) => some (if negative then -(ofDigits ds) else ofDigits ds)
      | _ => none
    else none

/-- An unsigned decimal: digits with an optional point, at least one digit, and an optional
exponent. -/
def readMagnitude? (s : List Char) : Option (Nat × Int) := do
  let (whole, s) ← readPart? s
  let (places, s) ← match s with
    | '.' :: rest => readPart? rest
    | _ => some ([], s)
  if whole.isEmpty && places.isEmpty then none
  else
    let e ← readExponent? s
    some (ofDigits (whole ++ places), e - places.length)

/-- The blanks that may stand around a number: all but the separator controls. -/
def isPadding (c : Char) : Bool :=
  isBlank c && !(28 ≤ c.toNat && c.toNat ≤ 31)

def unpad (s : List Char) : List Char :=
  ((s.dropWhile isPadding).reverse.dropWhile isPadding).reverse

/-- The number that a text stands for, blanks around it aside: a decimal, `inf`, `infinity` or `nan`
in any case, with an optional sign. -/
def ofText? (s : List Char) : Option Binary64 :=
  let (negative, s) := readSign (unpad s)
  let word := String.ofList (s.map Char.toLower)
  if word = "inf" ∨ word = "infinity" then some (.infinite negative)
  else if word = "nan" then some .nan
  else (readMagnitude? s).map fun (n, e) => ofDecimal negative n e

end TypeLineage.Binary64
