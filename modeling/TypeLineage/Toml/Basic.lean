import TypeLineage.Text.Blank
import TypeLineage.Text.Find

/-!
The cutting of lines that the format is made of: at the occurrences of a separator, at one of them,
and at quotes.
-/

namespace TypeLineage.Toml

open Text

def isQuote (c : Char) : Bool :=
  c = '"' || c = '\''

/-- A text without its first and its last character. -/
def inner (s : List Char) : List Char :=
  s.tail.dropLast

/-- An odd number of backslashes stands at the end. -/
def endsEscaped (s : List Char) : Bool :=
  (s.reverse.takeWhile (· = '\\')).length % 2 = 1

/-- The pieces between the occurrences of a separator, after skipping some characters; the piece
read so far is latest first. -/
def piecesFrom (separator : List Char) : (skip : Nat) → (piece : List Char) → List Char →
    List (List Char)
  | _, piece, [] => [piece.reverse]
  | skip + 1, piece, _ :: rest => piecesFrom separator skip piece rest
  | 0, piece, c :: rest =>
    if separator.isPrefixOf (c :: rest) then
      piece.reverse :: piecesFrom separator (separator.length - 1) [] rest
    else piecesFrom separator 0 (c :: piece) rest

/-- The pieces between the occurrences of a separator, from left to right. -/
def pieces (separator : List Char) (s : List Char) : List (List Char) :=
  piecesFrom separator 0 [] s

/-- What stands before and after the occurrence of a separator with a number, counted from one. -/
def splitAt? (separator : List Char) (number : Nat) (s : List Char) :
    Option (List Char × List Char) :=
  let all := pieces separator s
  if all.length ≤ number then none
  else
    some (separator.intercalate (all.take number), separator.intercalate (all.drop number))

/-- Goes on cutting at single quotes where a double quote stands inside single ones. -/
def joinSingle (cuts : List (List Char)) : List (List Char) → List (List Char) × List (List Char)
  | [] => (cuts, [])
  | piece :: rest =>
    if cuts.length % 2 = 0 then
      joinSingle (cuts.dropLast ++ cut '\'' (cuts.getLastD [] ++ '"' :: piece)) rest
    else (cuts, piece :: rest)

/-- A line cut at its quotes, so that every other piece is quoted. Double quotes count inside single
ones only at the front, single ones only before the first double quote. -/
def quoteCuts (s : List Char) : List (List Char) :=
  let cutAtFirst : List (List Char) → List (List Char)
    | [] => []
    | piece :: rest => cut '\'' piece ++ rest
  match cut '"' s with
  | [] => []
  | front :: rest =>
    if !rest.isEmpty && front.contains '\'' then
      let (cuts, rest) := joinSingle (cut '\'' front) rest
      cuts ++ cutAtFirst rest
    else cutAtFirst (front :: rest)

/-- The number of the first occurrence of a separator that is not quoted, given the cuts at the
quotes and whether the first of them is quoted. One more than all of them if there is none. -/
def unquotedFrom (separator : List Char) (quoted : Bool) : List (List Char) → Nat
  | [] => 1
  | piece :: rest =>
    let count := (pieces separator piece).length - 1
    if !quoted && 0 < count then 1 else count + unquotedFrom separator (!quoted) rest

def unquoted (separator : List Char) (s : List Char) : Nat :=
  unquotedFrom separator false (quoteCuts s)

end TypeLineage.Toml
