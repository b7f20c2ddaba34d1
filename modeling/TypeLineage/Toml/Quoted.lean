import TypeLineage.Toml.Fault
import TypeLineage.Toml.Number

/-!
Strings in configuration files. Basic strings stand in double quotes and know escapes, literal ones
in single quotes and know none. Strings of several lines stand in three quotes.
-/

namespace TypeLineage.Toml

open Text

/-- The letters after a backslash, each with what they stand for. -/
def escapes : List (Char × Char) :=
  [('0', '\x00'), ('b', '\x08'), ('f', '\x0c'), ('n', '\n'), ('r', '\r'), ('t', '\t'), ('"', '"')]

def escape? (c : Char) : Option Char :=
  (escapes.find? (·.1 = c)).map (·.2)

/-- Text with the escapes by a single character resolved; those by a code point are kept. -/
def unescape : List Char → Except Fault (List Char)
  | [] => .ok []
  | ['\\'] => .ok ['\\']
  | '\\' :: c :: rest =>
    match escape? c with
    | some x => (unescape rest).map (x :: ·)
    | none =>
      if c = '\\' then (unescape rest).map (c :: ·)
      else if c = 'u' ∨ c = 'U' then (unescape rest).map fun s => '\\' :: c :: s
      else .error .malformed
  | c :: rest => (unescape rest).map (c :: ·)

/-- No backslash stands before a character that it does not go with, given the pieces between
backslashes and whether an escaped backslash comes before them. -/
def escapesKnown (escaped : Bool) : List (List Char) → Bool
  | [] => true
  | [] :: rest => escapesKnown (!escaped) rest
  | (c :: _) :: rest =>
    ((escape? c).isSome || c = 'u' || c = 'U' || escaped) && escapesKnown false rest

/-- The character of a code point with a number of hexadecimal digits, fewer at the end of a
piece. -/
def codePoint (digits : List Char) : Except Fault Char :=
  match natural? 16 digits, digits.map Char.toLower with
  | none, [] => .error .textEnd
  | none, _ => .error .malformed
  | some _, ['d'] => .error .textEnd
  | some n, first :: second :: _ =>
    if first = 'd' && !('0' ≤ second && second ≤ '7') then .error .malformed
    else if 0x7FFFFFFF < n then .error .codeTooLarge
    else if n < 0xD800 ∨ (0xDFFF < n ∧ n < 0x110000) then .ok (Char.ofNat n)
    else .error .malformed
  | some n, _ => .ok (Char.ofNat n)

/-- Resolves the escapes by code points: `read` is followed by pieces that begin with the digits of
one. A piece after an escaped backslash is taken as it is. -/
def codePointsFrom (marker : List Char) (digits : Nat) (skip : Bool) (read : List Char) :
    List (List Char) → Except Fault (List Char)
  | [] => .ok read
  | piece :: rest =>
    if skip then codePointsFrom marker digits (endsEscaped piece) (read ++ marker ++ piece) rest
    else do
      let c ← codePoint (piece.take digits)
      codePointsFrom marker digits false (read ++ c :: piece.drop digits) rest

/-- Resolves the escapes by code points behind a letter. -/
def codePoints (letter : Char) (digits : Nat) (s : List Char) : Except Fault (List Char) :=
  let marker := ['\\', letter]
  match pieces marker s with
  | [] => .ok []
  | front :: rest => codePointsFrom marker digits (endsEscaped front) front rest

/-- Whether a string ends with its closing quotes, given the pieces between the quotes after the
opening ones. `quotes` counts empty pieces of a string of several lines. -/
def endsClosed (several : Bool) : (closed : Bool) → (quotes : Nat) → List (List Char) → Bool
  | _, _, [] => true
  | closed, quotes, [] :: rest =>
    if several then endsClosed several closed (quotes + 1) rest
    else endsClosed several true quotes rest
  | closed, quotes, piece :: rest =>
    if endsEscaped piece then endsClosed several closed quotes rest
    else if closed then false
    else if !several || 1 < quotes then endsClosed several true quotes rest
    else endsClosed several closed 0 rest

/-- Nothing follows the closing quotes of a string. -/
def isWhole (quote : Char) (afterQuote : List Char) : Bool :=
  match cut quote afterQuote with
  | [] :: [] :: rest => endsClosed true false 0 rest
  | all => endsClosed false false 0 all

/-- What stands between the quotes, one or three on each side. -/
def betweenQuotes (quote : Char) (s : List Char) : List Char :=
  match s with
  | [_, c] => if c = quote then inner (inner (inner s)) else inner s
  | _ :: c :: d :: _ => if c = quote ∧ c = d then inner (inner (inner s)) else inner s
  | _ => inner s

/-- The text of a string with its quotes. -/
def string (quote : Char) (s : List Char) : Except Fault (List Char) := do
  if !isWhole quote s.tail then .error .malformed
  else if quote = '"' then
    if !escapesKnown false (cut '\\' s).tail then .error .malformed
    else
      let s ← codePoints 'u' 4 s
      let s ← codePoints 'U' 8 s
      let s ← unescape s
      .ok (betweenQuotes quote s)
  else .ok (betweenQuotes quote s)

end TypeLineage.Toml
