import TypeLineage.Toml.Basic
import TypeLineage.Toml.Fault

/-!
The names of tables, as they stand in brackets on a line of their own: parts with dots between them,
each bare or in quotes.
-/

namespace TypeLineage.Toml

open Text

def isNameChar (c : Char) : Bool :=
  c.isAlphanum || c == '_' || c == '-'

/-- A text that is a bare part of a name. -/
def isBareName (s : List Char) : Bool :=
  !s.isEmpty && s.all isNameChar

/-- A part that begins with a quote ends with it. -/
def isClosedPart (s : List Char) : Bool :=
  2 ≤ s.length && s.getLast? = s.head?

/-- The parts of a name, given the piece read and the pieces after it. Pieces of one quoted part are
put together; `joined` tells whether that was done to the piece read. -/
def namePartsFrom (piece : List Char) (joined : Bool) : List (List Char) →
    Except Fault (List String)
  | [] =>
    let part := trim piece
    if part.head?.any isQuote then
      if isClosedPart part then .ok [String.ofList (inner part)] else .error .malformed
    else if isBareName part then .ok [String.ofList part]
    else .error .malformed
  | next :: rest =>
    let part := trim piece
    if part.head?.any isQuote then
      if isClosedPart part then
        (namePartsFrom next false rest).map (String.ofList (inner part) :: ·)
      else namePartsFrom ((if joined then piece else part) ++ '.' :: next) true rest
    else if isBareName part then
      (namePartsFrom next false rest).map (String.ofList part :: ·)
    else .error .malformed

/-- The name in a line after its opening brackets. -/
def nameParts (closing : List Char) (line : List Char) : Except Fault (List String) :=
  match splitAt? closing (unquoted closing line) line with
  | none => .error .malformed
  | some (name, after) =>
    if !(trim after).isEmpty then .error .malformed
    else
      match cut '.' name with
      | [] => .ok []
      | piece :: rest => namePartsFrom piece false rest

end TypeLineage.Toml
