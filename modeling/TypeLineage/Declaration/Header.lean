import TypeLineage.Text.Blank
import TypeLineage.Text.Word

/-!
Declaration headers: `export type Name =`, with an optional list of type parameters in angle
brackets after the name. The list ends at the first `>` that is followed by the equals sign, so
parameters may hold angle brackets, arrows and defaults.
-/

namespace TypeLineage.Header

open Text

/-- What is left after at least one blank. -/
def afterBlanks? : List Char → Option (List Char)
  | [] => none
  | c :: rest => if isBlank c then some (trimStart rest) else none

/-- What is left after the equals sign, blanks before it aside. -/
def afterEquals? (s : List Char) : Option (List Char) :=
  match trimStart s with
  | '=' :: rest => some rest
  | _ => none

/-- What is left after the equals sign that follows the end of a parameter list. -/
def afterParameters? : List Char → Option (List Char)
  | [] => none
  | c :: rest =>
    if c = '\n' then none
    else if c = '>' then
      match afterEquals? rest with
      | some body => some body
      | none => afterParameters? rest
    else afterParameters? rest

/-- What is left after the name of a header: optional parameters and the equals sign. -/
def afterName? (s : List Char) : Option (List Char) :=
  match trimStart s with
  | '<' :: rest => afterParameters? rest
  | '=' :: rest => some rest
  | _ => none

/-- Reads a header that begins here: the name, and the text after the equals sign. -/
def here? (s : List Char) : Option (List Char × List Char) := do
  let s ← "export".toList.isPrefixOf? s
  let s ← afterBlanks? s
  let s ← "type".toList.isPrefixOf? s
  let s ← afterBlanks? s
  let name := s.takeWhile isWord
  if name.isEmpty then none
  else
    let rest ← afterName? (s.dropWhile isWord)
    some (name, rest)

/-- The leftmost header of a line. -/
def find? : List Char → Option (List Char × List Char)
  | [] => none
  | c :: rest =>
    match here? (c :: rest) with
    | some header => some header
    | none => find? rest

def occurs (line : List Char) : Bool :=
  (find? line).isSome

end TypeLineage.Header
