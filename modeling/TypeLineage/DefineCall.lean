import TypeLineage.Declaration.Basic
import TypeLineage.Text.Blank

/-!
Calls `define('Name', …)` in source code. A call tells the name of a type and where it is defined,
nothing else.
-/

namespace TypeLineage.DefineCall

open Text

def isQuote (c : Char) : Bool :=
  c == '\'' || c == '"'

/-- Reads a call that begins here, up to the quote after the name: the name and what is left. -/
def here? (s : List Char) : Option (List Char × List Char) := do
  let s ← "define".toList.isPrefixOf? s
  let s ← ['('].isPrefixOf? (trimStart s)
  match trimStart s with
  | [] => none
  | quote :: s =>
    let name := s.takeWhile (!isQuote ·)
    match s.dropWhile (!isQuote ·) with
    | [] => none
    | _ :: rest => if isQuote quote && !name.isEmpty then some (name, rest) else none

/-- The names and lines of the calls in a text, after skipping some characters. Calls do not
overlap. -/
def callsFrom : (line skip : Nat) → List Char → List (String × Nat)
  | _, _, [] => []
  | line, skip + 1, c :: rest => callsFrom (if c = '\n' then line + 1 else line) skip rest
  | line, 0, c :: rest =>
    match here? (c :: rest) with
    | some (name, left) =>
      (String.ofList name, line) :: callsFrom line (rest.length - left.length) rest
    | none => callsFrom (if c = '\n' then line + 1 else line) 0 rest

/-- Every call of a text as a declaration without parent and fields. -/
def all (text : List Char) (file : String) : List Declaration :=
  (callsFrom 1 0 text).map fun (name, line) => ⟨name, none, [], line, file⟩

/-- The first call of each name. -/
def firsts (text : List Char) (file : String) : List Declaration :=
  Keyed.firsts Declaration.name (all text file)

end TypeLineage.DefineCall
