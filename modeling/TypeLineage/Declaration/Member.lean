import TypeLineage.Declaration.Basic
import TypeLineage.Declaration.Braces
import TypeLineage.Text.Blank
import TypeLineage.Text.Find
import TypeLineage.Text.Word

/-!
The members of an object type. The body is cut into candidates at line ends and semicolons outside
nested braces, and each candidate is read as a field or passed over.
-/

namespace TypeLineage.Member

open Text

/-- Candidates cut off so far and the text of the next one, both latest first. -/
structure Cutting where
  finished : List (List Char)
  pending : List Char
  depth : Int

namespace Cutting

def flush (s : Cutting) : Cutting :=
  let text := trim s.pending.reverse
  { s with finished := if text.isEmpty then s.finished else text :: s.finished, pending := [] }

def push (s : Cutting) (c : Char) : Cutting :=
  { s with pending := c :: s.pending }

/-- Reads one character. A semicolon outside braces ends the candidate. -/
def char (s : Cutting) (c : Char) : Cutting :=
  if c = '{' then { s.push c with depth := s.depth + 1 }
  else if c = '}' then { s.push c with depth := s.depth - 1 }
  else if c = ';' ∧ s.depth = 0 then s.flush
  else s.push c

/-- A blank line or a comment line. -/
def isFiller (line : List Char) : Bool :=
  line.isEmpty || "//".toList.isPrefixOf line

/-- Reads one line. Its end also ends the candidate, unless a nested brace is open; surplus closing
braces are forgotten then. -/
def line (s : Cutting) (raw : List Char) : Cutting :=
  let text := trim raw
  if s.depth = 0 ∧ isFiller text then s
  else
    let s := text.foldl char s
    if s.depth ≤ 0 then { s.flush with depth := 0 } else s.push ' '

end Cutting

/-- The member candidates of a body, trimmed and not empty. -/
def candidates (body : List Char) : List (List Char) :=
  ((lines body).foldl Cutting.line ⟨[], [], 0⟩).flush.finished.reverse

/-- The word that marks the constructor of a subtype. -/
def slotMarker : List Char :=
  "TypeConstructor".toList

/-- A name, a colon, and after optional blanks the marker with a name in angle brackets. -/
def slot? (s : List Char) : Option Field :=
  let name := s.takeWhile isWord
  if name.isEmpty then none
  else do
    let s ← [':'].isPrefixOf? (s.dropWhile isWord)
    let s ← (slotMarker ++ ['<']).isPrefixOf? (trimStart s)
    let subtype := s.takeWhile isWord
    if subtype.isEmpty then none
    else
      let _ ← ['>'].isPrefixOf? (s.dropWhile isWord)
      some ⟨String.ofList name, String.ofList (slotMarker ++ '<' :: subtype ++ ['>']), false, .slot⟩

def dropFinalNewline (s : List Char) : List Char :=
  if s.getLast? = some '\n' then s.dropLast else s

/-- The type written after a field's colon: one line of text, less a final semicolon that does not
stand alone. Blanks alone are an empty type, nothing at all is none. -/
def typeText? (s : List Char) : Option (List Char) :=
  let s := dropFinalNewline s
  let text := trimStart s
  if text.isEmpty then
    if s.isEmpty ∨ s.getLast? = some '\n' then none else some []
  else if text.contains '\n' then none
  else if text.getLast? = some ';' ∧ 2 ≤ text.length then some (trimEnd text.dropLast)
  else some (trimEnd text)

/-- A name, a question mark if the field is optional, a colon and a type. -/
def plain? (s : List Char) : Option Field :=
  let name := s.takeWhile isWord
  if name.isEmpty then none
  else
    match s.dropWhile isWord with
    | '?' :: ':' :: rest =>
      (typeText? rest).map fun type => ⟨String.ofList name, String.ofList type, true, .plain⟩
    | ':' :: rest =>
      (typeText? rest).map fun type => ⟨String.ofList name, String.ofList type, false, .plain⟩
    | _ => none

/-- Reads a candidate. One that mentions the marker is a slot or nothing. -/
def field? (candidate : List Char) : Option Field :=
  if "//".toList.isPrefixOf candidate then none
  else if occursIn slotMarker candidate then slot? candidate
  else plain? candidate

/-- The fields between the first balanced braces of a definition, by name. -/
def fields (definition : List Char) : List Field :=
  match Braces.interior? definition with
  | none => []
  | some body => Keyed.ofList Field.name ((candidates body).filterMap field?)

end TypeLineage.Member
