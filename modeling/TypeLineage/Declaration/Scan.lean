import TypeLineage.Declaration.Header
import TypeLineage.Declaration.Member

/-!
The declarations of a text. A header line opens a declaration, which takes in lines until the
braces after its equals sign are balanced. One whose braces never close is dropped and the scan
goes on with the next line.
-/

namespace TypeLineage.Declaration

open Text

/-- Counts the braces of a line; `none` once the braces that were opened are all closed. -/
def countBraces (depth : Int) (entered : Bool) : List Char → Option (Int × Bool)
  | [] => some (depth, entered)
  | c :: rest =>
    if c = '{' then countBraces (depth + 1) true rest
    else if c = '}' then
      if entered && depth - 1 == 0 then none else countBraces (depth - 1) entered rest
    else countBraces depth entered rest

/-- The text of a declaration, if its braces close, and the number of lines to move on by. -/
structure Extent where
  text : Option (List Char)
  used : Nat
  deriving DecidableEq, Repr

/-- Takes in further lines. Another header before the first brace ends the attempt. -/
def gather (depth : Int) (entered : Bool) (kept : List (List Char)) (used : Nat) :
    List (List Char) → Extent
  | [] => ⟨none, 1⟩
  | line :: rest =>
    if !entered && Header.occurs line then ⟨none, used⟩
    else
      match countBraces depth entered line with
      | none => ⟨some (unlines (line :: kept).reverse), used + 1⟩
      | some (depth, entered) => gather depth entered (line :: kept) (used + 1) rest

/-- The extent of a declaration from the rest of its header line and the lines after it. -/
def extent (first : List Char) (rest : List (List Char)) : Extent :=
  match countBraces 0 false first with
  | none => ⟨some first, 1⟩
  | some (depth, entered) => gather depth entered [first] 1 rest

/-- The part of a line that belongs to a declaration: what follows the header, if there is one. -/
def afterHeader (line : List Char) : List Char :=
  match Header.find? line with
  | some (_, rest) => rest
  | none => line

/-- A definition without blanks at its ends and without one final semicolon. -/
def clean (text : List Char) : List Char :=
  let text := trim text
  if text.getLast? = some ';' then trim text.dropLast else text

/-- The name before the first ampersand of a definition that begins with it. -/
def parent? (definition : List Char) : Option (List Char) :=
  let name := definition.takeWhile isWord
  match name, trimStart (definition.dropWhile isWord) with
  | _ :: _, '&' :: _ => some name
  | _, _ => none

/-- What the scan makes of a header line. -/
inductive Finding where
  | declared (d : Declaration)
  | unterminated (name : String) (line : Nat)
  deriving DecidableEq, Repr

/-- The declaration of a name with the given text, found at a line. -/
def ofText (name : List Char) (text : List Char) (line : Nat) (file : String) : Declaration :=
  let definition := clean text
  { name := String.ofList name
    parent := (parent? definition).map String.ofList
    fields := Member.fields definition
    line := line
    file := file }

/-- Scans lines, the first of which has the given number, after skipping some of them. -/
def findingsFrom (file : String) : (number skip : Nat) → List (List Char) → List Finding
  | _, _, [] => []
  | number, skip + 1, _ :: rest => findingsFrom file (number + 1) skip rest
  | number, 0, line :: rest =>
    match Header.find? line with
    | none => findingsFrom file (number + 1) 0 rest
    | some (name, first) =>
      let found := extent first rest
      let finding := match found.text with
        | none => Finding.unterminated (String.ofList name) number
        | some text => Finding.declared (ofText name text number file)
      finding :: findingsFrom file (number + 1) (found.used - 1) rest

def findings (text : List Char) (file : String) : List Finding :=
  findingsFrom file 1 0 (lines text)

def Finding.declared? : Finding → Option Declaration
  | .declared d => some d
  | .unterminated _ _ => none

/-- The declarations of a text by name; a later one of the same name replaces an earlier one. -/
def parse (text : List Char) (file : String) : List Declaration :=
  table ((findings text file).filterMap Finding.declared?)

end TypeLineage.Declaration
