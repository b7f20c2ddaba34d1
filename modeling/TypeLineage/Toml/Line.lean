import TypeLineage.Text.Word
import TypeLineage.Toml.Basic
import TypeLineage.Toml.Fault

/-!
The lines of a configuration file. One pass over the characters blanks out comments, puts arrays on
a single line and looks at the quotes and at every key on its way; what it leaves is cut into lines.
-/

namespace TypeLineage.Toml

open Text

/-- Where a character stands towards the key of its line. -/
inductive KeyPlace where
  | outside
  | inside
  /-- After a part of the key. -/
  | behind
  deriving DecidableEq, Repr

/-- What is known about the characters read so far. -/
structure Scan where
  key : KeyPlace := .outside
  /-- The key has a dot. -/
  dotted : Bool := false
  /-- The quote that a string or a quoted part of a key began with. -/
  quote : Option Char := none
  severalLines : Bool := false
  comment : Bool := false
  lineStart : Bool := true
  /-- Within the brackets of a table name. -/
  tableName : Bool := false
  /-- Within the double brackets of an array of tables. -/
  arrayName : Bool := false
  /-- The number of arrays that are open. -/
  depth : Int := 0

namespace Scan

/-- A part of a dotted key follows at once, if it is not behind a blank or another dot. -/
def beforePart (s : Scan) : List Char → Except Fault Scan
  | [] => .error .listEnd
  | c :: _ => .ok (if isBlank c || c = '.' then s else { s with key := .inside })

/-- A character that no key has. Only the equals sign ends one. -/
def endKey (s : Scan) (c : Char) : Except Fault Scan :=
  if c = '=' then .ok { s with key := .outside, dotted := false } else .error .malformed

/-- Whether what comes after these characters is escaped, by an odd number of backslashes. -/
def isEscaped (before : List Char) : Bool :=
  (before.takeWhile (· = '\\')).length % 2 = 1

/-- Reads a character of a key, given those before it, latest first, and those after it. In a
quoted part of either kind an escaped quote does not end the part. -/
def keyChar (s : Scan) (before : List Char) (c : Char) (after : List Char) : Except Fault Scan :=
  if c = '\n' then .error .malformed
  else
    match s.quote, s.key with
    | some q, _ =>
      .ok (if c = q ∧ !isEscaped before then { s with key := .behind, quote := none } else s)
    | none, .behind =>
      if isBlank c then if s.dotted then s.beforePart after else .ok s
      else if c = '.' then { s with dotted := true }.beforePart after
      else s.endKey c
    | none, _ =>
      if isBlank c then .ok { s with key := .behind }
      else if c = '.' then .ok { s with dotted := true }
      else if isWord c || c = '-' then .ok s
      else if s.dotted && before.head? = some '.' && isQuote c then .ok { s with quote := some c }
      else s.endKey c

/-- A quote that counts, given whether it is the third in a row. -/
def toggle (s : Scan) (third : Bool) (c : Char) : Scan :=
  if third then
    { s with severalLines := !s.severalLines, quote := if s.severalLines then none else some c }
  else { s with quote := if s.quote.isSome then none else some c }

/-- Reads a character as a quote if it is one, given those before it. A double quote behind an odd
number of backslashes does not count, unless it is the second in a row. -/
def quoteChar (s : Scan) (before : List Char) (c : Char) : Scan :=
  let run := ((before.take 2).takeWhile (· = c)).length
  if c = '\'' ∧ s.quote ≠ some '"' then s.toggle (run = 2) c
  else if c = '"' ∧ s.quote ≠ some '\'' then
    if run ≠ 1 && isEscaped (before.drop run) then s else s.toggle (run = 2) c
  else s

def inName (s : Scan) : Bool :=
  s.tableName || s.arrayName

/-- Reads a character as a bracket if it is one. -/
def bracketChar (s : Scan) (before : List Char) (c : Char) (after : List Char) : Scan :=
  if s.quote.isSome then s
  else if c = '[' ∧ !s.inName then
    if !s.lineStart then { s with depth := s.depth + 1 }
    else if after.head? = some '[' then { s with arrayName := true }
    else { s with tableName := true }
  else if c = ']' then
    if s.tableName then { s with tableName := false }
    else if s.arrayName then
      if before.head? = some ']' then { s with arrayName := false } else s
    else { s with depth := s.depth - 1 }
  else s

/-- What a line end within a string becomes after some characters. Behind the opening quotes it
becomes one of them, in place of the first. -/
def joinQuotes : List Char → List Char
  | a :: b :: rest =>
    if isQuote a ∧ b = a then
      a :: a :: b :: (if rest.head? = some a then ' ' :: rest.tail else rest)
    else '\n' :: a :: b :: rest
  | before => '\n' :: before

/-- Reads a line end: what is known then, and the characters up to it, latest first. -/
def lineEnd (s : Scan) (before : List Char) : Except Fault (Scan × List Char) :=
  if s.quote.isSome || s.severalLines then
    if s.severalLines then .ok (s, joinQuotes before) else .error .malformed
  else if s.depth ≠ 0 then .ok (s, ' ' :: before)
  else .ok ({ s with lineStart := true }, '\n' :: before)

/-- Reads a character that may begin a key. -/
def firstChar (s : Scan) (c : Char) : Except Fault Scan :=
  if !s.lineStart || c = ' ' || c = '\t' then .ok s
  else if s.inName then .ok { s with lineStart := false }
  else if c = '=' then .error .malformed
  else .ok { s with lineStart := false, key := .inside }

/-- Reads a character outside of keys and comments: what is known then, and the characters up to
it. `back` is what comes before it where quotes are looked for. -/
def plainChar (s : Scan) (back before : List Char) (c : Char) (after : List Char) :
    Except Fault (Scan × List Char) :=
  let s := s.quoteChar back c
  if c = '#' ∧ s.quote = none ∧ !s.inName then .ok ({ s with comment := true }, ' ' :: before)
  else
    let s := s.bracketChar before c after
    if c = '\n' then s.lineEnd before else (s.firstChar c).map (·, c :: before)

/-- Reads a character. -/
def char (s : Scan) (back before : List Char) (c : Char) (after : List Char) :
    Except Fault (Scan × List Char) :=
  if s.comment then
    if c = '\n' then { s with comment := false }.lineEnd before else .ok (s, ' ' :: before)
  else if s.key ≠ .outside then (s.keyChar before c after).map (·, c :: before)
  else s.plainChar back before c after

/-- Neither a key nor a string is left open. -/
def isComplete (s : Scan) : Bool :=
  s.key = .outside && s.quote.isNone

end Scan

/-- Reads all characters. Where quotes are looked for, the end of the text stands before its
beginning. -/
def scanFrom (ending : List Char) (s : Scan) (before : List Char) : List Char →
    Except Fault (List Char)
  | [] => if s.isComplete then .ok before.reverse else .error .malformed
  | c :: after =>
    match s.char (if isQuote c then before ++ ending else []) before c after with
    | .error fault => .error fault
    | .ok (s, before) => scanFrom ending s before after

/-- The lines of a file. -/
def scanLines (s : List Char) : Except Fault (List (List Char)) :=
  (scanFrom s.reverse {} [] s).map lines

end TypeLineage.Toml
