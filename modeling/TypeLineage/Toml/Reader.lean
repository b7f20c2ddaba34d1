import TypeLineage.Toml.Entry
import TypeLineage.Toml.Line
import TypeLineage.Toml.Name
import TypeLineage.Toml.Place

/-!
Reading configuration files: values, and the lines of a file one after the other. A line opens a
table, holds an entry, or continues a string of several lines; what is none of these is passed over.
-/

namespace TypeLineage.Toml

open Text

/-- The kinds that an array keeps apart. -/
inductive Kind where
  | flag
  | integer
  | real
  | text
  | moment
  | list
  | table
  deriving DecidableEq

def Kind.of : Value → Kind
  | .null | .text _ => .text
  | .flag _ => .flag
  | .integer _ => .integer
  | .real _ => .real
  | .moment _ => .moment
  | .list _ => .list
  | .table _ => .table

/-- Values of the kind of the first one. -/
def isUniform : List Value → Bool
  | [] => true
  | v :: rest => rest.all fun w => Kind.of w = Kind.of v

/-- Reads the items of an array, as far as they are of the kind of those before them. -/
def itemValues (read : ValueReader) : (values : List Value) → List (List Char) →
    Except Fault (List Value)
  | values, [] => .ok values
  | values, item :: rest =>
    if (trim item).isEmpty then itemValues read values rest
    else do
      let v ← read true (trim item)
      if isUniform (values ++ [v]) then itemValues read (values ++ [v]) rest
      else .error .malformed

/-- A word in any case that is a truth value in lower case. -/
def isMisspelt (s : List Char) : Bool :=
  let lower := s.map Char.toLower
  lower = "true".toList || lower = "false".toList

/-- Reads a word that is a truth value or a number. -/
def word (strict : Bool) (s : List Char) : Except Fault Value :=
  if s = "true".toList then .ok (.flag true)
  else if s = "false".toList then .ok (.flag false)
  else if isMisspelt s || !strict then .error .malformed
  else
    match number? s with
    | some v => .ok v
    | none => .error .malformed

/-- Reads a value with a number of values inside each other. -/
def value : (depth : Nat) → ValueReader
  | 0, _, _ => .error .malformed
  | depth + 1, strict, s =>
    match s with
    | [] => .error .malformed
    | c :: _ =>
      if isQuote c then (string c s).map fun x => .text (String.ofList x)
      else if c = '[' then do
        let vs ← itemValues (value depth) [] (← items s)
        .ok (.list vs)
      else if c = '\x7b' then inlineTable (value depth) s (.table [])
      else word strict s

/-- Reads a value. What is inside a value is shorter than it. -/
def valueOf : ValueReader := fun strict s =>
  value (s.length + 1) strict s

/-- What was read so far, and a string that goes on. -/
structure Reading where
  opened : Opened
  pending : Option Pending

namespace Reading

/-- Whether a line closes a string of several lines or an array with one. -/
def closes (first : Char) (line : List Char) : Except Fault Bool :=
  if first = '[' then
    match line.getLast? with
    | none => .error .textEnd
    | some c => .ok (c = ']')
  else .ok (2 < line.length && (line.reverse.take 3).all (· = first))

/-- Sets the value of a key in the open table, whatever it was. -/
def assignPending (o : Opened) (k : String) (v : Value) : Opened :=
  match o.current with
  | .table t => o.put (.table (Table.store k v t))
  | _ => o

/-- Goes on with a string in another line. Lines are trimmed until a line end belongs to the
string. -/
def continueWith (o : Opened) (p : Pending) (line : List Char) : Except Fault Reading :=
  let line := if p.joining || !p.text.contains '\n' then trim line else line
  if line.isEmpty && p.joining then .ok ⟨o, some p⟩
  else do
    let text := p.text ++ line
    if ← closes (text.headD ' ') line then
      let v ← valueOf true text
      .ok ⟨assignPending o p.key v, none⟩
    else .ok ⟨o, some (.ofText p.key text)⟩

/-- Reads a trimmed line that begins with an opening bracket. -/
def header (o : Opened) (line : List Char) : Except Fault Reading := do
  match line with
  | '[' :: '[' :: rest =>
    let o ← o.openName true (← nameParts [']', ']'] rest)
    .ok ⟨o, none⟩
  | '[' :: c :: rest =>
    let o ← o.openName false (← nameParts [']'] (c :: rest))
    .ok ⟨o, none⟩
  | _ => .error .malformed

/-- Reads a trimmed line. -/
def plainLine (o : Opened) (line : List Char) : Except Fault Reading :=
  match line.head? with
  | none => .ok ⟨o, none⟩
  | some '[' => header o line
  | some '\x7b' =>
    if line.getLast? = some '\x7d' then do
      let v ← inlineTable valueOf line o.current
      .ok ⟨o.put v, none⟩
    else .error .malformed
  | some _ =>
    if line.contains '=' then do
      let (v, pending) ← entry valueOf line o.current
      .ok ⟨o.put v, pending⟩
    else .ok ⟨o, none⟩

def line (r : Reading) (s : List Char) : Except Fault Reading :=
  match r.pending with
  | some p => continueWith r.opened p s
  | none => plainLine r.opened (trim s)

def linesFrom : Reading → List (List Char) → Except Fault Reading
  | r, [] => .ok r
  | r, s :: rest => do linesFrom (← r.line s) rest

def start : Reading :=
  ⟨⟨.table [], [], []⟩, none⟩

end Reading

/-- The table that a text stands for. -/
def parse (s : List Char) : Except Fault Table := do
  let r ← Reading.linesFrom .start (← scanLines s)
  match r.opened.root with
  | .table t => .ok t
  | _ => .error .malformed

end TypeLineage.Toml
