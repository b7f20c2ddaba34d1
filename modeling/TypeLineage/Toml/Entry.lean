import TypeLineage.Toml.Items
import TypeLineage.Toml.Quoted

/-!
Entries: a key, an equals sign and a value. An entry changes the table that it stands in; a dotted
key makes tables on its way. How values are read is a parameter here, because inline tables are
values that hold entries.
-/

namespace TypeLineage.Toml

open Text

/-- A reader of values: the text of one, and whether numbers have to be strict. -/
abbrev ValueReader := (strict : Bool) → List Char → Except Fault Value

/-! ### The key and the text of the value -/

/-- What stands before and after the equals sign with a number, or the last one if there are
fewer. -/
def splitAtEquals (number : Nat) (line : List Char) : List Char × List Char :=
  let count := (pieces ['='] line).length - 1
  (splitAt? ['='] (min number count) line).getD ([], line)

/-- The text after an equals sign can begin a value as it is. -/
def isValueStart (s : List Char) : Bool :=
  match s with
  | [] => true
  | c :: _ =>
    c = ' ' || c = '\t' || isQuote c || c = '[' || c = '\x7b' || trim s = "true".toList ||
      trim s = "false".toList

/-- Looks for the equals sign before the value: the first from a number on with a number or the
start of another value after it. `strict` tells whether all texts tried look like strict numbers.
The answer is the key, the text of the value, and that. -/
def valueFrom (line : List Char) : (steps number : Nat) → (key value : List Char) →
    (strict : Bool) → Except Fault (List Char × List Char × Bool)
  | 0, _, _, _, _ => .error .malformed
  | steps + 1, number, key, value, strict =>
    if isValueStart value || (Binary64.ofText? value).isSome then .ok (trim key, trim value, strict)
    else
      let (nextKey, next) := splitAtEquals (number + 1) line
      if next = value then .error .malformed
      else valueFrom line steps (number + 1) nextKey next (strict && isStrict next)

/-- The key of a line, the text of its value, and whether that looks like a strict number. -/
def keyAndValue (line : List Char) : Except Fault (List Char × List Char × Bool) :=
  let number := unquoted ['='] line
  let (key, value) := splitAtEquals number line
  let bare := if value.head?.any Char.isDigit then value.filter (· ≠ '_') else value
  valueFrom line (line.length + 2) number key bare (isStrict value)

/-! ### Keys -/

/-- The parts of a dotted key with quotes, given the cuts at the quotes. -/
def quotedParts (quoted : Bool) : List (List Char) → List (List Char)
  | [] => []
  | piece :: rest =>
    (if quoted then [piece] else (cut '.' piece).map trim) ++ quotedParts (!quoted) rest

/-- The names of the tables that a key leads through, and the key in the last of them. -/
def keyPath (key : List Char) : Except Fault (List String × String) :=
  if key.contains '.' then
    let parts := if key.any isQuote then quotedParts false (quoteCuts key) else cut '.' key
    match parts.reverse.dropWhile List.isEmpty with
    | [] => .error .listEnd
    | last :: above =>
      .ok ((above.reverse.filter (!·.isEmpty)).map String.ofList, String.ofList (trim last))
  else
    match key with
    | [] => .error .textEnd
    | c :: _ =>
      if isQuote c && key.getLast? = some c then
        (unescape (inner key)).map fun k => ([], String.ofList k)
      else .ok ([], String.ofList key)

/-! ### Strings of several lines -/

/-- A string that is closed on a later line: its key, its text so far, and whether the next line
goes on where it ends. -/
structure Pending where
  key : String
  text : List Char
  joining : Bool

/-- The text of a string goes on, without a backslash at its end. -/
def Pending.ofText (key : String) (text : List Char) : Pending :=
  if endsEscaped text then ⟨key, text.dropLast, true⟩ else ⟨key, text ++ ['\n'], false⟩

/-- The last item of an array that is not closed, given its pieces between commas, the last one
first. -/
def lastItem : List (List Char) → Except Fault (List Char)
  | [] => .ok []
  | [piece] => .ok piece
  | piece :: before :: rest =>
    match piece with
    | [] => .error .textEnd
    | c :: _ => if isQuote c then .ok piece else lastItem ((before ++ ',' :: piece) :: rest)
termination_by ps => ps.length

/-- A text that begins with three quotes and does not end with three others. -/
def isOpenText : List Char → Except Fault Bool
  | [] => .error .textEnd
  | c :: rest =>
    if !isQuote c then .ok false
    else
      match rest with
      | [] => .error .textEnd
      | [d] => if d = c then .error .textEnd else .ok false
      | d :: e :: more =>
        .ok (d = c && e = c &&
          !(3 ≤ more.length && ((c :: rest).reverse.take 3).all (· = c)))

/-- Whether a value goes on in later lines: a string of several lines, or an array with one. -/
def goesOn (value : List Char) : Except Fault Bool :=
  if value.length < 3 then .ok false
  else if value.head? = some '[' && value.getLast? ≠ some ']' && beginsWithString value then do
    let item ← lastItem (cut ',' (trim value.tail)).reverse
    isOpenText item
  else isOpenText value

/-! ### Tables -/

/-- Applies a change to the value that a path of names leads to. Tables are made where there are
none. -/
def within {α : Type} (change : Value → Except Fault (Value × α)) : List String → Value →
    Except Fault (Value × α)
  | [], v => change v
  | k :: ks, .table t =>
    (within change ks ((Table.lookup? k t).getD (.table []))).map fun (u, a) =>
      (.table (Table.store k u t), a)
  | _ :: _, .list _ => .error .keyInList
  | k :: _, .text s => .error (if occursIn k.toList s.toList then .keyInText else .fixedText)
  | _ :: _, v => .error (.noKeys v.kindWord)

/-- Adds an entry to a table that has none of its key; only tables have entries. -/
def addNew (k : String) (v : Value) : Value → Except Fault Value
  | .table t => if (Table.lookup? k t).isSome then .error .malformed else .ok (.table (Table.store k v t))
  | _ => .error .malformed

/-- Reads the value of a key into a table, unless the value goes on in later lines. -/
def assign (read : ValueReader) (k : String) (text : List Char) (strict : Bool) (v : Value) :
    Except Fault (Value × Option Pending) := do
  if ← goesOn text then
    let _ ← addNew k .null v
    if k.isEmpty then .error .nameless else .ok (v, some (.ofText k text))
  else
    let x ← read strict text
    .ok (← addNew k x v, none)

/-- Reads a line as an entry of a table. -/
def entry (read : ValueReader) (line : List Char) (v : Value) :
    Except Fault (Value × Option Pending) := do
  let (key, text, strict) ← keyAndValue line
  let (names, k) ← keyPath key
  within (assign read k text strict) names v

/-! ### Inline tables -/

/-- What can be the value of an entry of an inline table. -/
def isInlineValue (s : List Char) : Bool :=
  let enclosed (a b : Char) : Bool := s.head? = some a && s.getLast? = some b
  enclosed '"' '"' || enclosed '\'' '\'' || s.head?.any (fun c => c.isDigit || c = '-') ||
    s = "true".toList || s = "false".toList || enclosed '[' ']' || enclosed '\x7b' '\x7d'

/-- Whether a text is an entry of an inline table as far as it goes. -/
def isInlineEntry (s : List Char) : Except Fault Bool :=
  match s.dropWhile (· ≠ '=') with
  | [] => .error .malformed
  | _ :: value =>
    if (trim value).isEmpty then .error .textEnd else .ok (isInlineValue (trim value))

/-- Puts pieces between commas together to entries. -/
def inlineEntriesFrom (item : List Char) : List (List Char) → Except Fault (List (List Char))
  | [] => do
    if ← isInlineEntry item then .ok [item] else .error .malformed
  | piece :: rest => do
    if ← isInlineEntry item then
      let later ← inlineEntriesFrom piece rest
      .ok (item :: later)
    else inlineEntriesFrom (item ++ ',' :: piece) rest

/-- The entries of an inline table with its braces. -/
def inlineEntries (s : List Char) : Except Fault (List (List Char)) :=
  match cut ',' (inner s) with
  | [] => .ok []
  | [piece] => if (trim piece).isEmpty then .ok [] else inlineEntriesFrom piece []
  | piece :: rest => inlineEntriesFrom piece rest

/-- Reads entries into a table, up to one that goes on in later lines. -/
def entries (read : ValueReader) : List (List Char) → Value → Except Fault Value
  | [], v => .ok v
  | line :: rest, v => do
    match ← entry read line v with
    | (v, none) => entries read rest v
    | (v, some _) => .ok v

/-- Reads an inline table into a table. -/
def inlineTable (read : ValueReader) (s : List Char) (v : Value) : Except Fault Value := do
  entries read (← inlineEntries s) v

end TypeLineage.Toml
