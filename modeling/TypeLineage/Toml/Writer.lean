import TypeLineage.Toml.Basic
import TypeLineage.Toml.Fault
import TypeLineage.Toml.Name

/-!
Writing configuration files. Within a table the plain entries come first, then arrays of tables.
Tables are written level by level, each under its full name if it has entries of its own or nothing
at all.
-/

namespace TypeLineage.Toml

open Text

/-! ### Strings -/

/-- Pairs of backslashes as single ones. -/
def halve : List Char → List Char
  | '\\' :: '\\' :: rest => '\\' :: halve rest
  | c :: rest => c :: halve rest
  | [] => []

/-- Whether the letter of an escape by two digits is kept behind a text. It is where an odd number
of backslashes, of which one at the very front does not count, ends the text, or none does. -/
def keepsLetter (s : List Char) : Bool :=
  let run := (s.reverse.takeWhile (· = '\\')).length
  run = 0 || (if run = s.length then run - 1 else run) % 2 = 1

/-- Puts two pieces together between which an escape by two digits stood. -/
def joinPieces (s t : List Char) : List Char :=
  let s := halve s
  s ++ (if keepsLetter s then ['x'] else ['u', '0', '0']) ++ t

/-- Turns the escapes by two digits into escapes by four as far as the backslashes before them
allow, given the pieces between them. An escape right at the front needs another one after it. -/
def widenFrom (s : List Char) : List (List Char) → Except Fault (List Char)
  | [] => .ok s
  | piece :: rest =>
    if s.isEmpty then
      match rest with
      | [] => .error .listEnd
      | next :: rest => widenFrom (joinPieces piece next) rest
    else widenFrom (joinPieces s piece) rest

/-- A text in double quotes. -/
def stringText (s : List Char) : Except Fault (List Char) :=
  match pieces ['\\', 'x'] (s.flatMap (Text.quoteChar '"')) with
  | [] => .ok ['"', '"']
  | piece :: rest => (widenFrom piece rest).map fun body => '"' :: body ++ ['"']

/-- A text that needs no quotes as a key. A line end behind it is passed over. -/
def isBareKey (k : List Char) : Bool :=
  isBareName (if k.getLast? = some '\n' then k.dropLast else k)

/-- A key, bare if it can be. -/
def keyText (k : List Char) : Except Fault (List Char) :=
  if isBareKey k then .ok k else stringText k

/-! ### Values -/

/-- Numbers as they are shown, but with exponents of no leading zero. -/
def numbers : Binary64.Style :=
  { Binary64.shown with exponentDigits := 1 }

/-- Texts as items of an array. -/
def textItems : List String → Except Fault (List Char)
  | [] => .ok []
  | s :: rest => do
    let text ← stringText s.toList
    .ok (' ' :: text ++ ',' :: (← textItems rest))

mutual

/-- A value on one line. A table inside an array of arrays is written as the list of its keys. -/
def valueText : Value → Except Fault (List Char)
  | .null => stringText "None".toList
  | .flag b => .ok (if b then "true".toList else "false".toList)
  | .integer n => if Value.isShort n then .ok (Value.integerText n) else .error .tooLong
  | .real x => .ok (x.text numbers)
  | .text s => stringText s.toList
  | .moment m => .ok m.plain
  | .list items => (itemsText items).map fun text => '[' :: text ++ [']']
  | .table entries =>
    (textItems (entries.map Prod.fst)).map fun text => '[' :: text ++ [']']

def itemsText : List Value → Except Fault (List Char)
  | [] => .ok []
  | v :: rest => do
    let text ← valueText v
    .ok (' ' :: text ++ ',' :: (← itemsText rest))

end

/-! ### Tables -/

/-- A table to be written. An entry without a value stands for a key that is not found under its
text. -/
abbrev Draft := List (String × Option Value)

def draftOf (t : Table) : Draft :=
  t.map fun (k, v) => (k, some v)

def isTable : Value → Bool
  | .table _ => true
  | _ => false

/-- A name of a table or of a table below it. -/
def dotted (above : List Char) (name : List Char) : List Char :=
  if above.isEmpty then name else above ++ '.' :: name

/-- Tables by written name. -/
abbrev Tables := List (String × Draft)

/-- What a table is written as: its entries on a line each, the arrays of tables in it, and the
tables in it, which are still to be written. -/
structure Sections where
  lines : List Char := []
  arrays : List Char := []
  tables : Tables := []

/-- All that is written of a table by itself. -/
def Sections.body (s : Sections) : List Char :=
  s.lines ++ s.arrays

def Sections.addLine (s : Sections) (key value : List Char) : Sections :=
  { s with lines := s.lines ++ key ++ " = ".toList ++ value ++ ['\n'] }

/-- A writer of tables, given the name above their entries. -/
abbrev TableWriter := (above : List Char) → Draft → Except Fault Sections

/-- What is written of an item among tables. What is no table has to be empty. -/
def arrayItem (write : TableWriter) (name : List Char) : Value → Except Fault Sections
  | .table t => write name (draftOf t)
  | .list [] | .text "" => .ok {}
  | .list (v :: _) => do
    let _ ← keyText v.plain
    .error .keyInList
  | .text s => do
    let _ ← keyText (s.toList.take 1)
    .error .keyInText
  | v => .error (.notIterable v.kindWord)

/-- Writes tables below one of an array, each with entries of its own, and gathers those below
them. -/
def writeLevel (write : TableWriter) (above : List Char) (written : List Char) (below : Tables) :
    Tables → Except Fault (List Char × Tables)
  | [] => .ok (written, below)
  | (name, t) :: rest => do
    let full := dotted above name.toList
    let s ← write full t
    let text := if s.body.isEmpty then [] else '[' :: full ++ [']', '\n'] ++ s.body
    let below := s.tables.foldl
      (fun below (k, u) => Keyed.put Prod.fst (name ++ "." ++ k, u) below) below
    writeLevel write above (written ++ text) below rest

/-- Writes tables below one of an array level by level, for a number of levels. -/
def writeLevels (write : TableWriter) (above : List Char) : (levels : Nat) → Tables →
    Except Fault (List Char)
  | 0, _ => .ok []
  | levels + 1, tables =>
    if tables.isEmpty then .ok []
    else do
      let (text, below) ← writeLevel write above [] [] tables
      .ok (text ++ (← writeLevels write above levels below))

/-- Writes an array of tables: for each its name and its entries, then a blank line, the arrays in
it and the tables below it. -/
def arrayText (write : TableWriter) (levels : Nat) (name : List Char) : List Value →
    Except Fault (List Char)
  | [] => .ok []
  | v :: rest => do
    let s ← arrayItem write name v
    let later ← writeLevels write name levels s.tables
    let body := if s.lines.isEmpty then '\n' :: s.arrays else s.body ++ ['\n']
    let text := '[' :: '[' :: name ++ [']', ']', '\n'] ++ body ++ later
    .ok (text ++ (← arrayText write levels name rest))

/-- Adds an entry to what is written of a table. -/
def addEntry (write : TableWriter) (levels : Nat) (above : List Char) (s : Sections)
    (entry : String × Option Value) : Except Fault Sections := do
  let key ← keyText entry.1.toList
  match entry.2 with
  | none => .error (.absentKey entry.1)
  | some .null => .ok s
  | some (.table t) =>
    .ok { s with tables := Keyed.put Prod.fst (String.ofList key, draftOf t) s.tables }
  | some (.list items) =>
    if items.any isTable then
      .ok { s with arrays := s.arrays ++ (← arrayText write levels (dotted above key) items) }
    else .ok (s.addLine key (← valueText (.list items)))
  | some v => .ok (s.addLine key (← valueText v))

/-- Writes a table whose arrays of tables are inside each other up to a depth. -/
def sections : (depth : Nat) → TableWriter
  | 0, _, _ => .ok {}
  | depth + 1, above, t => t.foldlM (addEntry (sections depth) depth above) {}

mutual

/-- A bound on the nesting of tables and arrays. -/
def depthOf : Value → Nat
  | .list items => depthOfItems items + 1
  | .table entries => depthOfEntries entries + 1
  | _ => 0

def depthOfItems : List Value → Nat
  | [] => 0
  | v :: rest => max (depthOf v) (depthOfItems rest)

def depthOfEntries : List (String × Value) → Nat
  | [] => 0
  | (_, v) :: rest => max (depthOf v) (depthOfEntries rest)

end

/-- Appends a table under its name, with a blank line in front unless one is there or nothing is
written yet. A table with nothing but tables in it does not appear itself. -/
def appendTable (written name : List Char) (s : Sections) : List Char :=
  if s.body.isEmpty && !s.tables.isEmpty then written
  else
    let gap := written.isEmpty || written.drop (written.length - 2) = ['\n', '\n']
    written ++ (if gap then [] else ['\n']) ++ '[' :: name ++ [']', '\n'] ++ s.body

/-- Appends tables, and gathers those below them. -/
def appendLevel (write : TableWriter) (written : List Char) (below : Tables) : Tables →
    Except Fault (List Char × Tables)
  | [] => .ok (written, below)
  | (name, t) :: rest => do
    let s ← write name.toList t
    let below := s.tables.foldl
      (fun below (k, u) => Keyed.put Prod.fst (name ++ "." ++ k, u) below) below
    appendLevel write (appendTable written name.toList s) below rest

/-- Appends tables level by level, for a number of levels. -/
def appendLevels (write : TableWriter) : (levels : Nat) → (written : List Char) → Tables →
    Except Fault (List Char)
  | 0, written, _ => .ok written
  | levels + 1, written, tables =>
    if tables.isEmpty then .ok written
    else do
      let (written, below) ← appendLevel write written [] tables
      appendLevels write levels written below

/-- A bound on the nesting of tables and arrays in a draft. -/
def depthOfDraft (d : Draft) : Nat :=
  depthOfEntries (d.filterMap fun (k, v) => v.map (k, ·))

/-- The text of a table in which drafts take the place of some tables. -/
def renderWith (drafts : Tables) (t : Table) : Except Fault (List Char) := do
  let depth := (drafts.map fun d => depthOfDraft d.2).foldl max (depthOfEntries t) + 1
  let s ← sections depth [] (draftOf t)
  let tables := drafts.foldl (fun tables d => Keyed.put Prod.fst d tables) s.tables
  appendLevels (sections depth) depth s.body tables

end TypeLineage.Toml
