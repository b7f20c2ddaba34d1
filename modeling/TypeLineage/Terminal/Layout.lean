import TypeLineage.Console.Output
import TypeLineage.Text.Find
import TypeLineage.Terminal.Markup
import TypeLineage.Terminal.Wrap

/-!
Plain terminal output: tabs, padding, and tables with frames. No line is wider than the terminal.
-/

namespace TypeLineage.Console

open Text

/-- The columns of the terminal. -/
def terminalColumns : Nat :=
  1000

/-- Why something cannot be printed. -/
inductive Fault where
  | markup (fault : Markup.Fault)
  /-- A line is too wide, but there is nothing to cut off. -/
  | unfitting
  deriving DecidableEq, Repr

def Fault.message : Fault → String
  | .markup fault => fault.message
  | .unfitting => "list index out of range"

/-- Breaks a line of the terminal. -/
def broken (width : Nat) (wide : WideWord) (s : List Char) : Except Fault (List (List Char)) :=
  (wrap? width wide s).elim (.error .unfitting) .ok

/-- The text without its tags. -/
def untagged (s : List Char) : Except Fault (List Char) :=
  (Markup.plain s).mapError .markup

def blanks (n : Nat) : List Char :=
  List.replicate n ' '

/-- Pieces of a line, each but the last with blanks in place of a tab. One of them at least stands
for the tab, and the others lead on to the next multiple of eight columns. -/
def alignPieces (column : Nat) : List (List Char) → List Char
  | [] => []
  | [piece] => piece
  | piece :: rest =>
    let piece := piece ++ [' ']
    let reached := column + columns piece
    let gap := (8 - reached % 8) % 8
    piece ++ blanks gap ++ alignPieces (reached + gap) rest

/-- Tabs as blanks up to the next multiple of eight columns. -/
def expandTabs (s : List Char) : List Char :=
  alignPieces 0 (cut '\t' s)

/-- The lines in which styled text is printed in some columns, none if there are no columns. -/
def styledLines (width : Nat) (s : List Char) : Except Fault (List (List Char)) := do
  let text ← untagged s
  if width = 0 then return []
  let printed ← (lines text).mapM fun line =>
    broken width .spread (if line.contains '\t' then expandTabs line else line)
  return printed.flatten

def padEnd (n : Nat) (s : List Char) : List Char :=
  s ++ blanks (n - columns s)

def padStart (n : Nat) (s : List Char) : List Char :=
  blanks (n - columns s) ++ s

/-- The text in the middle of a number of columns. -/
def centred (n : Nat) (s : List Char) : List Char :=
  let free := n - columns s
  blanks (free / 2) ++ s ++ blanks (free - free / 2)

namespace Table

/-- The text of the cells of a column, its title first. -/
def cellsAt (t : Table) (i : Nat) (c : Column) : List (List Char) :=
  c.title :: t.rows.map fun row => row.getD i []

/-- The columns of text that the cells of a column take. -/
def widthAt (t : Table) (i : Nat) (c : Column) : Nat :=
  ((t.cellsAt i c).map Text.columns).foldl max 0

/-- What is left for text beside the frame and the blanks around cells. -/
def room (t : Table) : Nat :=
  terminalColumns - (3 * t.columns.length + 1)

/-- Widths for some room. The widest is the one that gives way. -/
def narrowed (room : Nat) (widths : List Nat) : List Nat :=
  let excess := widths.foldl (· + ·) 0 - room
  widths.map fun w => if w = widths.foldl max 0 then w - excess else w

/-- The columns with the columns of text that each is given. -/
def sized (t : Table) : List (Column × Nat) :=
  t.columns.zip (narrowed t.room (t.columns.zipIdx.map fun (c, i) => t.widthAt i c))

def cell (c : Column) (width : Nat) (s : List Char) : List Char :=
  ' ' :: (if c.alignRight then padStart width s else padEnd width s) ++ [' ']

/-- A line of cells between upright strokes. -/
def cellLine (stroke : Char) (sized : List (Column × Nat)) (row : List (List Char)) : List Char :=
  stroke :: ((sized.zip row).flatMap fun ((c, width), s) => cell c width s ++ [stroke])

/-- The lines of a row, as many as its highest cell has. -/
def rowLines (stroke : Char) (sized : List (Column × Nat)) (row : List (List Char)) :
    Except Fault (List (List Char)) := do
  let cells ← (sized.zip row).mapM fun ((_, width), s) => broken width .shortened s
  let height := (cells.map (·.length)).foldl max 1
  return (List.range height).map fun i => cellLine stroke sized (cells.map fun ls => ls.getD i [])

/-- A line of strokes. -/
def ruleLine (left middle right stroke : Char) (sized : List (Column × Nat)) : List Char :=
  left :: [middle].intercalate (sized.map fun (_, width) => List.replicate (width + 2) stroke) ++
    [right]

def lines (t : Table) : Except Fault (List (List Char)) := do
  let sized := t.sized
  let top := ruleLine '┏' '┳' '┓' '━' sized
  let rows ← t.rows.mapM (rowLines '│' sized)
  return [centred (Text.columns top) t.title, top,
    cellLine '┃' sized (t.columns.map (·.title)), ruleLine '┡' '╇' '┩' '━' sized] ++
    rows.flatten ++ [ruleLine '└' '┴' '┘' '─' sized]

end Table

end TypeLineage.Console
