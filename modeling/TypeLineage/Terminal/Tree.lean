import TypeLineage.Terminal.Layout
import TypeLineage.Outline

/-!
An outline as a tree with guide lines.
-/

namespace TypeLineage.Console

open Text

/-- Lines with a guide before the first and another before each of the others. -/
def guided (first others : List Char) : List (List Char) → List (List Char)
  | [] => []
  | line :: rest => (first ++ line) :: rest.map (others ++ ·)

mutual

/-- The lines of an outline, given the guides before its first line and before all after it. -/
def treeLines (first others : List Char) : Outline → Except Fault (List (List Char))
  | .mk label items => do
    let own ← styledLines (terminalColumns - columns first) label
    let below ← branchLines others items
    .ok (guided first others own ++ below)

/-- The lines of branches next to each other below the same guides. -/
def branchLines (above : List Char) : List Outline → Except Fault (List (List Char))
  | [] => .ok []
  | [last] => treeLines (above ++ "└── ".toList) (above ++ "    ".toList) last
  | item :: rest => do
    let own ← treeLines (above ++ "├── ".toList) (above ++ "│   ".toList) item
    let later ← branchLines above rest
    .ok (own ++ later)

end

/-- The printed tree of an outline. -/
def tree (o : Outline) : Except Fault (List (List Char)) :=
  treeLines [] [] o

end TypeLineage.Console
