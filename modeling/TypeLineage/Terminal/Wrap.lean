import TypeLineage.Text.Blank
import TypeLineage.Terminal.Cluster

/-!
Lines of limited width. A line is broken before the first word that does not fit on it any more. A
word wider than every line is either spread over several or left whole and then shortened.
-/

namespace TypeLineage.Text

/-- What becomes of a word that is wider than every line. -/
inductive WideWord where
  | spread
  | shortened
  deriving DecidableEq, Repr

/-- The words with the blanks after them, and before the first the blanks at the start. -/
def words (s : List Char) : List (List Char) :=
  match (trimStart s).splitBy fun c d => !isBlank c || isBlank d with
  | [] => []
  | word :: later => (s.takeWhile isBlank ++ word) :: later

/-- Spreads clusters over lines, given the line that was begun and the columns it takes. -/
def spreadFrom (width : Nat) (line : List Char) (used : Nat) : List Cluster → List (List Char)
  | [] => [line]
  | k :: later =>
    if used + k.columns ≤ width then spreadFrom width (line ++ k.text) (used + k.columns) later
    else line :: spreadFrom width k.text k.columns later

/-- The lines of a word that is spread. -/
def spread (width : Nat) (word : List Char) : List (List Char) :=
  spreadFrom width [] 0 (clusters word)

/-- Divides words into lines, given the line that was begun and the columns it takes. Only the
first line can be empty, and then it is not one yet. -/
def divideFrom (width : Nat) (wide : WideWord) (line : List Char) (used : Nat) :
    List (List Char) → List (List Char)
  | [] => [line]
  | word :: later =>
    let needed := columns (trimEnd word)
    let begun := if line.isEmpty then [] else [line]
    if used + needed ≤ width then
      divideFrom width wide (line ++ word) (used + columns word) later
    else if width < needed ∧ wide = .spread then
      let pieces := spread width word
      let last := pieces.getLastD []
      begun ++ pieces.dropLast ++ divideFrom width wide last (columns last) later
    else begun ++ divideFrom width wide word (columns word) later

/-- The lines into which a line is broken. Blanks alone are never broken. -/
def divide (width : Nat) (wide : WideWord) (s : List Char) : List (List Char) :=
  match words s with
  | [] => [s]
  | ws => divideFrom width wide [] 0 ws

/-- The clusters that fit into some columns, with a blank in place of half a cluster. There is no
answer for clusters that take fewer columns. -/
def cropClusters? : (room : Nat) → List Cluster → Option (List Char)
  | 0, [] => some []
  | _ + 1, [] => none
  | room, k :: later =>
    if k.columns ≤ room then (cropClusters? (room - k.columns) later).map (k.text ++ ·)
    else some (List.replicate room ' ')

/-- Cuts off what takes more than some columns. -/
def crop? (room : Nat) (s : List Char) : Option (List Char) :=
  cropClusters? room (clusters s)

/-- The line without blanks at its end that make it too long. -/
def dropExcess (width : Nat) (s : List Char) : List Char :=
  s.take (max (trimEnd s).length (min width s.length))

/-- Makes a line fit. An ellipsis marks where a word was shortened. Joiners at the beginning of a
line can make it wider than its clusters together, and then there may be nothing to cut off. -/
def fit? (width : Nat) (wide : WideWord) (s : List Char) : Option (List Char) :=
  let s := dropExcess width s
  if columns s ≤ width then some s
  else match wide with
    | .spread => crop? width s
    | .shortened => (crop? (width - 1) s).map (· ++ ['…'])

/-- Breaks a line so that each line fits. -/
def wrap? (width : Nat) (wide : WideWord) (s : List Char) : Option (List (List Char)) :=
  (divide width wide s).mapM (fit? width wide)

end TypeLineage.Text
