import TypeLineage.Terminal.Tree
import TypeLineage.Terminal.Sequence

/-!
How the outputs of a command look on the terminal. What has a tag that closes nothing, or a line
that cannot be made to fit, is not printed, and nothing after it. In plain text, control sequences
are left out.
-/

namespace TypeLineage.Console

/-- The lines of a notice, which fill the terminal, with the level before the first. -/
def noticeLines (n : Notice) : Except Fault (List (List Char)) := do
  let level := padEnd 8 n.level.text.toList ++ [' ']
  let width := terminalColumns - level.length
  let lines ← broken width .spread n.text.toList
  return guided level (blanks level.length) (lines.map (padEnd width))

/-- The table with the tags taken out of its rows. -/
def Table.plainRows (t : Table) : Except Fault Table := do
  let rows ← t.rows.mapM fun row => row.mapM untagged
  return { t with rows := rows }

namespace Output

def lines : Output → Except Fault (List (List Char))
  | .plain text => .ok [Text.withoutSequences text]
  | .styled text => styledLines terminalColumns text
  | .tree outline => Console.tree outline
  | .table t => t.plainRows.bind Table.lines
  | .notice n => noticeLines n

def lineText (line : List Char) : List Char :=
  line ++ ['\n']

/-- The printed text, up to what cannot be printed. -/
def print : List Output → List Char × Option Fault
  | [] => ([], none)
  | o :: rest =>
    match o.lines with
    | .error fault => ([], some fault)
    | .ok ls =>
      let (text, fault) := print rest
      (ls.flatMap lineText ++ text, fault)

end Output

end TypeLineage.Console
