import TypeLineage.Notice
import TypeLineage.Outline

/-!
What a command puts out: lines, trees, tables and notices, one after the other. How they look is
left to the terminal.
-/

namespace TypeLineage.Console

structure Column where
  title : List Char
  alignRight : Bool

structure Table where
  title : List Char
  columns : List Column
  rows : List (List (List Char))

inductive Output where
  /-- Text that is printed as it is. -/
  | plain (text : List Char)
  | styled (text : List Char)
  | tree (outline : Outline)
  /-- A table whose rows hold styled text. -/
  | table (t : Table)
  | notice (n : Notice)

end TypeLineage.Console
