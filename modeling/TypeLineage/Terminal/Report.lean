import TypeLineage.Command.Report
import TypeLineage.Terminal.Print

/-!
What is seen of a command on the terminal: the printed text and how the command ends, which is
otherwise if something cannot be printed.
-/

namespace TypeLineage.Command

structure Shown where
  text : List Char
  ending : Ending
  fault : Option Console.Fault

def Report.shown (r : Report) : Shown :=
  let (text, fault) := Console.Output.print r.outputs
  ⟨text, r.ending, fault⟩

namespace Shown

def code (s : Shown) : Nat :=
  if s.fault.isSome then 1 else s.ending.code

def message? (s : Shown) : Option String :=
  match s.fault with
  | some fault => some fault.message
  | none => s.ending.message?

end Shown

end TypeLineage.Command
