import TypeLineage.Command.Arguments
import TypeLineage.Console.Output
import TypeLineage.Setting.Store

/-!
What a command leaves behind: the files, what it puts out and how it ends.
-/

namespace TypeLineage.Command

/-- How a command ends. -/
inductive Ending where
  | done
  /-- The command has said why it stops. -/
  | stopped
  | usage (u : Usage)
  | file (fault : FileFault)
  | settings (fault : Setting.StoreFault)

/-- The exit code. Mistakes in the arguments have one of their own. -/
def Ending.code : Ending → Nat
  | .done => 0
  | .usage _ => 2
  | _ => 1

/-- What is told about an ending, unless the command has said all there is to say. -/
def Ending.message? : Ending → Option String
  | .done | .stopped => none
  | .usage u => some u.message
  | .file fault => some fault.message
  | .settings fault => some fault.message

structure Report where
  files : FileTree
  outputs : List Console.Output
  ending : Ending

end TypeLineage.Command
