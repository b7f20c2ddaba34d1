import TypeLineage.Path
import TypeLineage.Text.Quoted

/-!
Files as a reader of them sees them at one moment, with the failures that reading and changing files
can come to. Where a path leads, through links or not, is for the file system to say.
-/

namespace TypeLineage

/-- What a path could not be used for. -/
inductive FileFault where
  | missing (path : String)
  | denied (path : String)
  | present (path : String)
  | notDirectory (path : String)
  | isDirectory (path : String)
  /-- The path, or one of its names, is longer than it can be. -/
  | tooLong (path : String)
  /-- Links that lead back to themselves. The others are faults of the operating system; this one is
  found out when a path is resolved. -/
  | circular (path : String)
  deriving DecidableEq, Repr

namespace FileFault

def systemMessage (number : Nat) (text path : String) : String :=
  s!"[Errno {number}] {text}: {Text.quotedString path}"

def message : FileFault → String
  | .missing path => systemMessage 2 "No such file or directory" path
  | .denied path => systemMessage 13 "Permission denied" path
  | .present path => systemMessage 17 "File exists" path
  | .notDirectory path => systemMessage 20 "Not a directory" path
  | .isDirectory path => systemMessage 21 "Is a directory" path
  | .tooLong path => systemMessage 36 "File name too long" path
  | .circular path => "Symlink loop from " ++ Text.quotedString path

end FileFault

inductive FileKind where
  | file
  | directory
  deriving DecidableEq, Repr

structure Files where
  /-- The text of the absolute path that a path stands for, with all links followed. -/
  resolve : Path → Except FileFault String
  /-- What a path leads to, if to anything. Only a path that cannot be looked up is a failure. -/
  look : Path → Except FileFault (Option FileKind)
  /-- The text of a file, with what is not valid replaced and line ends unified. -/
  readText : Path → Except FileFault (List Char)
  /-- The names that lead from a directory to what is below it, as far as it can be listed. -/
  list : Path → Except FileFault (List (List String))

end TypeLineage
