import TypeLineage.Command.Run
import TypeLineage.Terminal.Report
import TypeLineage.Toml.Format

/-!
The command line tool. It takes a picture of the files that the arguments can refer to, runs the
command on it, and carries out what the command has written.
-/

namespace TypeLineage.Command

/-- The entry of one file or directory on disk. Whether it can be changed is not tried out. -/
def entryOnDisk (path : String) : IO (Option Entry) := do
  let path := (← IO.currentDir) / path
  if ← path.isDir then
    let read ← try let _ ← path.readDir; pure true catch _ => pure false
    return some (.directory ⟨read, true, ← (path / ".").pathExists⟩)
  if !(← path.pathExists) then return none
  try return some (.file (← IO.FS.readBinFile path).toList .full)
  catch _ => return some (.file [] ⟨false, true, false⟩)

def diskPath (place : Place) : String :=
  (Path.mk .root place).toString

/-- Adds what is on disk at a place. -/
def picture (t : FileTree) (place : Place) : IO FileTree := do
  match ← entryOnDisk (diskPath place) with
  | none => return t
  | some e => return t.put place e

/-- Adds the files below a directory, down to a number of levels. -/
def pictureBelow (t : FileTree) (place : Place) : (levels : Nat) → IO FileTree
  | 0 => return t
  | levels + 1 => do
    let mut t ← picture t place
    unless t.opens place [] do return t
    for e in ← ((← IO.currentDir) / diskPath place).readDir do
      unless Workspace.skippedDirectories.contains e.fileName do
        t ← pictureBelow t (place ++ [e.fileName]) levels
    return t

/-- Adds a path with all that leads to it and, if it is a workspace, the files in it that are
read. -/
def pictureAround (t : FileTree) (p : Path) : IO FileTree := do
  let place := (p.resolve t.workingDirectory).parts
  let mut t := t
  for n in List.range (p.parts.length + 1) do
    t ← picture t ((Path.mk p.anchor (p.parts.take n)).resolve t.workingDirectory).parts
  for names in [[".tactica"], [".tactica", "types.ts"]] do
    t ← picture t (place ++ names)
  pictureBelow t (place ++ ["src"]) 256

/-- Carries out what is new in the second picture. -/
def carryOut (before after : FileTree) : IO Unit := do
  for (place, e) in after.entries do
    if before.entryAt? place ≠ some e then
      match e with
      | .directory _ => IO.FS.createDirAll (diskPath place)
      | .file bytes _ => IO.FS.writeBinFile (diskPath place) bytes.toByteArray

/-- The directory of the tool's settings. -/
def homeDirectory : IO Path := do
  match ← IO.getEnv "TYPEGRAPH_HOME" with
  | some home => return Path.ofString home
  | none => return (Path.ofString ((← IO.getEnv "HOME").getD "/")).below [".typegraph"]

def perform (arguments : List String) : IO UInt32 := do
  let home ← homeDirectory
  let workingDirectory := (Path.ofString (← IO.currentDir).toString).parts
  let mut before := FileTree.bare workingDirectory
  for p in configFile home :: Path.relative [] :: arguments.map Path.ofString do
    before ← pictureAround before p
  let report := run Toml.format Markup.escape before home arguments
  let shown := report.shown
  carryOut before report.files
  (← IO.getStdout).putStr (String.ofList shown.text)
  if let some message := shown.message? then
    (← IO.getStderr).putStrLn message
  return shown.code.toUInt32

end TypeLineage.Command

def main (arguments : List String) : IO UInt32 :=
  TypeLineage.Command.perform arguments
