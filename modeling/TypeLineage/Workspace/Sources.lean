import TypeLineage.Declaration.Scan
import TypeLineage.DefineCall
import TypeLineage.Files
import TypeLineage.Notice

/-!
Reading the files of a workspace: generated declarations, or the `define` calls of all source files
below a directory.
-/

namespace TypeLineage.Workspace

/-- Directories of tools and of what they produce. Sources in them are not scanned. -/
def skippedDirectories : List String :=
  ["node_modules", ".git", "dist", "build", "out", "coverage", ".tactica", ".next", ".turbo",
   ".cache"]

def sourceExtensions : List String :=
  [".ts"]

/-- Where the generated declarations of a workspace are. -/
def declarationsPath (workspace : Path) : Path :=
  workspace.below [".tactica", "types.ts"]

def sourceDirectory (workspace : Path) : Path :=
  workspace.below ["src"]

def Finding.notice? : Declaration.Finding → Option Notice
  | .declared _ => none
  | .unterminated name line => some (.unterminated name line)

/-- What is told about parsing a text. -/
def parseNotices (text : List Char) (file : String) : List Notice :=
  (Declaration.findings text file).filterMap Finding.notice? ++
    [.parsed (Declaration.parse text file).length file]

/-- The order of lists of names: by the first name that differs, the shorter list first if none
does. -/
def comesFirst : List String → List String → Bool
  | [], _ => true
  | _ :: _, [] => false
  | a :: as, b :: bs => if a = b then comesFirst as bs else a < b

/-- Whether one of the names is that of a skipped directory. -/
def isSkipped (names : List String) : Bool :=
  names.any skippedDirectories.contains

/-- The extensions to look for; without any the usual ones. -/
def extensionsOr (extensions : List String) : List String :=
  if extensions.isEmpty then sourceExtensions else extensions

section Scanning

variable (files : Files)

/-- The text of a file, unless it is given. -/
def textOf (p : Path) (given : Option (List Char)) : Except FileFault (List Char) :=
  match given with
  | some text => .ok text
  | none => files.readText p

/-- The `define` calls of one file, the first of each name. -/
def fileCalls (p : Path) (given : Option (List Char)) : Except FileFault (List Declaration) :=
  (textOf files p given).map fun text => DefineCall.firsts text p.toString

/-- Whether a path leads to a source file. Only what has the name of one is looked up. -/
def isSource (extensions : List String) (p : Path) : Except FileFault Bool :=
  if extensions.contains p.suffix then (files.look p).map (· = some .file) else .ok false

/-- The calls in what names below a directory lead to, if it is a source file that is not skipped.
What is skipped is looked up all the same. -/
def callsBelow (extensions : List String) (directory : Path) (names : List String) :
    Except FileFault (List Declaration) := do
  let p := directory.below names
  let source ← isSource files extensions p
  if source && !isSkipped names then fileCalls files p none else .ok []

/-- Adds the calls in all that is listed, unless their names are known. -/
def gatherCalls (extensions : List String) (directory : Path) (known : List Declaration) :
    List (List String) → Except FileFault (List Declaration)
  | [] => .ok known
  | names :: rest => do
    let calls ← callsBelow files extensions directory names
    gatherCalls extensions directory
      (calls.foldl (fun known d => Keyed.putNew Declaration.name d known) known) rest

/-- The `define` calls below a directory, the first of each name; none if it is no directory. -/
def directoryCalls (extensions : List String) (directory : Path) :
    Except FileFault (List Declaration) := do
  let found ← files.look directory
  if found = some .directory then
    let listed ← files.list directory
    gatherCalls files (extensionsOr extensions) directory [] (listed.mergeSort comesFirst)
  else .ok []

/-- What is told about scanning a directory. -/
def scanNotices (extensions : List String) (directory : Path) : List Notice :=
  match files.look directory, directoryCalls files extensions directory with
  | .ok (some .directory), .ok calls => [.scanned calls.length directory.toString]
  | _, _ => []

end Scanning

end TypeLineage.Workspace
