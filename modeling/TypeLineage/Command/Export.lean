import TypeLineage.Command.Inspect
import TypeLineage.Command.Request

/-!
The command that exports the graph of a workspace to a file.
-/

namespace TypeLineage.Command

open Console

def unknownFormat : Usage :=
  .badValue none ("Format must be one of: " ++ ", ".intercalate (ExportFormat.all.map (·.name)))

/-- The format of a name in any case. -/
def formatOf (name : String) : Except Usage ExportFormat :=
  match ExportFormat.ofName? (String.ofList (name.toList.map Char.toLower)) with
  | some format => .ok format
  | none => .error unknownFormat

/-- A setting given for this occasion has to be a permitted one. -/
def checkSetting (s : Setting) : Option String → Except Usage Unit
  | none => .ok ()
  | some text =>
    match s.accept (.text text) with
    | .ok _ => .ok ()
    | .error fault => .error (.badValue none fault.message)

def checkExport (r : ExportRequest) : Except Usage ExportFormat := do
  let format ← formatOf r.format
  checkSetting .layout r.layout
  checkSetting .nodeSize r.nodeSize
  .ok format

/-- Where an export goes if nothing is said about it: into the working directory, named for the
workspace. -/
def defaultOutput (t : FileTree) (workspace : Path) (format : ExportFormat) : Path :=
  let name := (workspace.resolve t.workingDirectory).name
  let stem := if name.isEmpty then "workspace" else name
  ⟨.root, t.workingDirectory ++ [stem ++ "_types." ++ format.name]⟩

/-- The line that ends an export. -/
def exportedLine (types : Nat) (output : Path) : List Char :=
  "Exported ".toList ++ Binary64.digits types ++ " types to ".toList ++ output.toString.toList

/-- Exports the graph of a workspace. -/
def exportGraph (escape : List Char → List Char) (settings : Settings) (t : FileTree)
    (r : ExportRequest) : Report :=
  match checkExport r with
  | .error u => ⟨t, [], .usage u⟩
  | .ok format =>
    match loadTypes settings t r.workspace r.suffix with
    | .error fault => unreadable escape t fault
    | .ok (g, _) =>
      let hint := if g.nodes.isEmpty then emptyHint else []
      let output := r.output.getD (defaultOutput t r.workspace format)
      let layout := Setting.chosen r.layout settings.layout
      let nodeSize := Setting.chosen r.nodeSize settings.nodeSize
      match t.writeText output (g.exported format r.focus layout nodeSize) with
      | .error fault => ⟨t, hint, .file fault⟩
      | .ok t => ⟨t, hint ++ [.plain (exportedLine g.nodes.length output)], .done⟩

end TypeLineage.Command
