import TypeLineage.Command.Report
import TypeLineage.Export.Json
import TypeLineage.Setting.Current
import TypeLineage.Workspace.Loader

/-!
Commands that show what is in a workspace or a file: the outline of its types, statistics of its
graph, and the declarations of one file.
-/

namespace TypeLineage.Command

open Console

variable (escape : List Char → List Char)

/-- What is shown when a workspace has no types. -/
def emptyHint : List Output :=
  [.styled "[yellow]No types found.[/yellow]".toList,
   .styled
     "[dim]Generate .tactica/types.ts first, e.g. run 'npx tactica'.[/dim]".toList]

/-- What is shown when something cannot be read. -/
def failureLine (what : List Char) (fault : FileFault) : Output :=
  .styled ("[red]✗[/red] ".toList ++ what ++ ": ".toList ++ escape fault.message.toList)

/-- The types of a workspace in a new provider. -/
def loadTypes (settings : Settings) (t : FileTree) (workspace : Path) (suffix : Option String) :
    Except FileFault (Graph × Provider) :=
  let (loaded, p) := (Provider.new (suffix.getD settings.rootSuffix)).load t.files workspace
  loaded.result.map (·, p)

/-- A report that a workspace cannot be read. Links that lead back to themselves are no fault of
reading, and end the command as they are. -/
def unreadable (t : FileTree) (fault : FileFault) : Report :=
  match fault with
  | .circular _ => ⟨t, [], .file fault⟩
  | _ => ⟨t, [failureLine escape "Could not read type declarations".toList fault], .stopped⟩

/-- Shows the types of a workspace as a tree. -/
def outline (settings : Settings) (t : FileTree) (workspace : Path) (fields : Option Bool)
    (suffix : Option String) : Report :=
  match loadTypes settings t workspace suffix with
  | .error fault => unreadable escape t fault
  | .ok (_, p) =>
    if p.roots.roots.isEmpty then ⟨t, emptyHint, .done⟩
    else ⟨t, [.tree (.ofHierarchy escape p.roots (fields.getD settings.showProperties))], .done⟩

def rightColumn (title : String) : Column :=
  ⟨title.toList, true⟩

def leftColumn (title : String) : Column :=
  ⟨title.toList, false⟩

/-- The table of the counts of a graph. -/
def summaryTable (g : Graph) : Console.Table :=
  let s := g.stats
  { title := "Type graph".toList
    columns := [leftColumn "Metric", rightColumn "Value"]
    rows :=
      [["Types".toList, Binary64.digits s.types],
       ["Relationships".toList, Binary64.digits s.relationships],
       ["Properties".toList, Binary64.digits s.properties],
       ["Max depth".toList, Value.integerText s.deepest],
       ["Average depth".toList, Binary64.twoPlaces g.depthStats.average]] }

/-- The table of the number of types at each depth. -/
def depthTable (g : Graph) : Console.Table :=
  { title := "Types by depth".toList
    columns := [rightColumn "Depth", rightColumn "Types"]
    rows := g.depthStats.byDepth.map fun (depth, count) =>
      [Value.integerText depth, Binary64.digits count] }

/-- Shows the counts and depths of the graph of a workspace. -/
def statistics (settings : Settings) (t : FileTree) (workspace : Path) (suffix : Option String) :
    Report :=
  match loadTypes settings t workspace suffix with
  | .error fault => unreadable escape t fault
  | .ok (g, _) =>
    if g.nodes.isEmpty then ⟨t, emptyHint, .done⟩
    else ⟨t, [.table (summaryTable g), .table (depthTable g)], .done⟩

def kindName : FieldKind → String
  | .plain => "plain"
  | .slot => "subtype_slot"

def fieldEntry (f : Field) : String × Json :=
  (f.name, .object [("type", .string f.type), ("optional", .bool f.optional),
    ("kind", .string (kindName f.kind))])

def declarationEntry (d : Declaration) : String × Json :=
  (d.name, .object
    [("parent", d.parent.elim .null .string), ("line", .number d.line),
     ("fields", .object (d.fields.map fieldEntry))])

/-- Shows the declarations of a file as structured data. -/
def declarations (t : FileTree) (file : Path) : Report :=
  match t.readText file with
  | .error fault =>
    ⟨t, [failureLine escape ("Could not read ".toList ++ escape file.toString.toList) fault],
      .stopped⟩
  | .ok text =>
    let ds := Declaration.parse text file.toString
    ⟨t, [.plain ((Json.object (ds.map declarationEntry)).indented 0)], .done⟩

end TypeLineage.Command
