import TypeLineage.Export.Json
import TypeLineage.Graph.Focus

/-!
The graph as the structured data that renderers load.
-/

namespace TypeLineage.Graph

def fieldJson (f : Field) : Json :=
  .object [("name", .string f.name), ("type", .string f.type), ("optional", .bool f.optional)]

def nodeJson (v : GraphNode) : Json :=
  .object
    [("id", .string v.id), ("name", .string v.name), ("depth", .number v.depth),
     ("isRoot", .bool v.isRoot), ("properties", .array (v.properties.map fieldJson)),
     ("location", .object
       [("fileName", .string v.location.file), ("line", .number v.location.line),
        ("column", .number v.location.column)])]

def linkJson (e : GraphLink) : Json :=
  .object [("source", .string e.source), ("target", .string e.target)]

def payload (g : Graph) : Json :=
  .object [("nodes", .array (g.nodes.map nodeJson)), ("links", .array (g.links.map linkJson))]

/-- The exported text of the focused graph. -/
def jsonExport (g : Graph) (focusText : String) : List Char :=
  (g.focus focusText).payload.indented 0

end TypeLineage.Graph
