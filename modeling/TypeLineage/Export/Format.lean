import TypeLineage.Export.Dot
import TypeLineage.Export.Page
import TypeLineage.Export.Payload

/-!
The formats in which a graph is exported.
-/

namespace TypeLineage

inductive ExportFormat where
  | json
  | dot
  | page
  deriving DecidableEq, Repr

namespace ExportFormat

def all : List ExportFormat :=
  [.json, .dot, .page]

/-- The name of a format; the file of an export ends in it too. -/
def name : ExportFormat → String
  | .json => "json"
  | .dot => "dot"
  | .page => "html"

def ofName? (s : String) : Option ExportFormat :=
  all.find? fun format => format.name = s

end ExportFormat

/-- The text of the focused graph in a format. -/
def Graph.exported (g : Graph) (format : ExportFormat) (focusText layout nodeSize : String) :
    List Char :=
  match format with
  | .json => g.jsonExport focusText
  | .dot => g.dotExport focusText (.ofName layout) nodeSize
  | .page => g.pageExport focusText nodeSize

end TypeLineage
