import TypeLineage.Graph.Basic
import TypeLineage.Text.Find

/-!
Focusing a graph on the nodes whose identifier or name contains a text, together with their direct
neighbours.
-/

namespace TypeLineage.Graph

open Text

def GraphNode.mentions (text : String) (v : GraphNode) : Bool :=
  occursIn text.toList v.id.toList || occursIn text.toList v.name.toList

/-- The links with an end among the given identifiers. -/
def linksAt (g : Graph) (ids : List String) : List GraphLink :=
  g.links.filter fun e => ids.contains e.source || ids.contains e.target

/-- Restricts a graph to its focus. An empty text, or one that no node mentions, keeps it whole. -/
def focus (text : String) (g : Graph) : Graph :=
  let ids := (g.nodes.filter (GraphNode.mentions text)).map (·.id)
  if text.isEmpty ∨ ids.isEmpty then g
  else
    let links := g.linksAt ids
    let kept := ids ++ links.flatMap fun e => [e.source, e.target]
    ⟨g.nodes.filter fun v => kept.contains v.id, links⟩

end TypeLineage.Graph
