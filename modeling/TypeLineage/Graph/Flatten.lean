import TypeLineage.Graph.Basic
import TypeLineage.Hierarchy.Traversal

/-!
Flattening a hierarchy into a graph. Every branch of the depth-first forest gives one node and, if
it hangs below another, the link from there. Properties can be inherited along the branch.
-/

namespace TypeLineage.Graph

/-- Where a branch hangs: its depth, the identifier above it and the fields it inherits. -/
structure Place where
  depth : Nat
  above : Option String
  inherited : List Field

namespace Place

def top : Place := ⟨0, none, []⟩

/-- The properties of a type at this place. -/
def properties (p : Place) (inherit : Bool) (own : List Field) : List Field :=
  Field.merge (if inherit then p.inherited else []) own

end Place

/-- What a branch adds to the graph by itself. -/
structure Entry where
  node : GraphNode
  link : Option GraphLink

def entry {n : Nat} (inherit : Bool) (p : Place) (t : TypeNode n) : Entry :=
  { node :=
      { id := t.path
        name := t.name
        depth := p.depth
        isRoot := p.depth = 0
        properties := p.properties inherit t.fields
        location := ⟨t.file, t.line, t.column⟩ }
    link := p.above.map fun source => ⟨source, t.path⟩ }

/-- The place of what hangs below a type. -/
def Place.below {n : Nat} (inherit : Bool) (p : Place) (t : TypeNode n) : Place :=
  ⟨p.depth + 1, some t.path, p.properties inherit t.fields⟩

mutual

/-- The entries of a branch, itself first. -/
def entriesOf (h : Hierarchy) (inherit : Bool) (p : Place) : Branch h.size → List Entry
  | .mk i below =>
    entry inherit p (h.node i) :: entriesOfAll h inherit (p.below inherit (h.node i)) below

def entriesOfAll (h : Hierarchy) (inherit : Bool) (p : Place) : List (Branch h.size) → List Entry
  | [] => []
  | b :: rest => entriesOf h inherit p b ++ entriesOfAll h inherit p rest

end

/-- The graph of a hierarchy. -/
def ofHierarchy (r : Rooted) (inherit : Bool) : Graph :=
  let all := entriesOfAll r.hierarchy inherit .top (r.hierarchy.forest r.roots)
  ⟨all.map (·.node), all.filterMap (·.link)⟩

end TypeLineage.Graph
