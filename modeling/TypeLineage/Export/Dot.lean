import Std.Data.HashMap
import TypeLineage.Graph.Focus
import TypeLineage.Number.Notation
import TypeLineage.Text.Find

/-!
The graph in the DOT language. Nodes are statements of their own; the cluster layout puts those
with the same topmost ancestor into one subgraph.
-/

namespace TypeLineage

inductive Layout where
  | force
  | tree
  | cluster
  deriving DecidableEq, Repr

/-- The layout of a name. Unknown names are laid out as trees. -/
def Layout.ofName (name : String) : Layout :=
  if name = "force" then .force else if name = "cluster" then .cluster else .tree

namespace Graph

/-- The link that gives a node its parent: the last one that ends there. -/
def parentOf? (g : Graph) (id : String) : Option String :=
  (g.links.reverse.find? (·.target = id)).map (·.source)

/-- The parents of all nodes that have one. -/
def parents (g : Graph) : Std.HashMap String String :=
  g.links.foldl (fun table e => table.insert e.target e.source) ∅

/-- Follows parents for a number of steps, up to an identifier without parent or one whose parent
was seen before. -/
def climbParents (parent? : String → Option String) :
    (steps : Nat) → (seen : List String) → String → String
  | 0, _, id => id
  | steps + 1, seen, id =>
    match parent? id with
    | none => id
    | some above =>
      if seen.contains above then id else climbParents parent? steps (above :: seen) above

theorem getElem?_parents (g : Graph) (id : String) : g.parents[id]? = g.parentOf? id := by
  suffices h : ∀ es : List GraphLink,
      (es.foldr (fun e table => table.insert e.target e.source)
        (∅ : Std.HashMap String String))[id]? = (es.find? (·.target = id)).map (·.source) by
    rw [parents, ← List.foldr_reverse, parentOf?]
    exact h _
  intro es
  induction es with
  | nil => simp
  | cons e es ih =>
    by_cases he : e.target = id
    · simp [he]
    · simp [he, ih, Std.HashMap.getElem?_insert]

/-- The topmost ancestor by a table of parents, for a number of steps. -/
def topmostIn (parents : Std.HashMap String String) (steps : Nat) (id : String) : String :=
  climbParents (parents[·]?) steps [id] id

/-- The topmost ancestor by the links of the graph. Each step reaches the source of another
link. -/
def topmost (g : Graph) (id : String) : String :=
  topmostIn g.parents g.links.length id

end Graph

namespace Dot

/-- Writes a backslash before every double quote. -/
def escape (s : List Char) : List Char :=
  s.flatMap fun c => if c = '"' then ['\\', '"'] else [c]

def string (s : List Char) : List Char :=
  '"' :: escape s ++ ['"']

/-- The width of a node in hundredths. It grows with the number of properties, up to twenty, unless
all nodes have one size. -/
def hundredths (nodeSize : String) (properties : Nat) : Nat :=
  if nodeSize = "uniform" then 100 else 100 + 10 * min properties 20

def label (v : GraphNode) : List Char :=
  v.name.toList ++ "\\n(".toList ++ Binary64.digits v.properties.length ++ " props)".toList

def nodeLine (nodeSize : String) (v : GraphNode) : List Char :=
  "  ".toList ++ string v.id.toList ++ " [label=".toList ++ string (label v) ++
    ", shape=".toList ++ (if v.isRoot then "box".toList else "ellipse".toList) ++
    ", width=".toList ++ Binary64.hundredthsText (hundredths nodeSize v.properties.length) ++
    "];".toList

def linkLine (e : GraphLink) : List Char :=
  "  ".toList ++ string e.source.toList ++ " -> ".toList ++ string e.target.toList ++ [';']

def layoutLines : Layout → List (List Char)
  | .force => ["  layout=neato;".toList, "  overlap=false;".toList]
  | _ => ["  rankdir=TB;".toList]

/-- The nodes with their topmost ancestors. -/
def placed (g : Graph) : List (GraphNode × String) :=
  let parents := g.parents
  g.nodes.map fun v => (v, Graph.topmostIn parents g.links.length v.id)

theorem placed_eq (g : Graph) : placed g = g.nodes.map fun v => (v, g.topmost v.id) := rfl

/-- The topmost ancestors, each once, in order. -/
def tops (placed : List (GraphNode × String)) : List String :=
  placed.foldl (fun found (_, top) => if found.contains top then found else found ++ [top]) []

def clusterLines (placed : List (GraphNode × String)) (nodeSize : String) (index : Nat)
    (top : String) : List (List Char) :=
  ["  subgraph cluster_".toList ++ Binary64.digits index ++ [' ', '\x7b'],
   "    label=".toList ++ string top.toList ++ [';']] ++
  (placed.filter fun (_, t) => t = top).map (fun (v, _) => ' ' :: ' ' :: nodeLine nodeSize v) ++
  [[' ', ' ', '\x7d']]

def nodeLines (layout : Layout) (nodeSize : String) (g : Graph) : List (List Char) :=
  match layout with
  | .cluster =>
    let placed := placed g
    (tops placed).zipIdx.flatMap fun (top, index) => clusterLines placed nodeSize index top
  | _ => g.nodes.map (nodeLine nodeSize)

def statements (layout : Layout) (nodeSize : String) (g : Graph) : List (List Char) :=
  ["digraph TypeGraph ".toList ++ ['\x7b']] ++ layoutLines layout ++ nodeLines layout nodeSize g ++
    g.links.map linkLine ++ [['\x7d']]

end Dot

/-- The exported text of the focused graph. -/
def Graph.dotExport (g : Graph) (focusText : String) (layout : Layout) (nodeSize : String) :
    List Char :=
  Text.unlines (Dot.statements layout nodeSize (g.focus focusText))

end TypeLineage
