import TypeLineage.Declaration.Basic

/-!
Type hierarchies. Nodes are numbered and refer to each other by number, so sharing, cycles and
nodes of equal path can all be described.
-/

namespace TypeLineage

/-- One type. The children belong to the type; the parent only tells where its path comes from. -/
structure TypeNode (n : Nat) where
  name : String
  fields : List Field
  file : String
  line : Int
  column : Int
  path : String
  parent : Option (Fin n)
  children : List (Fin n)
  deriving DecidableEq, Repr

structure Hierarchy where
  size : Nat
  nodes : Vector (TypeNode size) size

namespace Hierarchy

/-- The number of a node. -/
abbrev Index (h : Hierarchy) := Fin h.size

def node (h : Hierarchy) (i : h.Index) : TypeNode h.size :=
  h.nodes[i]

/-- Follows parents for a number of steps, up to the first node already seen. -/
def climb {n : Nat} (parent : Fin n → Option (Fin n)) :
    (steps : Nat) → (seen : List (Fin n)) → Option (Fin n) → List (Fin n)
  | 0, _, _ => []
  | _, _, none => []
  | steps + 1, seen, some i =>
    if i ∈ seen then [] else i :: climb parent steps (i :: seen) (parent i)

/-- The node and its ancestors, outermost last. A cycle of parents is cut at its first repeat. -/
def chain {n : Nat} (parent : Fin n → Option (Fin n)) (i : Fin n) : List (Fin n) :=
  climb parent n [] (some i)

/-- The names from the outermost ancestor down to the node, with dots between them. -/
def dotted (names : List String) : String :=
  ".".intercalate names

/-- The path that the parents of a node give it. -/
def pathOf (h : Hierarchy) (i : h.Index) : String :=
  dotted ((chain (fun j => (h.node j).parent) i).reverse.map fun j => (h.node j).name)

end Hierarchy

/-- A hierarchy with the nodes at its top. -/
structure Rooted where
  hierarchy : Hierarchy
  roots : List hierarchy.Index

end TypeLineage
