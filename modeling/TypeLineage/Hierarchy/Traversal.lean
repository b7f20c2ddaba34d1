import TypeLineage.Hierarchy.Basic

/-!
Two ways through a hierarchy. `reachable` lists every node once. `forest` is the depth-first forest
in which every path occurs once; graphs and outlines are read off it.
-/

namespace TypeLineage

namespace Hierarchy

/-- Takes nodes from a stack for a number of steps. A node not seen before is listed and its
children go on top. -/
def walk (h : Hierarchy) : (steps : Nat) → (seen stack : List h.Index) → List h.Index
  | 0, _, _ => []
  | _, _, [] => []
  | steps + 1, seen, i :: stack =>
    if i ∈ seen then walk h steps seen stack
    else i :: walk h steps (i :: seen) ((h.node i).children ++ stack)

/-- The number of times a node can be put on the stack: as a root, and once for each child entry
of each node. -/
def entries (h : Hierarchy) (roots : List h.Index) : Nat :=
  h.nodes.toList.foldl (fun total t => total + t.children.length) roots.length

/-- Every node that can be reached from the roots, once, depth first. -/
def reachable (h : Hierarchy) (roots : List h.Index) : List h.Index :=
  walk h (entries h roots) [] roots

end Hierarchy

/-- A node of a hierarchy with the branches below it. -/
inductive Branch (n : Nat) where
  | mk (node : Fin n) (below : List (Branch n))

namespace Hierarchy

/-- Branches for nodes in order, for a number of levels, passing over paths that are taken. The
second part is the list of taken paths afterwards. -/
def grow (h : Hierarchy) :
    (levels : Nat) → (taken : List String) → List h.Index → List (Branch h.size) × List String
  | 0, taken, _ => ([], taken)
  | levels + 1, taken, nodes =>
    nodes.foldl
      (fun (done, taken) i =>
        let path := (h.node i).path
        if path ∈ taken then (done, taken)
        else
          let (below, taken) := grow h levels (path :: taken) (h.node i).children
          (done ++ [Branch.mk i below], taken))
      ([], taken)

/-- The depth-first forest of the nodes below the roots. A branch uses up a new path at each level,
so it has at most as many levels as the hierarchy has nodes. -/
def forest (h : Hierarchy) (roots : List h.Index) : List (Branch h.size) :=
  (grow h h.size [] roots).1

end Hierarchy

end TypeLineage
