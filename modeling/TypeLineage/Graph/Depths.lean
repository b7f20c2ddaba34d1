import TypeLineage.Graph.Basic
import TypeLineage.Number.Binary64

/-!
Depth statistics of a graph.
-/

namespace TypeLineage

/-- The depths that occur, ascending, each with the number of nodes, and the exact mean as a sum and
a count. -/
structure DepthStats where
  deepest : Int
  total : Int
  count : Nat
  byDepth : List (Int × Nat)
  deriving DecidableEq, Repr

namespace DepthStats

def ofDepths (depths : List Int) : DepthStats :=
  { deepest := depths.max?.getD 0
    total := depths.foldl (· + ·) 0
    count := depths.length
    byDepth := (depths.mergeSort (· ≤ ·)).eraseReps.map fun d => (d, depths.count d) }

/-- The mean depth, rounded once. It is zero when there are no depths. -/
def average (s : DepthStats) : Binary64 :=
  if s.count = 0 then .zero false else .ofRatio (s.total < 0) s.total.natAbs s.count

end DepthStats

def Graph.depthStats (g : Graph) : DepthStats :=
  .ofDepths (g.nodes.map (·.depth))

end TypeLineage
