import TypeLineage.Terminal.Width

/-!
Clusters, the pieces of a text between which a line can end. A cluster begins with a character that
takes columns and goes on with what takes none, or with what is joined to it. Only what stands
before the first such character is a cluster without columns.
-/

namespace TypeLineage.Text

structure Cluster where
  text : List Char
  columns : Nat
  deriving DecidableEq, Repr

namespace Cluster

def none : Cluster :=
  ⟨[], 0⟩

/-- The cluster with further characters, which take some columns more. -/
def extend (k : Cluster) (s : List Char) (more : Nat) : Cluster :=
  ⟨k.text ++ s, k.columns + more⟩

end Cluster

/-- Cuts a text into clusters, given the one that was begun and the character that a selector would
widen. A joiner joins the next character, unless it is the first of all. -/
def clustersFrom (begun : Cluster) (before : Option Char) : List Char → List Cluster
  | [] => [begun]
  | '\u200D' :: c :: rest =>
    if begun.text.isEmpty then clustersFrom (begun.extend ['\u200D'] 0) before (c :: rest)
    else clustersFrom (begun.extend ['\u200D', c] 0) before rest
  | c :: rest =>
    if charWidth c ≠ 0 then begun :: clustersFrom ⟨[c], charWidth c⟩ (some c) rest
    else if c = '\uFE0F' then clustersFrom (begun.extend [c] (widening before)) .none rest
    else clustersFrom (begun.extend [c] 0) before rest

def clusters (s : List Char) : List Cluster :=
  (clustersFrom .none .none s).filter fun k => !k.text.isEmpty

end TypeLineage.Text
