import TypeLineage.Declaration.Basic

/-!
The flat graph that renderers take: nodes with their properties, and links by node identifier.
-/

namespace TypeLineage

structure Location where
  file : String
  line : Int
  column : Int
  deriving DecidableEq, Repr

structure GraphNode where
  id : String
  name : String
  depth : Int
  isRoot : Bool
  properties : List Field
  location : Location
  deriving DecidableEq, Repr

structure GraphLink where
  source : String
  target : String
  deriving DecidableEq, Repr

structure Graph where
  nodes : List GraphNode
  links : List GraphLink
  deriving DecidableEq, Repr

namespace Graph

def propertyCount (g : Graph) : Nat :=
  g.nodes.foldl (fun total v => total + v.properties.length) 0

end Graph

end TypeLineage
