import TypeLineage.Hierarchy.Basic

/-!
Linking declarations into a hierarchy. A declaration hangs below its parent; one without a parent
is a root if its name has the root suffix. All others, and what hangs below them, are out of reach.
-/

namespace TypeLineage

namespace Declaration

/-- The name of the parent; an empty name is none. -/
def parentName? (d : Declaration) : Option String :=
  d.parent.filter (· ≠ "")

def hasSuffix (suffix : String) (d : Declaration) : Bool :=
  suffix.toList.isSuffixOf d.name.toList

end Declaration

namespace Hierarchy

/-- The position of the declared parent, if it is among the declarations. -/
def parentIndex? (ds : List Declaration) (d : Declaration) : Option (Fin ds.length) :=
  d.parentName?.bind fun name => ds.findFinIdx? (·.name = name)

/-- The declarations whose parent is missing, with the missing name. -/
def danglings (ds : List Declaration) : List (String × String) :=
  ds.filterMap fun d =>
    match d.parentName? with
    | none => none
    | some name => if (parentIndex? ds d).isNone then some (d.name, name) else none

/-- The nodes of declarations with distinct names. A file name that is given replaces the one each
declaration has. -/
def linkedNodes (ds : List Declaration) (file : Option String) :
    Vector (TypeNode ds.length) ds.length :=
  let parents : Vector (Option (Fin ds.length)) ds.length :=
    Vector.ofFn fun i => parentIndex? ds ds[i]
  Vector.ofFn fun i =>
    { name := ds[i].name
      fields := ds[i].fields
      file := file.getD ds[i].file
      line := ds[i].line
      column := 0
      path := dotted ((chain (parents[·]) i).reverse.map fun j => ds[j].name)
      parent := parents[i]
      children := (List.finRange ds.length).filter fun j => parents[j] = some i }

/-- The hierarchy of declarations with distinct names. -/
abbrev ofDeclarations (ds : List Declaration) (file : Option String) : Hierarchy :=
  ⟨ds.length, linkedNodes ds file⟩

/-- The declarations without parent whose names have the suffix. -/
def tops (ds : List Declaration) (suffix : String) : List (Fin ds.length) :=
  (List.finRange ds.length).filter fun i => ds[i].parentName?.isNone && ds[i].hasSuffix suffix

/-- Links declarations with distinct names. -/
abbrev link (ds : List Declaration) (file : Option String) (suffix : String) : Rooted :=
  ⟨ofDeclarations ds file, tops ds suffix⟩

/-- Every declaration as a root of its own, without parents and children. -/
def unlinked (ds : List Declaration) : Rooted :=
  { hierarchy :=
      { size := ds.length
        nodes := Vector.ofFn fun i =>
          { name := ds[i].name
            fields := ds[i].fields
            file := ds[i].file
            line := ds[i].line
            column := 0
            path := ds[i].name
            parent := none
            children := [] } }
    roots := List.finRange ds.length }

end Hierarchy

end TypeLineage
