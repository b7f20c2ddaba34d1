import TypeLineage.Hierarchy.Traversal
import TypeLineage.Number.Notation

/-!
The hierarchy as an outline of styled labels: a branch for every type, with its own fields as leaves
in front of its subtypes when they are asked for. How a text is made safe inside styled text is left
to the terminal.
-/

namespace TypeLineage

inductive Outline where
  | mk (label : List Char) (items : List Outline)

namespace Outline

def label : Outline → List Char
  | .mk label _ => label

def items : Outline → List Outline
  | .mk _ items => items

variable (escape : List Char → List Char)

def typeLabel {n : Nat} (t : TypeNode n) : List Char :=
  let line := Binary64.signText (t.line < 0) ++ Binary64.digits t.line.natAbs
  let location := t.file.toList ++ ':' :: line
  "[bold cyan]".toList ++ escape t.name.toList ++ "[/bold cyan] [dim](".toList ++
    Binary64.digits t.fields.length ++ " props) ".toList ++ escape location ++ "[/dim]".toList

def fieldLabel (f : Field) : List Char :=
  "[green]".toList ++ escape f.name.toList ++ (if f.optional then ['?'] else []) ++
    "[/green]: ".toList ++ escape f.type.toList

def fieldLeaves {n : Nat} (showFields : Bool) (t : TypeNode n) : List Outline :=
  if showFields then t.fields.map fun f => .mk (fieldLabel escape f) [] else []

mutual

def ofBranch (h : Hierarchy) (showFields : Bool) : Branch h.size → Outline
  | .mk i below =>
    .mk (typeLabel escape (h.node i))
      (fieldLeaves escape showFields (h.node i) ++ ofBranches h showFields below)

def ofBranches (h : Hierarchy) (showFields : Bool) : List (Branch h.size) → List Outline
  | [] => []
  | b :: rest => ofBranch h showFields b :: ofBranches h showFields rest

end

def title : List Char :=
  "[bold]Type hierarchy[/bold]".toList

/-- The outline of all types below the roots. -/
def ofHierarchy (r : Rooted) (showFields : Bool) : Outline :=
  .mk title (ofBranches escape r.hierarchy showFields (r.hierarchy.forest r.roots))

end Outline

end TypeLineage
