/-!
File paths as text. Doubled slashes and single dots vanish; two leading slashes are kept apart from
one. A path is only taken apart here, whether anything is there is another matter.
-/

namespace TypeLineage

inductive Anchor where
  | relative
  | root
  | doubleRoot
  deriving DecidableEq, Repr

structure Path where
  anchor : Anchor
  parts : List String
  deriving DecidableEq, Repr

namespace Path

def anchorOf (s : List Char) : Anchor :=
  match (s.takeWhile (· = '/')).length with
  | 0 => .relative
  | 2 => .doubleRoot
  | _ => .root

/-- The parts between slashes, without empty ones and single dots. -/
def partsOf (s : List Char) : List String :=
  ((s.splitBy fun a b => a ≠ '/' && b ≠ '/').map String.ofList).filter fun part =>
    part ≠ "/" && part ≠ "."

def ofString (s : String) : Path :=
  ⟨anchorOf s.toList, partsOf s.toList⟩

def Anchor.text : Anchor → String
  | .relative => ""
  | .root => "/"
  | .doubleRoot => "//"

def toString (p : Path) : String :=
  if p.anchor = .relative ∧ p.parts = [] then "."
  else Anchor.text p.anchor ++ "/".intercalate p.parts

/-- The parts of a path; a leading slash is one of them. -/
def names (p : Path) : List String :=
  if p.anchor = .relative then p.parts else Anchor.text p.anchor :: p.parts

def isAbsolute (p : Path) : Bool :=
  p.anchor ≠ .relative

def relative (parts : List String) : Path :=
  ⟨.relative, parts⟩

/-- Further parts below a path. -/
def below (p : Path) (parts : List String) : Path :=
  ⟨p.anchor, p.parts ++ parts⟩

def parent (p : Path) : Path :=
  ⟨p.anchor, p.parts.dropLast⟩

/-- The last part. -/
def name (p : Path) : String :=
  p.parts.getLast?.getD ""

/-- A name from its last dot on; none if that dot is the first or the last character. -/
def suffixOf (name : List Char) : List Char :=
  let back := name.reverse
  let ending := back.takeWhile (· ≠ '.')
  match back.dropWhile (· ≠ '.') with
  | _ :: _ :: _ => if ending.isEmpty then [] else '.' :: ending.reverse
  | _ => []

def suffix (p : Path) : String :=
  String.ofList (suffixOf p.name.toList)

/-- The parts below another path, by comparing parts. -/
def relativeTo? (p base : Path) : Option (List String) :=
  if p.anchor = base.anchor then base.parts.isPrefixOf? p.parts else none

/-- Follows parts from a place, where two dots go up. -/
def follow (place : List String) (parts : List String) : List String :=
  parts.foldl (fun place part => if part = ".." then place.dropLast else place ++ [part]) place

/-- The absolute path, with two dots taken away, seen from a working directory. -/
def resolve (workingDirectory : List String) (p : Path) : Path :=
  match p.anchor with
  | .relative => ⟨.root, follow workingDirectory p.parts⟩
  | anchor => ⟨anchor, follow [] p.parts⟩

end Path

end TypeLineage
