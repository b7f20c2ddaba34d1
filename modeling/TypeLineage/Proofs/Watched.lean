import TypeLineage.Proofs.Debounce
import TypeLineage.Proofs.Loads
import TypeLineage.Proofs.Sources

/-!
# What the watcher ignores

Loading a workspace depends on its declarations file and on its source files, and the watcher takes
all of them for relevant. So two trees that have the same relevant files give the same types, if the
same of them are found by listing directories. They need not if a lookup is refused: whether that is
noticed depends on the directories on the way.
-/

namespace TypeLineage

variable {t t₁ t₂ : FileTree} {w : Path}

namespace Watch.Handler

end Watch.Handler

namespace Workspace

open Provider (emptyFiles here)

/-- A file stands at names below a path. -/
def HasFile (t : FileTree) (p : Path) (names : List String) : Prop :=
  ∃ e, t.entryBelow? p names = some e ∧ e.kind = .file

/-- In both trees or in neither there is a file, and in both or in neither it can be read, with the
same content. -/
structure SameFile (t₁ t₂ : FileTree) (w : Path) (names : List String) : Prop where
  hasFile : HasFile t₁ w names ↔ HasFile t₂ w names
  read : HasFile t₁ w names →
    (t₁.read (w.below names)).toOption = (t₂.read (w.below names)).toOption

/-- If the file is in the source directory, it is found in both trees or in neither by listing. -/
structure AgreeAt (t₁ t₂ : FileTree) (w : Path) (names : List String) : Prop
    extends SameFile t₁ t₂ w names where
  meets : HasFile t₁ w names → ∀ rest, names = "src" :: rest →
    ((∃ e, t₁.Meets (sourceDirectory w) rest e) ↔ ∃ e, t₂.Meets (sourceDirectory w) rest e)

section Agreement

variable {names : List String} {listed : List (List String)} {known : List Declaration} {p : Path}
  {found : Option Entry} {e : Entry}

lemma AgreeAt.symm (h : AgreeAt t₁ t₂ w names) : AgreeAt t₂ t₁ w names :=
  ⟨⟨h.hasFile.symm, fun hfile => (h.read (h.hasFile.mpr hfile)).symm⟩,
    fun hfile rest hrest => (h.meets (h.hasFile.mpr hfile) rest hrest).symm⟩

end Agreement

end Workspace

end TypeLineage
