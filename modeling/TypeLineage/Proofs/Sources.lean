import TypeLineage.Proofs.Listing

/-!
# Scanning a directory

A scan comes to what the source files give that are met below a directory: those with the extension
and in no skipped directory, in the order of their names. Everything else only matters if looking it
up is refused.
-/

namespace TypeLineage.Workspace

variable {t : FileTree} {extensions : List String} {directory : Path} {known : List Declaration}
  {names : List String} {listed : List (List String)} {e : Entry} {α β : Type}
  {x : Except FileFault α} {fault : FileFault}

/-- Looking up names is refused, and they are looked up when the directory is scanned: there are
none, so that it is the directory itself, or what is met there has the extension or is a directory
and its path is too long to open it. -/
def Refuses (t : FileTree) (extensions : List String) (directory : Path) (names : List String)
    (fault : FileFault) : Prop :=
  t.look (directory.below names) = .error fault ∧ (names = [] ∨ ∃ e, t.Meets directory names e ∧
    (extensions.contains (directory.below names).suffix = true ∨
      e.kind = .directory ∧ FileTree.pathLimit < (directory.below names).toString.utf8ByteSize))

/-- The failure is that a lookup is refused. -/
def IsRefused (t : FileTree) (extensions : List String) (directory : Path)
    (x : Except FileFault α) : Prop :=
  ∃ names fault, Refuses t extensions directory names fault ∧ x = .error fault

lemma IsRefused.bind (h : IsRefused t extensions directory x) (f : α → Except FileFault β) :
    IsRefused t extensions directory (x >>= f) := by
  obtain ⟨names, fault, hrefuses, rfl⟩ := h
  exact ⟨names, fault, hrefuses, rfl⟩

lemma IsRefused.map (h : IsRefused t extensions directory x) (f : α → β) :
    IsRefused t extensions directory (x.map f) := by
  obtain ⟨names, fault, hrefuses, rfl⟩ := h
  exact ⟨names, fault, hrefuses, rfl⟩

/-- Names of a source file that is scanned. -/
def isScanned (t : FileTree) (extensions : List String) (directory : Path) (names : List String) :
    Bool :=
  extensions.contains (directory.below names).suffix && !isSkipped names &&
    (t.entryBelow? directory names).any (·.kind = .file)

/-- The names of the source files that are met below a directory, in order. -/
def sources (t : FileTree) (extensions : List String) (directory : Path) : List (List String) :=
  (((t.place? directory).elim [] t.namesMet).mergeSort comesFirst).filter
    (isScanned t extensions directory)

end TypeLineage.Workspace
