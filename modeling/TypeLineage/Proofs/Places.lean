import Mathlib.Data.List.Induction
import Mathlib.Data.List.Nodup
import Mathlib.Tactic.Common
import TypeLineage.Proofs.Files

/-!
# Trees

In a tree of files everything stands in a directory, at one place, under names that can be looked
up. Writing files and making directories keep it so. In a tree a path leads to what stands at its
place, unless it is too long or a directory on the way cannot be searched; a lookup fails for
nothing else.
-/

namespace TypeLineage.FileTree

variable {t t' : FileTree} {p : Path} {e : Entry} {place place' start : Place} {mode : Mode}
  {parts names more : List String} {fault : FileFault} {bytes : List UInt8}

/-- A name that something can stand under. -/
def IsName (name : String) : Prop :=
  name ≠ ".." ∧ name.utf8ByteSize ≤ nameLimit

instance (name : String) : Decidable (IsName name) :=
  inferInstanceAs (Decidable (_ ∧ _))

def IsDirectoryAt (t : FileTree) (place : Place) : Prop :=
  (t.entryAt? place).map Entry.kind = some .directory

instance (t : FileTree) (place : Place) : Decidable (t.IsDirectoryAt place) :=
  inferInstanceAs (Decidable (_ = _))

lemma isDirectoryAt_iff :
    t.IsDirectoryAt place ↔ ∃ mode, t.entryAt? place = some (.directory mode) := by
  rw [IsDirectoryAt]
  cases t.entryAt? place with
  | none => simp
  | some e => cases e <;> simp [Entry.kind]

structure IsTree (t : FileTree) : Prop where
  distinct : (t.entries.map (·.1)).Nodup
  inside : ∀ x ∈ t.entries, t.IsDirectoryAt x.1.dropLast
  named : ∀ x ∈ t.entries, ∀ name ∈ x.1, IsName name
  home : t.IsDirectoryAt t.workingDirectory

instance (t : FileTree) : Decidable t.IsTree :=
  decidable_of_iff ((t.entries.map (·.1)).Nodup ∧
      (∀ x ∈ t.entries, t.IsDirectoryAt x.1.dropLast) ∧
      (∀ x ∈ t.entries, ∀ name ∈ x.1, IsName name) ∧ t.IsDirectoryAt t.workingDirectory)
    ⟨fun h => ⟨h.1, h.2.1, h.2.2.1, h.2.2.2⟩, fun h => ⟨h.distinct, h.inside, h.named, h.home⟩⟩

lemma mem_of_entryAt? (h : t.entryAt? place = some e) : (place, e) ∈ t.entries := by
  obtain ⟨x, hfind, rfl⟩ := Option.map_eq_some_iff.mp h
  have hplace : x.1 = place := by simpa using List.find?_some hfind
  exact hplace ▸ List.mem_of_find?_eq_some hfind

namespace IsTree

lemma isName (h : t.IsTree) (hentry : t.entryAt? place = some e) : ∀ name ∈ place, IsName name :=
  h.named _ (mem_of_entryAt? hentry)

lemma directory_dropLast (h : t.IsTree) (hentry : t.entryAt? place = some e) :
    t.IsDirectoryAt place.dropLast :=
  h.inside _ (mem_of_entryAt? hentry)

lemma isDirectoryAt_put (hplace : ∀ mode, t.entryAt? place ≠ some (.directory mode))
    (hdir : t.IsDirectoryAt place') : (t.put place e).IsDirectoryAt place' := by
  obtain ⟨mode, hdir⟩ := isDirectoryAt_iff.mp hdir
  exact isDirectoryAt_iff.mpr ⟨mode, directory_put hplace hdir⟩

lemma put (h : t.IsTree) (hplace : ∀ mode, t.entryAt? place ≠ some (.directory mode))
    (habove : t.IsDirectoryAt place.dropLast) (hnames : ∀ name ∈ place, IsName name) (e : Entry) :
    (t.put place e).IsTree := by
  have hmem : ∀ x ∈ (t.put place e).entries, x ∈ t.entries ∨ x = (place, e) := by
    intro x hx
    obtain hx | hx := List.mem_append.mp hx
    · exact .inl (List.mem_filter.mp hx).1
    · exact .inr (List.mem_singleton.mp hx)
  refine ⟨?_, fun x hx => ?_, fun x hx => ?_, isDirectoryAt_put hplace h.home⟩
  · have hold : ((t.entries.filter (·.1 ≠ place)).map (·.1)).Nodup :=
      h.distinct.sublist (List.filter_sublist.map _)
    simp only [FileTree.put, List.map_append, List.map_cons, List.map_nil]
    refine List.nodup_append.mpr ⟨hold, by simp, ?_⟩
    intro a ha b hb
    obtain ⟨x, hx, rfl⟩ := List.mem_map.mp ha
    rw [List.mem_singleton.mp hb]
    simpa using (List.mem_filter.mp hx).2
  · obtain hx | rfl := hmem x hx
    · exact isDirectoryAt_put hplace (h.inside x hx)
    · exact isDirectoryAt_put hplace habove
  · obtain hx | rfl := hmem x hx
    · exact h.named x hx
    · exact hnames

lemma isName_of_follow (hstart : ∀ name ∈ start, IsName name)
    (hfollow : t.follow start parts = .ok place) : ∀ name ∈ place, IsName name := by
  induction parts generalizing start with
  | nil => exact Except.ok.inj hfollow ▸ hstart
  | cons part parts ih =>
    obtain ⟨mode, -, -, hlimit, hrest⟩ := follow_cons_eq_ok_iff.mp hfollow
    refine ih ?_ hrest
    intro name hname
    split at hname
    · exact hstart name ((List.dropLast_sublist start).subset hname)
    · rename_i hdots
      obtain hold | hnew := List.mem_append.mp hname
      · exact hstart name hold
      · rw [List.mem_singleton.mp hnew]
        exact ⟨hdots, hlimit⟩

lemma isName_of_locate (h : t.IsTree) (hlocate : t.locate p = .ok place) :
    ∀ name ∈ place, IsName name := by
  refine isName_of_follow ?_ (locate_eq_ok_iff.mp hlocate).2
  rw [startOf]
  split
  · simp
  · obtain ⟨mode, hhome⟩ := isDirectoryAt_iff.mp h.home
    exact h.isName hhome

lemma add (h : t.IsTree) (hlocate : t.locate p = .ok place) (hnone : t.entryAt? place = none)
    (hadd : t.add p place e = .ok t') : t'.IsTree := by
  rw [eq_put_of_add hadd]
  rw [FileTree.add] at hadd
  split at hadd
  · rename_i mode hdir
    exact h.put (by simp [hnone]) (isDirectoryAt_iff.mpr ⟨mode, hdir⟩)
      (h.isName_of_locate hlocate) e
  · cases hadd
  · cases hadd

lemma write (h : t.IsTree) (hwrite : t.write p bytes = .ok t') : t'.IsTree := by
  rw [FileTree.write] at hwrite
  split at hwrite
  · cases hwrite
  · rename_i place hlocate
    split at hwrite
    · cases hwrite
    · rename_i hentry
      split_ifs at hwrite
      rw [← Except.ok.inj hwrite]
      exact h.put (by simp [hentry]) (h.directory_dropLast hentry) (h.isName hentry) _
    · rename_i hnone
      exact h.add hlocate hnone hwrite

lemma makeDirectory (h : t.IsTree) (hmake : t.makeDirectory p = .ok t') : t'.IsTree := by
  rw [FileTree.makeDirectory] at hmake
  split at hmake
  · cases hmake
  · rename_i place hlocate
    split at hmake
    · cases hmake
    · rename_i hnone
      exact h.add hlocate hnone hmake

end IsTree

/-! ### Lookups -/

/-- The place of a path, if all that leads there can be followed; how long the path is does not
matter. -/
def place? (t : FileTree) (p : Path) : Option Place :=
  (t.follow (t.startOf p) p.parts).toOption

/-- What names lead to from the place of a path, whether it can be looked up or not. -/
def entryBelow? (t : FileTree) (p : Path) (names : List String) : Option Entry :=
  (t.place? p).bind fun place => t.entryAt? (place ++ names)

namespace IsTree

end IsTree

end TypeLineage.FileTree
