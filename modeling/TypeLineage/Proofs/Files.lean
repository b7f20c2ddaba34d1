import Mathlib.Data.List.Basic
import Mathlib.Tactic.Common
import TypeLineage.FileTree

/-!
# Writing files

A file that has been written is found under its path and can be written again. An entry that is put
where no directory is leaves all paths that could be followed as they were.
-/

namespace TypeLineage.FileTree

variable {t t' : FileTree} {p : Path} {e : Entry} {mode : Mode} {bytes : List UInt8}
  {place place' start : Place} {parts : List String}

lemma entryAt?_put_of_ne (hne : place' ≠ place) :
    (t.put place e).entryAt? place' = t.entryAt? place' := by
  have hfilter : (t.entries.filter (·.1 ≠ place)).find? (·.1 = place') =
      t.entries.find? (·.1 = place') := by
    rw [List.find?_filter]
    congr 1
    funext x
    by_cases hx : x.1 = place'
    · simp [hx, hne]
    · simp [hx]
  have hlast : [(place, e)].find? (·.1 = place') = none := by simp [Ne.symm hne]
  rw [entryAt?, entryAt?]
  simp only [put, List.find?_append, hfilter, hlast, Option.or_none]

lemma entryAt?_put_self : (t.put place e).entryAt? place = some e := by
  have hfilter : (t.entries.filter (·.1 ≠ place)).find? (·.1 = place) = none := by
    rw [List.find?_eq_none]
    intro x hx
    simpa using (List.mem_filter.mp hx).2
  rw [entryAt?]
  simp only [put, List.find?_append, hfilter]
  simp

lemma directory_put (hplace : ∀ mode, t.entryAt? place ≠ some (.directory mode))
    (hdir : t.entryAt? place' = some (.directory mode)) :
    (t.put place e).entryAt? place' = some (.directory mode) := by
  rw [entryAt?_put_of_ne, hdir]
  rintro rfl
  exact hplace mode hdir

lemma follow_cons_eq_ok_iff {part : String} : t.follow start (part :: parts) = .ok place ↔
    ∃ mode, t.entryAt? start = some (.directory mode) ∧ mode.search = true ∧
      part.utf8ByteSize ≤ nameLimit ∧
      t.follow (if part = ".." then start.dropLast else start ++ [part]) parts = .ok place := by
  rw [follow]
  constructor
  · intro h
    split at h
    · cases h
    · cases h
    · rename_i mode hdir
      split at h
      · cases h
      · rename_i hsearch
        split at h
        · cases h
        · rename_i hlimit
          exact ⟨mode, hdir, by simpa using hsearch, Nat.le_of_not_lt hlimit, h⟩
  · rintro ⟨mode, hdir, hsearch, hlimit, h⟩
    simpa only [hdir, hsearch, Bool.not_true, Bool.false_eq_true, if_false,
      if_neg (Nat.not_lt.mpr hlimit)] using h

lemma follow_put (hplace : ∀ mode, t.entryAt? place ≠ some (.directory mode))
    (h : t.follow start parts = .ok place') : (t.put place e).follow start parts = .ok place' := by
  induction parts generalizing start with
  | nil => exact h
  | cons part parts ih =>
    obtain ⟨mode, hdir, hsearch, hlimit, hrest⟩ := follow_cons_eq_ok_iff.mp h
    exact follow_cons_eq_ok_iff.mpr ⟨mode, directory_put hplace hdir, hsearch, hlimit, ih hrest⟩

lemma locate_eq_ok_iff : t.locate p = .ok place ↔
    p.toString.utf8ByteSize ≤ pathLimit ∧ t.follow (t.startOf p) p.parts = .ok place := by
  rw [locate]
  split_ifs with hlimit
  · exact iff_of_false (by simp) fun h => Nat.not_lt.mpr h.1 hlimit
  · exact (and_iff_right (Nat.le_of_not_lt hlimit)).symm

lemma locate_put (hplace : ∀ mode, t.entryAt? place ≠ some (.directory mode))
    (h : t.locate p = .ok place') : (t.put place e).locate p = .ok place' := by
  obtain ⟨hlimit, hfollow⟩ := locate_eq_ok_iff.mp h
  exact locate_eq_ok_iff.mpr ⟨hlimit, follow_put hplace hfollow⟩

lemma isDirectory_iff : t.isDirectory p = true ↔
    ∃ place mode, t.locate p = .ok place ∧ t.entryAt? place = some (.directory mode) := by
  rw [isDirectory, find?]
  cases t.locate p with
  | error block => simp
  | ok place =>
    cases hentry : t.entryAt? place with
    | none => simp [hentry]
    | some e => cases e <;> simp [hentry, Entry.kind]

section Parents

lemma utf8ByteSize_intercalate_le (separator : String) (xs : List String) (x : String) :
    (separator.intercalate xs).utf8ByteSize ≤ (separator.intercalate (xs ++ [x])).utf8ByteSize := by
  induction xs with
  | nil => simp
  | cons y xs ih =>
    cases xs with
    | nil =>
      simp only [List.cons_append, List.nil_append, String.intercalate_cons_cons,
        String.intercalate_singleton, String.utf8ByteSize_append]
      omega
    | cons z xs =>
      simp only [List.cons_append, String.intercalate_cons_cons, String.utf8ByteSize_append] at ih ⊢
      omega

lemma toString_parent_short (hparts : p.parts ≠ []) (h : p.toString.utf8ByteSize ≤ pathLimit) :
    p.parent.toString.utf8ByteSize ≤ pathLimit := by
  rw [Path.toString, if_neg (by simp [hparts])] at h
  rw [Path.toString]
  split
  · decide
  · have hle := utf8ByteSize_intercalate_le "/" p.parts.dropLast (p.parts.getLast hparts)
    rw [List.dropLast_append_getLast] at hle
    rw [String.utf8ByteSize_append] at h ⊢
    simp only [Path.parent]
    omega

lemma exists_of_follow_concat {part : String} (h : t.follow start (parts ++ [part]) = .ok place) :
    ∃ above mode, t.follow start parts = .ok above ∧
      t.entryAt? above = some (.directory mode) := by
  induction parts generalizing start with
  | nil =>
    obtain ⟨mode, hdir, -⟩ := follow_cons_eq_ok_iff.mp h
    exact ⟨start, mode, rfl, hdir⟩
  | cons first parts ih =>
    obtain ⟨mode, hdir, hsearch, hlimit, hrest⟩ := follow_cons_eq_ok_iff.mp h
    obtain ⟨above, mode', hfollow, habove⟩ := ih hrest
    exact ⟨above, mode', follow_cons_eq_ok_iff.mpr ⟨mode, hdir, hsearch, hlimit, hfollow⟩, habove⟩

lemma isDirectory_parent (hlocate : t.locate p = .ok place) (hparts : p.parts ≠ []) :
    t.isDirectory p.parent = true := by
  obtain ⟨hlimit, hfollow⟩ := locate_eq_ok_iff.mp hlocate
  rw [← List.dropLast_append_getLast hparts] at hfollow
  obtain ⟨above, mode, hfollow, habove⟩ := exists_of_follow_concat hfollow
  have hshort := toString_parent_short hparts hlimit
  exact isDirectory_iff.mpr ⟨above, mode, locate_eq_ok_iff.mpr ⟨hshort, hfollow⟩, habove⟩

end Parents

section Directories

variable {anchor : Anchor}

lemma makeDirectory_of_isDirectory (h : t.isDirectory p = true) :
    t.makeDirectory p = .error (.present p.toString) := by
  obtain ⟨place, mode, hlocate, hdir⟩ := isDirectory_iff.mp h
  simp [makeDirectory, hlocate, hdir]

lemma ensureDirectory_of_isDirectory (h : t.isDirectory p = true) :
    t.ensureDirectory p = (t, none) := by
  rw [ensureDirectory, makeDirectory_of_isDirectory h]
  simp only [h, if_true]

lemma ensureFrom_of_isDirectory (h : t.isDirectory ⟨anchor, parts.reverse⟩ = true) :
    t.ensureFrom anchor parts = (t, none) := by
  cases parts with
  | nil => exact ensureDirectory_of_isDirectory h
  | cons part above =>
    rw [ensureFrom, makeDirectory_of_isDirectory h]
    exact ensureDirectory_of_isDirectory h

lemma ensureDirectories_of_isDirectory (h : t.isDirectory p = true) :
    t.ensureDirectories p = (t, none) :=
  ensureFrom_of_isDirectory (by simpa using h)

lemma ensureDirectories_parent (hlocate : t.locate p = .ok place)
    (hentry : t.entryAt? place = some e) :
    t.ensureDirectories p.parent = (t, none) ∨
      ∃ fault, t.ensureDirectories p.parent = (t, some fault) := by
  by_cases hparts : p.parts = []
  · have hparent : p.parent = p := by
      rw [Path.parent, hparts, List.dropLast_nil, ← hparts]
    have hmake : t.makeDirectory p = .error (.present p.toString) := by
      simp only [makeDirectory, hlocate, hentry]
    have hensure : t.ensureDirectories p.parent =
        (t, if t.isDirectory p then none else some (.present p.toString)) := by
      rw [hparent, ensureDirectories, hparts, List.reverse_nil, ensureFrom, ← hparts]
      simp only [ensureDirectory, hmake]
    rw [hensure]
    split_ifs
    · exact .inl rfl
    · exact .inr ⟨_, rfl⟩
  · exact .inl (ensureDirectories_of_isDirectory (isDirectory_parent hlocate hparts))

lemma eq_put_of_add (h : t.add p place e = .ok t') : t' = t.put place e := by
  rw [add] at h
  split at h
  · split_ifs at h
    exact (Except.ok.inj h).symm
  · cases h
  · cases h

lemma isDirectory_of_makeDirectory (h : t.makeDirectory p = .ok t') : t'.isDirectory p = true := by
  rw [makeDirectory] at h
  split at h
  · cases h
  · rename_i place hlocate
    split at h
    · cases h
    · rename_i hnone
      rw [eq_put_of_add h]
      exact isDirectory_iff.mpr
        ⟨place, .full, locate_put (by simp [hnone]) hlocate, entryAt?_put_self⟩

lemma isDirectory_of_ensureDirectory (h : t.ensureDirectory p = (t', none)) :
    t'.isDirectory p = true := by
  rw [ensureDirectory] at h
  split at h
  · rename_i hmake
    obtain ⟨rfl, -⟩ := Prod.mk.inj h
    exact isDirectory_of_makeDirectory hmake
  · split_ifs at h with hdir
    · obtain ⟨rfl, -⟩ := Prod.mk.inj h
      exact hdir
    · simp at h

lemma isDirectory_of_ensureFrom (h : t.ensureFrom anchor parts = (t', none)) :
    t'.isDirectory ⟨anchor, parts.reverse⟩ = true := by
  cases parts with
  | nil => exact isDirectory_of_ensureDirectory h
  | cons part above =>
    rw [ensureFrom] at h
    split at h
    · split at h
      · exact isDirectory_of_ensureDirectory h
      · simp at h
    · exact isDirectory_of_ensureDirectory h

lemma isDirectory_of_ensureDirectories (h : t.ensureDirectories p = (t', none)) :
    t'.isDirectory p = true := by
  simpa using isDirectory_of_ensureFrom h

end Directories

section Writing

lemma exists_of_write (h : t.write p bytes = .ok t') : ∃ place mode, t.locate p = .ok place ∧
    (∀ mode, t.entryAt? place ≠ some (.directory mode)) ∧ mode.write = true ∧
      ∀ bytes, t.write p bytes = .ok (t.put place (.file bytes mode)) := by
  unfold write at h ⊢
  split at h
  · cases h
  · rename_i place hlocate
    split at h
    · cases h
    · rename_i old mode hentry
      split_ifs at h with hwrite
      exact ⟨place, mode, hlocate, by simp [hentry], hwrite, fun _ => by simp [hwrite]⟩
    · rename_i hnone
      refine ⟨place, .full, hlocate, by simp [hnone], rfl, fun bytes' => ?_⟩
      unfold add at h ⊢
      split at h
      · rename_i habove
        split_ifs at h with hwrite
        simp only [if_pos hwrite]
      · cases h
      · cases h

lemma write_of_present {old : List UInt8} (hlocate : t.locate p = .ok place)
    (hold : t.entryAt? place = some (.file old mode)) (hwrite : mode.write = true)
    (bytes : List UInt8) : t.write p bytes = .ok (t.put place (.file bytes mode)) := by
  simp [write, hlocate, hold, hwrite]

lemma find?_of_write (h : t.write p bytes = .ok t') :
    ∃ mode, t'.find? p = some (.file bytes mode) := by
  obtain ⟨place, mode, hlocate, hplace, -, hwrites⟩ := exists_of_write h
  obtain rfl := Except.ok.inj ((hwrites bytes).symm.trans h)
  exact ⟨mode, by simp only [find?, locate_put hplace hlocate, entryAt?_put_self]⟩

lemma read_put (hplace : ∀ mode, t.entryAt? place ≠ some (.directory mode))
    (hlocate : t.locate p = .ok place) : (t.put place (.file bytes mode)).read p =
      if mode.read then .ok bytes else .error (.denied p.toString) := by
  simp only [read, locate_put hplace hlocate, entryAt?_put_self]

lemma read_eq_ok_iff : t.read p = .ok bytes ↔ ∃ place mode, t.locate p = .ok place ∧
    t.entryAt? place = some (.file bytes mode) ∧ mode.read = true := by
  rw [read]
  constructor
  · intro h
    split at h
    · cases h
    · rename_i place hlocate
      split at h
      · cases h
      · cases h
      · rename_i old mode hentry
        split_ifs at h with hread
        exact ⟨place, mode, hlocate, by rw [hentry, Except.ok.inj h], hread⟩
  · rintro ⟨place, mode, hlocate, hentry, hread⟩
    simp only [hlocate, hentry, if_pos hread]

end Writing

end TypeLineage.FileTree
