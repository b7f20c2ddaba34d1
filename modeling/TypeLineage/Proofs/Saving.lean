import Mathlib.Tactic.Common
import TypeLineage.Proofs.Encoding
import TypeLineage.Proofs.Files
import TypeLineage.Setting.Store

/-!
# Writing the settings file

A file that can be written can be written again, and what was written last is read from it.
-/

namespace TypeLineage.Setting

variable {format : ConfigFormat} {t made : FileTree} {p : Path} {place : Place} {mode : Mode}

/-- The file can be written: its directory is there or can be made, it is no directory itself, and
its mode lets it be written, and be read afterwards. -/
def Writable (t : FileTree) (p : Path) : Prop :=
  (saveText t p ([], none)).result = .ok () ∧ (saveText t p ([], none)).files.read p = .ok []

/-- Whatever is written to a file, it comes to a place once the directories above are made. -/
structure WritesAt (t : FileTree) (p : Path) (made : FileTree) (place : Place) (mode : Mode) :
    Prop where
  ensured : t.ensureDirectories p.parent = (made, none)
  locate : made.locate p = .ok place
  free : ∀ mode, made.entryAt? place ≠ some (.directory mode)
  mayRead : mode.read = true
  mayWrite : mode.write = true
  writes : ∀ bytes, made.write p bytes = .ok (made.put place (.file bytes mode))

lemma WritesAt.saveText (h : WritesAt t p made place mode)
    (written : List Char × Option FormatFault) : saveText t p written =
      ⟨made.put place (.file (Utf8.encode written.1) mode),
        written.2.elim (.ok ()) fun fault => .error (.format fault)⟩ := by
  simp only [Setting.saveText, h.ensured, FileTree.writeText, h.writes]
  cases written.2 <;> rfl

lemma WritesAt.read (h : WritesAt t p made place mode) (bytes : List UInt8) :
    (made.put place (.file bytes mode)).read p = .ok bytes := by
  rw [FileTree.read_put h.free h.locate, if_pos h.mayRead]

lemma WritesAt.again (h : WritesAt t p made place mode) (bytes : List UInt8) :
    WritesAt (made.put place (.file bytes mode)) p (made.put place (.file bytes mode)) place
      mode := by
  obtain ⟨above, mode', hlocate, hdir⟩ :=
    FileTree.isDirectory_iff.mp (FileTree.isDirectory_of_ensureDirectories h.ensured)
  have hparent : (made.put place (.file bytes mode)).isDirectory p.parent = true :=
    FileTree.isDirectory_iff.mpr
      ⟨above, mode', FileTree.locate_put h.free hlocate, FileTree.directory_put h.free hdir⟩
  have hlocate' := FileTree.locate_put (e := .file bytes mode) h.free h.locate
  have hentry : (made.put place (.file bytes mode)).entryAt? place = some (.file bytes mode) :=
    FileTree.entryAt?_put_self
  exact ⟨FileTree.ensureDirectories_of_isDirectory hparent, hlocate', by simp [hentry], h.mayRead,
    h.mayWrite, FileTree.write_of_present hlocate' hentry h.mayWrite⟩

lemma writable_iff : Writable t p ↔ ∃ made place mode, WritesAt t p made place mode := by
  constructor
  · rintro ⟨hresult, hread⟩
    unfold saveText at hresult hread
    split at hresult
    · cases hresult
    · rename_i made hmade
      simp only [hmade] at hread
      split at hresult
      · cases hresult
      · rename_i t' hwrite
        obtain ⟨place, mode, hlocate, hfree, hmode, hwrites⟩ := FileTree.exists_of_write hwrite
        simp only [hwrite] at hread
        rw [FileTree.writeText, hwrites, Except.ok.injEq] at hwrite
        rw [← hwrite, FileTree.read_put hfree hlocate] at hread
        refine ⟨made, place, mode, hmade, hlocate, hfree, ?_, hmode, hwrites⟩
        by_contra hno
        rw [if_neg hno] at hread
        cases hread
  · rintro ⟨made, place, mode, h⟩
    rw [Writable, h.saveText]
    exact ⟨rfl, h.read _⟩

lemma look_of_read {bytes : List UInt8} (h : t.read p = .ok bytes) :
    ∃ e, t.look p = .ok (some e) := by
  obtain ⟨place, mode, hlocate, hentry, -⟩ := FileTree.read_eq_ok_iff.mp h
  exact ⟨.file bytes mode, by simp only [FileTree.look, hlocate, hentry]⟩

lemma loadFile_of_decoded {bytes : List UInt8} {text : List Char} (hread : t.read p = .ok bytes)
    (hdecode : Utf8.decode bytes = .ok text) :
    loadFile format t p = tableOf format (Utf8.unifyLineEnds text) := by
  obtain ⟨e, hlook⟩ := look_of_read hread
  simp only [loadFile, hlook, hread, hdecode]

lemma loadFile_of_undecoded {bytes : List UInt8} {fault : Utf8.Fault}
    (hread : t.read p = .ok bytes) (hdecode : Utf8.decode bytes = .error fault) :
    loadFile format t p = .error (.encoding fault) := by
  obtain ⟨e, hlook⟩ := look_of_read hread
  simp only [loadFile, hlook, hread, hdecode]

/-- What is written to a file is read from it, and it can be written again. -/
theorem saveText_of_writable (format : ConfigFormat) (h : Writable t p)
    (written : List Char × Option FormatFault) :
    (saveText t p written).result = written.2.elim (.ok ()) (fun fault => .error (.format fault)) ∧
      loadFile format (saveText t p written).files p =
        tableOf format (Utf8.unifyLineEnds written.1) ∧
      Writable (saveText t p written).files p := by
  obtain ⟨made, place, mode, h⟩ := writable_iff.mp h
  rw [h.saveText]
  refine ⟨rfl, ?_, writable_iff.mpr ⟨_, place, mode, h.again _⟩⟩
  exact loadFile_of_decoded (h.read _) (Utf8.decode_encode _)

end TypeLineage.Setting
