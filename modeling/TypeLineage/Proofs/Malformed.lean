import Mathlib.Tactic.Common
import TypeLineage.Proofs.Store

/-!
# Settings files that are not read

What is made of a settings file whose text is no table. A malformed one counts as empty, so that it
is written anew without anything of what was in it. In any other one nothing is changed.
-/

namespace TypeLineage.Setting

/-- Why bytes are not read as a table. -/
def rejection? (format : ConfigFormat) (bytes : List UInt8) : Option StoreFault :=
  match Utf8.decode bytes with
  | .error fault => some (.encoding fault)
  | .ok text =>
    match format.read (Utf8.unifyLineEnds text) with
    | .error fault => some (.format fault)
    | .ok _ => none

/-- A fault that counts as an empty file. -/
def StoreFault.IsMalformed : StoreFault → Prop
  | .format (.malformed _) => True
  | _ => False

section Files

variable {format : ConfigFormat} {t : FileTree} {p : Path} {bytes : List UInt8}
  {fault : StoreFault}

lemma rejection?_cases (hrejected : rejection? format bytes = some fault) :
    (∃ told, Utf8.decode bytes = .error told ∧ fault = .encoding told) ∨
      ∃ text told, Utf8.decode bytes = .ok text ∧
        format.read (Utf8.unifyLineEnds text) = .error told ∧ fault = .format told := by
  rw [rejection?] at hrejected
  cases hdecode : Utf8.decode bytes with
  | error told =>
    rw [hdecode] at hrejected
    exact .inl ⟨told, rfl, (Option.some.inj hrejected).symm⟩
  | ok text =>
    rw [hdecode] at hrejected
    cases hformat : format.read (Utf8.unifyLineEnds text) with
    | error told =>
      simp only [hformat] at hrejected
      exact .inr ⟨text, told, rfl, hformat, (Option.some.inj hrejected).symm⟩
    | ok content =>
      simp only [hformat] at hrejected
      cases hrejected

lemma loadFile_of_malformed (hread : t.read p = .ok bytes)
    (hrejected : rejection? format bytes = some fault) (hmalformed : fault.IsMalformed) :
    loadFile format t p = .ok [] := by
  obtain ⟨told, hdecode, rfl⟩ | ⟨text, told, hdecode, hformat, rfl⟩ := rejection?_cases hrejected
  · cases hmalformed
  · rw [loadFile_of_decoded hread hdecode, tableOf, hformat]
    cases told with
    | malformed message => rfl
    | mistaken message => cases hmalformed
    | other kind message => cases hmalformed

lemma loadFile_of_rejected (hread : t.read p = .ok bytes)
    (hrejected : rejection? format bytes = some fault) (hfault : ¬ fault.IsMalformed) :
    loadFile format t p = .error fault := by
  obtain ⟨told, hdecode, rfl⟩ | ⟨text, told, hdecode, hformat, rfl⟩ := rejection?_cases hrejected
  · exact loadFile_of_undecoded hread hdecode
  · rw [loadFile_of_decoded hread hdecode, tableOf, hformat]
    cases told with
    | malformed message => exact absurd trivial hfault
    | mistaken message => rfl
    | other kind message => rfl

/-- All that is left of a file are some bytes, and all else is as it was. -/
structure LeftWith (t : FileTree) (p : Path) (bytes : List UInt8) (after : FileTree) : Prop where
  read : after.read p = .ok bytes
  others : ∀ place, t.locate p ≠ .ok place → after.entryAt? place = t.entryAt? place
  locate : ∀ q place, t.locate q = .ok place → after.locate q = .ok place

/-- A text is written in place of all that was in a file, up to a fault if there is one. -/
structure Overwrites (t : FileTree) (p : Path) (written : List Char × Option FormatFault)
    (saved : Saved) : Prop where
  result : saved.result = written.2.elim (.ok ()) fun fault => .error (.format fault)
  left : LeftWith t p (Utf8.encode written.1) saved.files

lemma overwrites_of_read (hread : t.read p = .ok bytes) (hwritable : Writable t p)
    (written : List Char × Option FormatFault) :
    Overwrites t p written (saveText t p written) := by
  obtain ⟨made, place, mode, hat⟩ := writable_iff.mp hwritable
  obtain ⟨place', mode', hlocate, hentry, -⟩ := FileTree.read_eq_ok_iff.mp hread
  obtain rfl : t = made := by
    obtain hensured | ⟨fault, hensured⟩ := FileTree.ensureDirectories_parent hlocate hentry
    · exact (Prod.mk.inj (hensured.symm.trans hat.ensured)).1
    · cases hensured.symm.trans hat.ensured
  rw [hat.saveText]
  refine ⟨rfl, hat.read _, fun other hother => ?_, fun q _ => FileTree.locate_put hat.free⟩
  exact FileTree.entryAt?_put_of_ne fun heq => hother (heq ▸ hat.locate)

lemma saveText_of_not_writable (hread : t.read p = .ok bytes) (hwritable : ¬ Writable t p)
    (written : List Char × Option FormatFault) :
    ∃ fault, saveText t p written = ⟨t, .error (.file fault)⟩ := by
  obtain ⟨place, mode, hlocate, hentry, hmode⟩ := FileTree.read_eq_ok_iff.mp hread
  obtain hensured | ⟨fault, hensured⟩ := FileTree.ensureDirectories_parent hlocate hentry
  · cases hwrite : mode.write with
    | true =>
      have hat : WritesAt t p t place mode :=
        ⟨hensured, hlocate, by simp [hentry], hmode, hwrite,
          FileTree.write_of_present hlocate hentry hwrite⟩
      exact absurd (writable_iff.mpr ⟨t, place, mode, hat⟩) hwritable
    | false =>
      have hdenied : ∀ text, t.writeText p text = .error (.denied p.toString) := by
        intro text
        simp [FileTree.writeText, FileTree.write, hlocate, hentry, hwrite]
      refine ⟨.denied p.toString, ?_⟩
      simp only [saveText, hensured, hdenied]
  · exact ⟨fault, by simp only [saveText, hensured]⟩

end Files

section Operations

variable {format : ConfigFormat} {t : FileTree} {p : Path}

lemma run_of_unread {fault : StoreFault} (hfile : loadFile format t p = .error fault)
    {op : Operation} (hop : ¬ op.IsRefused) : op.run format t p = ⟨t, .error fault⟩ := by
  cases op with
  | reset => rw [Operation.run, reset, hfile]
  | save values =>
    obtain ⟨entries, hentries⟩ := Option.ne_none_iff_exists'.mp hop
    have hchanged : changed format t p values = .error fault := by
      rw [changed, not_reserved hentries, hfile]
      rfl
    rw [Operation.run, save, hchanged]

/-- The document that is left of an empty file. -/
def Operation.document : Operation → Document
  | .save values => [(sectionName, .value (.table (storeAll [] ((accepted? values).getD []))))]
  | .reset => []

lemma run_of_empty (hfile : loadFile format t p = .ok []) {op : Operation} (hop : ¬ op.IsRefused) :
    op.run format t p = saveText t p (format.write op.document) := by
  cases op with
  | reset =>
    rw [Operation.run, reset, hfile]
    rfl
  | save values =>
    obtain ⟨entries, hentries⟩ := Option.ne_none_iff_exists'.mp hop
    have hsection : Section.ofValue format.inlineKind (section? []) = .ok (Section.ofTable []) :=
      rfl
    rw [Operation.run, save_of_accepted hfile hentries hsection, putAll_ofTable,
      documentWith_ofTable, Operation.document, hentries]
    rfl

end Operations

/-- A settings file that is not read is either refused as it is or written anew without anything of
what was in it. It is refused, with what keeps it from being read, unless it is malformed. Of a
malformed one nothing is left if it can be written: its bytes are those that the format writes of an
empty file after a reset, and of the saved values alone after a saving, whatever was in it. -/
theorem change_of_any_rejected_file (format : ConfigFormat) (t : FileTree) (p : Path)
    (bytes : List UInt8) (fault : StoreFault) (op : Operation) (hread : t.read p = .ok bytes)
    (hrejected : rejection? format bytes = some fault) (hop : ¬ op.IsRefused) :
    (¬ fault.IsMalformed → op.run format t p = ⟨t, .error fault⟩) ∧
      (fault.IsMalformed → Writable t p →
        Overwrites t p (format.write op.document) (op.run format t p)) ∧
      (fault.IsMalformed → ¬ Writable t p →
        ∃ told, op.run format t p = ⟨t, .error (.file told)⟩) := by
  refine ⟨fun hfault => ?_, fun hmalformed hwritable => ?_, fun hmalformed hwritable => ?_⟩
  · exact run_of_unread (loadFile_of_rejected hread hrejected hfault) hop
  · rw [run_of_empty (loadFile_of_malformed hread hrejected hmalformed) hop]
    exact overwrites_of_read hread hwritable _
  · rw [run_of_empty (loadFile_of_malformed hread hrejected hmalformed) hop]
    exact saveText_of_not_writable hread hwritable _

/-- A file with another table in it, and words without quotes. -/
def unquotedFile : List Char :=
  "[other]\nkeep = yes please\n".toList

theorem change_of_any_rejected_file_unquoted :
    ((Operation.reset.run Toml.format (treeOf unquotedFile) settingsPath).files.read settingsPath =
        .ok []) ∧
      ((Operation.save [("layout", .text "tree")]).run Toml.format (treeOf unquotedFile)
          settingsPath).files.read settingsPath =
        .ok (Utf8.encode "[graph]\nlayout = \"tree\"\n".toList) := by
  have hrejected : rejection? Toml.format (Utf8.encode unquotedFile) =
      some (.format Toml.Fault.malformed.toFormatFault) := by
    have hparse : Toml.format.read (Utf8.unifyLineEnds unquotedFile) =
        .error Toml.Fault.malformed.toFormatFault := by
      decide +kernel
    simp only [rejection?, Utf8.decode_encode, hparse]
  have hsaved : ¬ (Operation.save [("layout", .text "tree")]).IsRefused := by
    intro h
    cases h
  obtain ⟨-, hreset, -⟩ := change_of_any_rejected_file Toml.format (treeOf unquotedFile)
    settingsPath _ _ .reset rfl hrejected not_false
  obtain ⟨-, hsave, -⟩ := change_of_any_rejected_file Toml.format (treeOf unquotedFile)
    settingsPath _ _ _ rfl hrejected hsaved
  have hwritable := writable_treeOf unquotedFile
  exact ⟨(hreset trivial hwritable).left.read, (hsave trivial hwritable).left.read⟩

end TypeLineage.Setting
