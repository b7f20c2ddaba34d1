import Mathlib.Data.List.Nodup
import Mathlib.Tactic.Common
import TypeLineage.Command.Configure
import TypeLineage.Proofs.Store

/-!
# Changing one setting

What the command that changes a setting leaves behind, whatever name and value it is given. A
refused value is a mistake in the arguments, and nothing is changed. One name, that of the settings
file itself, ends in a fault of another kind.
-/

namespace TypeLineage.Command

open Setting

section Values

variable {own : Table} {key value : String} {w : Value} {fault : Setting.Fault}

lemma validate_text_ne_tooLarge (key value : String) :
    validate key (.text value) ≠ .error .tooLarge := by
  intro h
  rw [validate] at h
  split at h
  · cases h
  · obtain ⟨-, n, hn, -⟩ := accept_eq_tooLarge_iff.mp h
    cases hn

lemma settingsEnding_of_refused (h : validate key (.text value) = .error fault) :
    settingsEnding (.setting fault) = .usage (.badValue none fault.message) := by
  cases fault with
  | tooLarge => exact absurd h (validate_text_ne_tooLarge key value)
  | unknown | notBoolean | notNumber | negative | notLayout | notNodeSize | tooLong => rfl

lemma validate_unknown (h : ∀ s : Setting, s.name ≠ key) (v : Value) :
    validate key v = .error (.unknown key) := by
  have hnone : ofName? key = none := by
    rw [Option.eq_none_iff_forall_ne_some]
    exact fun s hs => h s (name_of_ofName? hs)
  rw [validate, hnone]

lemma exists_name_of_accepted (hw : validate key (.text value) = .ok w) :
    ∃ s : Setting, s.name = key := by
  rw [validate] at hw
  split at hw
  · cases hw
  · rename_i s hs
    exact ⟨s, name_of_ofName? hs⟩

lemma lookup?_tableOfAll (f : Setting → Value) (s : Setting) :
    Table.lookup? s.name (tableOfAll f) = some (f s) := by
  cases s <;> rfl

lemma overflows_store_iff (hkeys : (own.map Prod.fst).Nodup)
    (hw : validate key (.text value) = .ok w) :
    Overflows (Table.store key w own) ↔ Overflows own ∧ key ≠ watchDebounce.name := by
  constructor
  · rintro ⟨n, hmem, hn⟩
    have hkey : key ≠ watchDebounce.name := by
      rintro rfl
      rw [validate_name] at hw
      obtain ⟨x, rfl, -⟩ := validateSeconds_eq_ok hw
      have hnew := Keyed.mem_put_self Prod.fst (watchDebounce.name, Value.real x) own
      have heq := List.inj_on_of_nodup_map (Keyed.nodup_keys_put hkeys) hmem hnew rfl
      cases (Prod.mk.inj heq).2
    rcases Keyed.mem_of_mem_put hmem with heq | hmem
    · exact absurd (Prod.mk.inj heq).1.symm hkey
    · exact ⟨⟨n, hmem, hn⟩, hkey⟩
  · rintro ⟨⟨n, hmem, hn⟩, hkey⟩
    exact ⟨n, Keyed.mem_put_of_ne hmem hkey, hn⟩

end Values

/-! ### Changes -/

/-- The whole file with a value for a setting in its settings table. -/
def withSetting (content own : Table) (key : String) (w : Value) : Table :=
  Table.store sectionName (.table (Table.store key w own)) content

/-- What comes of changing a setting to an accepted value. -/
structure Changed (format : ConfigFormat) (escape : List Char → List Char) (file : Path)
    (content own : Table) (key : String) (w : Value) (r : Report) : Prop where
  /-- What the format writes up to a fault is what is left in the file. -/
  unwritten : ∀ text fault,
    format.write (Document.ofTable (withSetting content own key w)) = (text, some fault) →
      loadFile format r.files file = tableOf format (Utf8.unifyLineEnds text) ∧
        r.outputs = [] ∧ r.ending = settingsEnding (.format fault)
  written : ∀ text,
    format.write (Document.ofTable (withSetting content own key w)) = (text, none) →
      loadFile format r.files file = tableOf format (Utf8.unifyLineEnds text)
  loaded : ReadsBack format (withSetting content own key w) →
    ¬ (Overflows own ∧ key ≠ watchDebounce.name) →
      loadFile format r.files file = .ok (withSetting content own key w) ∧
      (load format r.files file).settings =
        .ok (all.map fun s => (s.name, if key = s.name then w else s.inForce own)) ∧
      r.outputs = ignoredNotices file (load format r.files file).ignored ++
        [setLine escape key (some w)] ∧
      r.ending = .done
  overflown : ReadsBack format (withSetting content own key w) →
    Overflows own → key ≠ watchDebounce.name →
      loadFile format r.files file = .ok (withSetting content own key w) ∧
      r.ending = .settings (.setting .tooLarge)

section Changing

variable {format : ConfigFormat} {escape : List Char → List Char} {t : FileTree} {file : Path}
  {content own : Table} {graph : Option Table} {key value : String} {w : Value}
  {fault : Setting.Fault}

lemma setSetting_reserved (format : ConfigFormat) (escape : List Char → List Char) (t : FileTree)
    (file : Path) (value : String) : setSetting format escape t file reservedName value =
      ⟨t, [], .settings (.reserved reservedName)⟩ := by
  have hsave : save format t file [(reservedName, .text value)] =
      ⟨t, .error (.reserved reservedName)⟩ := by
    rw [save, changed, if_pos (by simp)]
  rw [setSetting, hsave]
  rfl

lemma setSetting_of_refused (hfile : loadFile format t file = .ok content)
    (hgraph : section? content = graph.map .table) (hkey : key ≠ reservedName)
    (hfault : validate key (.text value) = .error fault) :
    setSetting format escape t file key value =
      ⟨t, [], .usage (.badValue none fault.message)⟩ := by
  have hchange : change (Section.ofTable (graph.getD [])) [(key, .text value)] =
      .error fault := by
    rw [change, hfault]
    rfl
  have hsave : save format t file [(key, .text value)] = ⟨t, .error (.setting fault)⟩ := by
    rw [save, changed, if_neg (by simpa using hkey), hfile]
    simp only [hgraph, ofValue_settings, hchange]
  rw [setSetting, hsave]
  simp only [settingsEnding_of_refused hfault]

lemma save_accepted (hfile : loadFile format t file = .ok content)
    (hgraph : section? content = graph.map .table) (hw : validate key (.text value) = .ok w) :
    save format t file [(key, .text value)] = saveText t file
      (format.write (Document.ofTable (withSetting content (graph.getD []) key w))) := by
  have hentries : accepted? [(key, .text value)] = some [(key, w)] := by
    rw [accepted?, hw]
    rfl
  have hsection : Section.ofValue format.inlineKind (section? content) =
      .ok (Section.ofTable (graph.getD [])) := by
    rw [hgraph, ofValue_settings]
  rw [save_of_accepted hfile hentries hsection, putAll_ofTable, documentWith_ofTable]
  rfl

lemma setSetting_of_text {text : List Char} (escape : List Char → List Char)
    (hwritable : Writable t file)
    (hsave : save format t file [(key, .text value)] = saveText t file (text, none)) :
    (setSetting format escape t file key value).files = (saveText t file (text, none)).files ∧
      (∀ current, (load format (saveText t file (text, none)).files file).settings = .ok current →
        (setSetting format escape t file key value).outputs =
          ignoredNotices file (load format (saveText t file (text, none)).files file).ignored ++
            [setLine escape key (Table.lookup? key current)] ∧
        (setSetting format escape t file key value).ending = .done) ∧
      ∀ fault, (load format (saveText t file (text, none)).files file).settings = .error fault →
        (setSetting format escape t file key value).ending = settingsEnding fault := by
  have hresult := (saveText_of_writable format hwritable (text, none)).1
  rw [setSetting, hsave]
  simp only [hresult, Option.elim_none]
  generalize load format (saveText t file (text, none)).files file = loaded
  cases hsettings : loaded.settings <;> simp

lemma entriesIn_withSetting (content own : Table) (key : String) (w : Value) :
    entriesIn (withSetting content own key w) = Table.store key w own := by
  rw [entriesIn, withSetting, settings_store]

lemma exists_text_of_readsBack {new : Table} {r : Setting.Saved} (hwritable : Writable t file)
    (hsave : r = saveText t file (format.write (Document.ofTable new)))
    (h : ReadsBack format new) :
    ∃ text, r = saveText t file (text, none) ∧
      loadFile format (saveText t file (text, none)).files file = .ok new := by
  obtain ⟨text, hwrite, hread⟩ := h
  rw [hwrite] at hsave
  refine ⟨text, hsave, ?_⟩
  rw [(saveText_of_writable format hwritable (text, none)).2.1, tableOf, hread]

theorem changed_of_accepted (hfile : loadFile format t file = .ok content)
    (hgraph : section? content = graph.map .table)
    (hkeys : ((graph.getD []).map Prod.fst).Nodup) (hwritable : Writable t file)
    (hw : validate key (.text value) = .ok w) :
    Changed format escape file content (graph.getD []) key w
      (setSetting format escape t file key value) := by
  have hsave := save_accepted hfile hgraph hw
  have hentries := entriesIn_withSetting content (graph.getD []) key w
  refine ⟨fun text fault hwrite => ?_, fun text hwrite => ?_, fun h hfits => ?_,
    fun h hover hkey => ?_⟩
  · rw [hwrite] at hsave
    obtain ⟨hresult, hread, -⟩ := saveText_of_writable format hwritable (text, some fault)
    rw [setSetting, hsave]
    simp only [hresult, Option.elim_some]
    exact ⟨hread, trivial, trivial⟩
  · rw [hwrite] at hsave
    rw [(setSetting_of_text escape hwritable hsave).1]
    exact (saveText_of_writable format hwritable (text, none)).2.1
  · obtain ⟨text, hsave, hread⟩ := exists_text_of_readsBack hwritable hsave h
    obtain ⟨hfiles, hdone, -⟩ := setSetting_of_text escape hwritable hsave
    have hload := (load_of_any_content format _ file _ hread).1
    rw [hentries, overflows_store_iff hkeys hw] at hload
    simp only [inForce_store hkeys hw] at hload
    obtain ⟨houtputs, hending⟩ := hdone _ (hload hfits)
    obtain ⟨s, rfl⟩ := exists_name_of_accepted hw
    have hvalue := lookup?_tableOfAll (fun s' => if s.name = s'.name then w else
      s'.inForce (graph.getD [])) s
    rw [if_pos rfl] at hvalue
    rw [tableOfAll] at hvalue
    rw [hvalue] at houtputs
    rw [hfiles]
    exact ⟨hread, hload hfits, houtputs, hending⟩
  · obtain ⟨text, hsave, hread⟩ := exists_text_of_readsBack hwritable hsave h
    obtain ⟨hfiles, -, hfault⟩ := setSetting_of_text escape hwritable hsave
    have hload := (load_of_any_content format _ file _ hread).2.1
    rw [hentries, overflows_store_iff hkeys hw] at hload
    rw [hfiles]
    exact ⟨hread, hfault _ (hload ⟨hover, hkey⟩)⟩

end Changing

/-- The command that changes a setting, for any name and text. Where the settings file is absent or
its settings are a table, a refused text is a mistake in the arguments, and nothing is changed or
printed; an accepted one is written. The name by which the settings file is passed on is no setting
either, but it ends in a fault. Where the file with the new value is read as it was written, a
mistake in the arguments is all that a refused text can come to, and an accepted one is loaded,
unless a number out of range is left in the file. -/
theorem setSetting_of_any_arguments (format : ConfigFormat) (escape : List Char → List Char)
    (t : FileTree) (file : Path) (content : Table) (graph : Option Table) (key value : String)
    (hfile : loadFile format t file = .ok content) (hgraph : section? content = graph.map .table)
    (hkeys : ((graph.getD []).map Prod.fst).Nodup) (hwritable : Writable t file) :
    (key = reservedName → validate key (.text value) = .error (.unknown key) ∧
      setSetting format escape t file key value = ⟨t, [], .settings (.reserved key)⟩) ∧
    (key ≠ reservedName → ∀ fault, validate key (.text value) = .error fault →
      setSetting format escape t file key value =
        ⟨t, [], .usage (.badValue none fault.message)⟩) ∧
    ((∀ s : Setting, s.name ≠ key) → validate key (.text value) = .error (.unknown key)) ∧
    (∀ w, validate key (.text value) = .ok w →
      Changed format escape file content (graph.getD []) key w
        (setSetting format escape t file key value)) ∧
    ((∀ w, validate key (.text value) = .ok w →
        ReadsBack format (withSetting content (graph.getD []) key w)) →
      ((∃ u, (setSetting format escape t file key value).ending = .usage u) ↔
        key ≠ reservedName ∧ ∃ fault, validate key (.text value) = .error fault)) := by
  have hrefused : key ≠ reservedName → ∀ fault, validate key (.text value) = .error fault →
      setSetting format escape t file key value =
        ⟨t, [], .usage (.badValue none fault.message)⟩ :=
    fun hkey fault => setSetting_of_refused hfile hgraph hkey
  have haccepted : ∀ w, validate key (.text value) = .ok w →
      Changed format escape file content (graph.getD []) key w
        (setSetting format escape t file key value) :=
    fun w => changed_of_accepted hfile hgraph hkeys hwritable
  refine ⟨?_, hrefused, fun h => validate_unknown h _, haccepted, fun hback => ⟨?_, ?_⟩⟩
  · rintro rfl
    exact ⟨rfl, setSetting_reserved format escape t file value⟩
  · rintro ⟨u, hu⟩
    cases hw : validate key (.text value) with
    | ok w =>
      have hchanged := haccepted w hw
      by_cases hover : Overflows (graph.getD []) ∧ key ≠ watchDebounce.name
      · rw [(hchanged.overflown (hback w hw) hover.1 hover.2).2] at hu
        cases hu
      · rw [(hchanged.loaded (hback w hw) hover).2.2.2] at hu
        cases hu
    | error fault =>
      refine ⟨?_, fault, rfl⟩
      rintro rfl
      rw [setSetting_reserved] at hu
      cases hu
  · rintro ⟨hkey, fault, hfault⟩
    exact ⟨_, congrArg Report.ending (hrefused hkey fault hfault)⟩

theorem setSetting_of_any_arguments_shared :
    (setSetting Toml.format id sharedFile settingsPath "layout" "cluster").ending = .done ∧
      loadFile Toml.format
          (setSetting Toml.format id sharedFile settingsPath "layout" "cluster").files
          settingsPath =
        .ok [("other", .table [("x", .integer 1)]),
          (sectionName, .table [("custom", .text "kept"), ("layout", .text "cluster")])] ∧
      setSetting Toml.format id sharedFile settingsPath "layout" "spiral" =
        ⟨sharedFile, [], .usage (.badValue none "layout must be one of: force, tree, cluster")⟩ ∧
      setSetting Toml.format id sharedFile settingsPath "config_file" "x" =
        ⟨sharedFile, [], .settings (.reserved "config_file")⟩ := by
  have hfits : ¬ (Overflows sharedSettings ∧ "layout" ≠ watchDebounce.name) := by
    rintro ⟨⟨n, hmem, hn⟩, -⟩
    simp [sharedSettings, name] at hmem
  have hback : ReadsBack Toml.format
      (withSetting sharedContent sharedSettings "layout" (.text "cluster")) :=
    readsBack_of_reread? (by decide +kernel)
  have hany := fun key value => setSetting_of_any_arguments Toml.format id sharedFile settingsPath
    sharedContent (some sharedSettings) key value loadFile_sharedFile rfl (by decide)
    (writable_treeOf _)
  obtain ⟨-, -, -, haccepted, -⟩ := hany "layout" "cluster"
  obtain ⟨hread, -, -, hending⟩ := (haccepted (.text "cluster") rfl).loaded hback hfits
  exact ⟨hending, hread, (hany "layout" "spiral").2.1 (by decide) _ rfl,
    ((hany "config_file" "x").1 rfl).2⟩

end TypeLineage.Command
