import Mathlib.Data.List.Nodup
import Mathlib.Tactic.Common
import TypeLineage.Proofs.InForce
import TypeLineage.Proofs.Keyed
import TypeLineage.Proofs.Saving

/-!
# The settings file as a store

What is in the settings file after any run of saving and resetting, and what is loaded from it: the
settings table is what the accepted savings since the last reset make of the table that was there,
and the other tables stay. That a text which was written is read as the same table is an assumption
on the format here, made of the tables that the run writes.
-/

namespace TypeLineage.Setting

/-! ### What the operations stand for -/

/-- What can be done to the settings in a file. -/
inductive Operation where
  | save (values : List (String × Value))
  | reset

/-- The pairs with their validated values, if all are accepted. -/
def accepted? : List (String × Value) → Option Table
  | [] => some []
  | (k, v) :: rest =>
    (validate k v).toOption.bind fun w => (accepted? rest).map fun entries => (k, w) :: entries

/-- Writes entries by key one after the other. -/
def storeAll (t entries : Table) : Table :=
  entries.foldl (fun t e => Table.store e.1 e.2 t) t

/-- Writes entries into a section one after the other. -/
def Section.putAll (s : Section) (entries : Table) : Section :=
  entries.foldl (fun s e => s.put (.text e.1) e.2) s

namespace Operation

def run (format : ConfigFormat) (t : FileTree) (p : Path) : Operation → Saved
  | .save values => Setting.save format t p values
  | .reset => Setting.reset format t p

/-- Saving of which a pair is refused. -/
def IsRefused : Operation → Prop
  | .save values => accepted? values = none
  | .reset => False

/-- What the settings table becomes. -/
def after (graph : Option Table) : Operation → Option Table
  | .save values =>
    match accepted? values with
    | some entries => some (storeAll (graph.getD []) entries)
    | none => graph
  | .reset => none

/-- What the value of a setting in force becomes. -/
def valueAfter (s : Setting) (value : Value) : Operation → Value
  | .save values =>
    ((accepted? values).getD []).foldl (fun value e => if e.1 = s.name then e.2 else value) value
  | .reset => s.default

/-- The whole file that is written, if one is. -/
def written? (content : Table) : Operation → Option Table
  | .save values => (accepted? values).map fun entries =>
    Table.store sectionName (.table (storeAll (entriesIn content) entries)) content
  | .reset => some (content.filter (·.1 ≠ sectionName))

end Operation

/-- The files after operations, refused ones among them. -/
def runAll (format : ConfigFormat) (t : FileTree) (p : Path) (ops : List Operation) : FileTree :=
  ops.foldl (fun t op => (op.run format t p).files) t

/-- The whole file after an operation. -/
def contentAfter (content : Table) (op : Operation) : Table :=
  (op.written? content).getD content

/-- All that is written in a run, as whole files. -/
def written (content : Table) : List Operation → List Table
  | [] => []
  | op :: ops => (op.written? content).toList ++ written (contentAfter content op) ops

/-- A table can be written, and the text that is written is read as the same table. -/
def ReadsBack (format : ConfigFormat) (all : Table) : Prop :=
  ∃ text, format.write (Document.ofTable all) = (text, none) ∧
    format.read (Utf8.unifyLineEnds text) = .ok all

/-! ### The settings table -/

section Sections

variable {t entries : Table} {values : List (String × Value)}

lemma put_ofTable (k : String) (v : Value) (t : Table) :
    Section.put (.text k) v (Section.ofTable t) = Section.ofTable (Table.store k v t) := by
  induction t with
  | nil => rfl
  | cons e t ih =>
    obtain ⟨l, w⟩ := e
    by_cases hl : l = k
    · simp [Section.put, Section.ofTable, Section.sameKey, Table.store, Keyed.put, hl]
    · have ih' : Section.put (.text k) v (List.map (fun e => (Value.text e.1, e.2)) t) =
          List.map (fun e => (Value.text e.1, e.2)) (Keyed.put Prod.fst (k, v) t) := ih
      simp [Section.put, Section.ofTable, Section.sameKey, Table.store, Keyed.put, hl, ih']

lemma table?_ofTable (t : Table) : Section.table? (Section.ofTable t) = some t := by
  induction t with
  | nil => rfl
  | cons e t ih =>
    rw [Section.table?, Section.ofTable] at ih ⊢
    simp [ih]

lemma putAll_ofTable (t entries : Table) :
    (Section.ofTable t).putAll entries = Section.ofTable (storeAll t entries) := by
  induction entries generalizing t with
  | nil => rfl
  | cons e entries ih =>
    rw [Section.putAll, List.foldl_cons, put_ofTable]
    exact ih _

lemma documentWith_ofTable (t all : Table) : documentWith (Section.ofTable t) all =
    Document.ofTable (Table.store sectionName (.table t) all) := by
  have hcontent : Content.ofSection (Section.ofTable t) = .value (.table t) := by
    rw [Content.ofSection, table?_ofTable]
  rw [documentWith, hcontent]
  induction all with
  | nil => rfl
  | cons e all ih =>
    by_cases he : e.1 = sectionName
    · simp [Document.ofTable, Table.store, Keyed.put, he]
    · simpa [Document.ofTable, Table.store, Keyed.put, he] using ih

lemma change_of_accepted (h : accepted? values = some entries) (s : Section) :
    change s values = .ok (s.putAll entries) := by
  induction values generalizing s entries with
  | nil =>
    cases h
    rfl
  | cons e values ih =>
    obtain ⟨k, v⟩ := e
    rw [accepted?] at h
    obtain ⟨w, hw, h⟩ := Option.bind_eq_some_iff.mp h
    obtain ⟨rest, hrest, rfl⟩ := Option.map_eq_some_iff.mp h
    rw [change, eq_ok_of_toOption hw]
    exact ih hrest _

lemma change_of_refused (h : accepted? values = none) (s : Section) :
    ∃ fault, change s values = .error fault := by
  induction values generalizing s with
  | nil => cases h
  | cons e values ih =>
    obtain ⟨k, v⟩ := e
    rw [accepted?] at h
    cases hvalid : validate k v with
    | error fault => exact ⟨fault, by rw [change, hvalid]; rfl⟩
    | ok w =>
      have hrest : accepted? values = none := by simpa [hvalid, Except.toOption] using h
      obtain ⟨fault, hfault⟩ := ih hrest (s.put (.text k) w)
      exact ⟨fault, by rw [change, hvalid]; exact hfault⟩

lemma validate_of_mem_accepted {e : String × Value} (h : accepted? values = some entries)
    (he : e ∈ entries) : ∃ v, validate e.1 v = .ok e.2 := by
  induction values generalizing entries with
  | nil =>
    cases h
    cases he
  | cons e₀ values ih =>
    obtain ⟨k, v⟩ := e₀
    rw [accepted?] at h
    obtain ⟨w, hw, h⟩ := Option.bind_eq_some_iff.mp h
    obtain ⟨rest, hrest, rfl⟩ := Option.map_eq_some_iff.mp h
    rcases List.mem_cons.mp he with rfl | he
    · exact ⟨v, eq_ok_of_toOption hw⟩
    · exact ih hrest he

lemma nodup_keys_storeAll (hkeys : (t.map Prod.fst).Nodup) (entries : Table) :
    ((storeAll t entries).map Prod.fst).Nodup := by
  induction entries generalizing t with
  | nil => exact hkeys
  | cons e entries ih => exact ih (Keyed.nodup_keys_put hkeys)

lemma mem_of_mem_storeAll {e : String × Value} (he : e ∈ storeAll t entries) :
    e ∈ t ∨ e ∈ entries := by
  induction entries generalizing t with
  | nil => exact .inl he
  | cons e₀ entries ih =>
    rcases ih he with he | he
    · rcases Keyed.mem_of_mem_put he with rfl | he
      · exact .inr List.mem_cons_self
      · exact .inl he
    · exact .inr (List.mem_cons_of_mem _ he)

end Sections

/-! ### The settings in force -/

section Values

variable {s : Setting} {graph entries : Table}

lemma inForce_eq (hkeys : (graph.map Prod.fst).Nodup) (s : Setting) : s.inForce graph =
    ((Table.lookup? s.name graph).bind fun v => (s.accept v).toOption).getD s.default := by
  cases hlookup : Table.lookup? s.name graph with
  | none =>
    apply inForce_of_refused
    intro v w hmem
    have hfind := List.find?_eq_none.mp (Option.map_eq_none_iff.mp hlookup) _ hmem
    simp at hfind
  | some v =>
    obtain ⟨⟨k, v⟩, hfind, rfl⟩ := Option.map_eq_some_iff.mp hlookup
    have hname : k = s.name := by simpa using List.find?_some hfind
    subst hname
    have hmem : (s.name, v) ∈ graph := List.mem_of_find?_eq_some hfind
    cases hv : s.accept v with
    | ok w =>
      obtain ⟨before, after, rfl⟩ := List.append_of_mem hmem
      rw [List.map_append, List.map_cons] at hkeys
      rw [inForce_of_last (List.nodup_cons.mp hkeys.of_append_right).1 hv]
      simp [hv, Except.toOption]
    | error fault =>
      have hdefault : ((s.accept v).toOption).getD s.default = s.default := by rw [hv]; rfl
      refine (inForce_of_refused ?_).trans hdefault.symm
      intro v' w hmem' hw
      have heq : (s.name, v') = (s.name, v) := List.inj_on_of_nodup_map hkeys hmem' hmem rfl
      rw [(Prod.mk.inj heq).2, hv] at hw
      cases hw

lemma inForce_store {k : String} {v w : Value} (hkeys : (graph.map Prod.fst).Nodup)
    (hw : validate k v = .ok w) (s : Setting) :
    s.inForce (Table.store k w graph) = if k = s.name then w else s.inForce graph := by
  have hkeys' : ((Table.store k w graph).map Prod.fst).Nodup := Keyed.nodup_keys_put hkeys
  rw [inForce_eq hkeys', inForce_eq hkeys, Table.lookup?, Table.store]
  split
  · rename_i hk
    subst hk
    rw [validate_name] at hw
    rw [Keyed.get?_put_self Prod.fst (s.name, w)]
    simp [accept_of_accept hw, Except.toOption]
  · rename_i hk
    rw [Keyed.get?_put_of_ne (x := (k, w)) hk]
    rfl

lemma inForce_storeAll (hkeys : (graph.map Prod.fst).Nodup)
    (hentries : ∀ e ∈ entries, ∃ v, validate e.1 v = .ok e.2) (s : Setting) :
    s.inForce (storeAll graph entries) =
      entries.foldl (fun value e => if e.1 = s.name then e.2 else value) (s.inForce graph) := by
  induction entries generalizing graph with
  | nil => rfl
  | cons e entries ih =>
    obtain ⟨v, hv⟩ := hentries e List.mem_cons_self
    have hkeys' : ((Table.store e.1 e.2 graph).map Prod.fst).Nodup := Keyed.nodup_keys_put hkeys
    have hrest := ih hkeys' fun e he => hentries e (List.mem_cons_of_mem _ he)
    rw [List.foldl_cons, ← inForce_store (k := e.1) hkeys hv]
    exact hrest

lemma not_overflows_storeAll (hfits : ¬ Overflows graph)
    (hentries : ∀ e ∈ entries, ∃ v, validate e.1 v = .ok e.2) :
    ¬ Overflows (storeAll graph entries) := by
  rintro ⟨n, hmem, hn⟩
  rcases mem_of_mem_storeAll hmem with hmem | hmem
  · exact hfits ⟨n, hmem, hn⟩
  · obtain ⟨v, hv⟩ := hentries _ hmem
    obtain ⟨x, hx, -⟩ := validateSeconds_eq_ok ((validate_name watchDebounce v).symm.trans hv)
    cases hx

end Values

/-! ### Whole files -/

section Contents

variable {content all : Table} {graph : Option Table} {op : Operation}

lemma filter_store (v : Value) (content : Table) :
    (Table.store sectionName v content).filter (·.1 ≠ sectionName) =
      content.filter (·.1 ≠ sectionName) := by
  induction content with
  | nil => rfl
  | cons e content ih =>
    rw [Table.store] at ih ⊢
    rw [Keyed.put]
    split
    · rename_i he
      rw [List.filter_cons_of_neg (by simp), List.filter_cons_of_neg (by simp [he])]
    · rename_i he
      rw [List.filter_cons_of_pos (by simpa using he), List.filter_cons_of_pos (by simpa using he),
        ih]

lemma settings_store (v : Value) (content : Table) :
    (section? (Table.store sectionName v content)) = some v := by
  rw [section?, Table.lookup?, Table.store, Keyed.get?_put_self Prod.fst (sectionName, v)]
  rfl

lemma settings_filter (content : Table) :
    (section? (content.filter (·.1 ≠ sectionName))) = none := by
  rw [section?, Table.lookup?, Keyed.get?, Option.map_eq_none_iff, List.find?_eq_none]
  intro e he
  simpa using (List.mem_filter.mp he).2

lemma entriesIn_eq (hgraph : section? content = graph.map .table) :
    entriesIn content = graph.getD [] := by
  rw [entriesIn, hgraph]
  cases graph <;> rfl

lemma written?_eq_none_iff : op.written? content = none ↔ op.IsRefused := by
  cases op <;> simp [Operation.written?, Operation.IsRefused]

lemma after_of_refused (hop : op.IsRefused) (graph : Option Table) : op.after graph = graph := by
  cases op with
  | save values =>
    have hnone : accepted? values = none := hop
    rw [Operation.after, hnone]
  | reset => cases hop

lemma written?_spec (hgraph : section? content = graph.map .table)
    (hop : op.written? content = some all) :
    all.filter (·.1 ≠ sectionName) = content.filter (·.1 ≠ sectionName) ∧
      (section? all) = (op.after graph).map .table := by
  cases op with
  | save values =>
    obtain ⟨entries, hentries, rfl⟩ := Option.map_eq_some_iff.mp hop
    refine ⟨filter_store _ content, ?_⟩
    rw [settings_store, entriesIn_eq hgraph, Operation.after, hentries]
    rfl
  | reset =>
    rw [← Option.some.inj hop]
    exact ⟨by rw [List.filter_filter]; simp, settings_filter content⟩

end Contents

/-! ### Runs -/

/-- A settings file with some content, the settings table of which can be loaded and written. -/
structure Stored (format : ConfigFormat) (t : FileTree) (p : Path) (content : Table)
    (graph : Option Table) : Prop where
  file : loadFile format t p = .ok content
  writable : Writable t p
  settings : section? content = graph.map .table
  keys : ((graph.getD []).map Prod.fst).Nodup
  fits : ¬ Overflows (graph.getD [])

section Runs

variable {format : ConfigFormat} {t : FileTree} {p : Path} {content all : Table}
  {graph : Option Table} {op : Operation}

lemma Stored.load (h : Stored format t p content graph) : (load format t p).settings =
    .ok (Setting.all.map fun s => (s.name, s.inForce (graph.getD []))) := by
  have hentries := entriesIn_eq h.settings
  have hload := (load_of_any_content format t p content h.file).1
  rw [hentries] at hload
  exact hload h.fits

lemma ofValue_settings (inlineKind : String) (graph : Option Table) :
    Section.ofValue inlineKind (graph.map .table) = .ok (Section.ofTable (graph.getD [])) := by
  cases graph <;> rfl

lemma not_reserved {values : List (String × Value)} {entries : Table}
    (h : accepted? values = some entries) : values.any (·.1 = reservedName) = false := by
  induction values generalizing entries with
  | nil => rfl
  | cons e values ih =>
    obtain ⟨k, v⟩ := e
    rw [accepted?] at h
    obtain ⟨w, hw, h⟩ := Option.bind_eq_some_iff.mp h
    obtain ⟨rest, hrest, -⟩ := Option.map_eq_some_iff.mp h
    have hk : k ≠ reservedName := by
      rintro rfl
      cases hw
    rw [List.any_cons, ih hrest]
    simpa using hk

lemma save_of_accepted {values : List (String × Value)} {entries : Table} {s : Section}
    (hfile : loadFile format t p = .ok content) (hentries : accepted? values = some entries)
    (hs : Section.ofValue format.inlineKind (section? content) = .ok s) :
    save format t p values =
      saveText t p (format.write (documentWith (s.putAll entries) content)) := by
  have hchanged : changed format t p values = .ok (s.putAll entries, content) := by
    rw [changed, not_reserved hentries, hfile]
    simp only [hs, change_of_accepted hentries]
    rfl
  rw [save, hchanged]

lemma Stored.run_refused (h : Stored format t p content graph) (hop : op.IsRefused) :
    (op.run format t p).files = t ∧ (op.run format t p).result ≠ .ok () := by
  cases op with
  | reset => cases hop
  | save values =>
    have hchanged : ∃ fault, changed format t p values = .error fault := by
      obtain ⟨fault, hfault⟩ := change_of_refused hop (Section.ofTable (graph.getD []))
      rw [changed, h.file]
      simp only [h.settings, ofValue_settings, hfault]
      split
      · exact ⟨_, rfl⟩
      · exact ⟨_, rfl⟩
    obtain ⟨fault, hfault⟩ := hchanged
    simp [Operation.run, save, hfault]

lemma Stored.run_eq_saveText (h : Stored format t p content graph)
    (hop : op.written? content = some all) :
    op.run format t p = saveText t p (format.write (Document.ofTable all)) := by
  cases op with
  | save values =>
    obtain ⟨entries, hentries, rfl⟩ := Option.map_eq_some_iff.mp hop
    have hsection : Section.ofValue format.inlineKind (section? content) =
        .ok (Section.ofTable (graph.getD [])) := by
      rw [h.settings, ofValue_settings]
    rw [Operation.run, save_of_accepted h.file hentries hsection, putAll_ofTable,
      documentWith_ofTable, entriesIn_eq h.settings]
  | reset =>
    rw [← Option.some.inj hop, Operation.run, reset, h.file]

lemma keys_after (h : Stored format t p content graph) (op : Operation) :
    (((op.after graph).getD []).map Prod.fst).Nodup := by
  cases op with
  | save values =>
    rw [Operation.after]
    split
    · exact nodup_keys_storeAll h.keys _
    · exact h.keys
  | reset => exact List.nodup_nil

lemma fits_after (h : Stored format t p content graph) (op : Operation) :
    ¬ Overflows ((op.after graph).getD []) := by
  cases op with
  | save values =>
    rw [Operation.after]
    split
    · rename_i entries hentries
      exact not_overflows_storeAll h.fits fun e he => validate_of_mem_accepted hentries he
    · exact h.fits
  | reset =>
    rintro ⟨n, hmem, -⟩
    cases hmem

theorem Stored.run (h : Stored format t p content graph)
    (hback : ∀ all, op.written? content = some all → ReadsBack format all) :
    Stored format (op.run format t p).files p (contentAfter content op) (op.after graph) ∧
      ((op.run format t p).result = .ok () ↔ ¬ op.IsRefused) := by
  -- A step that writes nothing was refused; the text of any other is read back by assumption.
  cases hop : op.written? content with
  | none =>
    have hrefused := written?_eq_none_iff.mp hop
    obtain ⟨hfiles, hresult⟩ := h.run_refused hrefused
    rw [hfiles, contentAfter, hop, after_of_refused hrefused]
    exact ⟨h, iff_of_false hresult (not_not_intro hrefused)⟩
  | some all =>
    obtain ⟨text, hwrite, hread⟩ := hback all hop
    have hrun := h.run_eq_saveText hop
    rw [hwrite] at hrun
    obtain ⟨hresult, hfile, hwritable⟩ := saveText_of_writable format h.writable (text, none)
    have hall : tableOf format (Utf8.unifyLineEnds text) = .ok all := by
      rw [tableOf, hread]
    have hrefused : ¬ op.IsRefused := by
      rw [← written?_eq_none_iff, hop]
      simp
    rw [hrun, contentAfter, hop]
    exact ⟨⟨hfile.trans hall, hwritable, (written?_spec h.settings hop).2, keys_after h op,
      fits_after h op⟩, iff_of_true hresult hrefused⟩

lemma filter_contentAfter (h : section? content = graph.map .table) (op : Operation) :
    (contentAfter content op).filter (·.1 ≠ sectionName) =
      content.filter (·.1 ≠ sectionName) := by
  rw [contentAfter]
  cases hop : op.written? content with
  | none => rfl
  | some all => exact (written?_spec h hop).1

lemma inForce_after (h : Stored format t p content graph) (op : Operation) (s : Setting) :
    s.inForce ((op.after graph).getD []) = op.valueAfter s (s.inForce (graph.getD [])) := by
  cases op with
  | save values =>
    rw [Operation.after, Operation.valueAfter]
    split
    · rename_i entries hentries
      rw [hentries]
      exact inForce_storeAll h.keys (fun e he => validate_of_mem_accepted hentries he) s
    · rename_i hnone
      rw [hnone]
      rfl
  | reset => rfl

variable {ops : List Operation}

lemma written_append (content : Table) (done rest : List Operation) :
    written content (done ++ rest) =
      written content done ++ written (done.foldl contentAfter content) rest := by
  induction done generalizing content with
  | nil => rfl
  | cons op done ih =>
    rw [List.cons_append, written, ih, written, List.append_assoc, List.foldl_cons]

/-- A run keeps the file a store of what is due after it. -/
theorem Stored.runAll (h : Stored format t p content graph)
    (hback : ∀ all ∈ written content ops, ReadsBack format all) :
    Stored format (runAll format t p ops) p (ops.foldl contentAfter content)
        (ops.foldl Operation.after graph) ∧
      (ops.foldl contentAfter content).filter (·.1 ≠ sectionName) =
        content.filter (·.1 ≠ sectionName) ∧
      ∀ s : Setting, s.inForce ((ops.foldl Operation.after graph).getD []) =
        ops.foldl (Operation.valueAfter s) (s.inForce (graph.getD [])) := by
  induction ops generalizing t content graph with
  | nil => exact ⟨h, rfl, fun _ => rfl⟩
  | cons op ops ih =>
    have hop : ∀ all, op.written? content = some all → ReadsBack format all := by
      intro all hall
      exact hback all (by simp [written, hall])
    have hops : ∀ all ∈ written (contentAfter content op) ops, ReadsBack format all :=
      fun all hall => hback all (List.mem_append_right _ hall)
    obtain ⟨hstored, hothers, hvalues⟩ := ih (h.run hop).1 hops
    refine ⟨hstored, hothers.trans (filter_contentAfter h.settings op), fun s => ?_⟩
    rw [List.foldl_cons, hvalues s, inForce_after h op]
    rfl

end Runs

/-- The settings file is a store over every run, if all that the run writes is read as it was
written. After the run, the other tables are as they were, the settings table is what the operations
make of the one before, and each setting has the value that they make of its value before. An
operation fails only if it is refused, and then it changes nothing. -/
theorem store_of_any_run (format : ConfigFormat) (t : FileTree) (p : Path) (content : Table)
    (graph : Option Table) (ops : List Operation) (hfile : loadFile format t p = .ok content)
    (hgraph : section? content = graph.map .table) (hkeys : ((graph.getD []).map Prod.fst).Nodup)
    (hfits : ¬ Overflows (graph.getD [])) (hwritable : Writable t p)
    (hback : ∀ all ∈ written content ops, ReadsBack format all) :
    (∃ content', loadFile format (runAll format t p ops) p = .ok content' ∧
        content'.filter (·.1 ≠ sectionName) = content.filter (·.1 ≠ sectionName) ∧
        (section? content') = (ops.foldl Operation.after graph).map .table) ∧
      (load format (runAll format t p ops) p).settings = .ok (all.map fun s =>
        (s.name, ops.foldl (Operation.valueAfter s) (s.inForce (graph.getD [])))) ∧
      ∀ done op rest, ops = done ++ op :: rest →
        ((op.run format (runAll format t p done) p).result = .ok () ↔ ¬ op.IsRefused) ∧
          (op.IsRefused →
            (op.run format (runAll format t p done) p).files = runAll format t p done) := by
  have hstart : Stored format t p content graph := ⟨hfile, hwritable, hgraph, hkeys, hfits⟩
  obtain ⟨hstored, hothers, hvalues⟩ := hstart.runAll hback
  refine ⟨⟨_, hstored.file, hothers, hstored.settings⟩, ?_, ?_⟩
  · simp only [hstored.load, hvalues]
  · rintro done op rest rfl
    rw [written_append] at hback
    have hdone := (hstart.runAll fun all hall => hback all (List.mem_append_left _ hall)).1
    have hop : ∀ all, op.written? (done.foldl contentAfter content) = some all →
        ReadsBack format all := by
      intro all hall
      exact hback all (List.mem_append_right _ (by simp [written, hall]))
    exact ⟨(hdone.run hop).2, fun hrefused => (hdone.run_refused hrefused).1⟩

/-- A file with another table and with a key that is no setting. -/
def sharedFile : FileTree :=
  treeOf "[other]\nx = 1\n\n[graph]\ncustom = \"kept\"\nlayout = \"tree\"\n".toList

/-- The settings table of the shared file, and the whole of it. -/
def sharedSettings : Table :=
  [("custom", .text "kept"), ("layout", .text "tree")]

def sharedContent : Table :=
  [("other", .table [("x", .integer 1)]), (sectionName, .table sharedSettings)]

lemma loadFile_sharedFile : loadFile Toml.format sharedFile settingsPath = .ok sharedContent := by
  apply eq_ok_of_toOption
  decide +kernel

lemma writable_treeOf (text : List Char) : Writable (treeOf text) settingsPath :=
  ⟨rfl, rfl⟩

/-- What the format of the tool writes of a table, read again. -/
def reread? (all : Table) : Option Table :=
  match Toml.format.write (Document.ofTable all) with
  | (text, none) => (Toml.format.read (Utf8.unifyLineEnds text)).toOption
  | (_, some _) => none

lemma readsBack_of_reread? {all : Table} (h : reread? all = some all) :
    ReadsBack Toml.format all := by
  rw [reread?] at h
  split at h
  · rename_i text hwrite
    exact ⟨text, hwrite, eq_ok_of_toOption h⟩
  · cases h

/-- Two settings are saved, one is refused, and another is saved. -/
def savings : List Operation :=
  [.save [("watch_debounce", .integer 2), ("layout", .text "cluster")],
    .save [("node_size", .text "uniform"), ("layout", .text "spiral")],
    .save [("auto_refresh", .text "no")]]

theorem store_of_any_run_savings :
    ∃ content', loadFile Toml.format (runAll Toml.format sharedFile settingsPath savings)
        settingsPath = .ok content' ∧
      content'.filter (·.1 ≠ sectionName) = [("other", .table [("x", .integer 1)])] ∧
      (section? content') = some (.table [("custom", .text "kept"), ("layout", .text "cluster"),
        ("watch_debounce", .real (.ofInt 2)), ("auto_refresh", .flag false)]) := by
  have hfits : ¬ Overflows sharedSettings := by
    rintro ⟨n, hmem, -⟩
    simp [sharedSettings, name] at hmem
  have hback : ∀ all ∈ written sharedContent savings, ReadsBack Toml.format all := by
    have hreread : ∀ all ∈ written sharedContent savings, reread? all = some all := by
      decide +kernel
    exact fun all hall => readsBack_of_reread? (hreread all hall)
  obtain ⟨⟨content', hcontent, hothers, hsection⟩, -⟩ := store_of_any_run Toml.format sharedFile
    settingsPath sharedContent (some sharedSettings) savings loadFile_sharedFile rfl
    (by decide) hfits (writable_treeOf _) hback
  exact ⟨content', hcontent, hothers.trans (by decide +kernel), hsection.trans (by decide +kernel)⟩

end TypeLineage.Setting
