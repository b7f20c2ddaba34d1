import Mathlib.Data.List.Forall2
import Mathlib.Tactic.Common
import TypeLineage.Proofs.Store

/-!
# Saving into what there is

What comes of saving validated values in a file from which settings are loaded, whatever stands in
it in place of the settings table. Loading passes over what is no table. Saving takes it apart into
pairs, and where that is not possible nothing can be saved at all.
-/

namespace TypeLineage.Setting

namespace Section

/-! ### What can be taken apart -/

/-- A value that can be the key of a pair. -/
def IsKey : Value → Prop
  | .list _ | .table _ => False
  | _ => True

/-- An item of a list that stands for a pair. -/
inductive IsPair : Value → Prop where
  | list {k v : Value} (hk : IsKey k) : IsPair (.list [k, v])
  | table (a b : String × Value) : IsPair (.table [a, b])
  | text {s : String} (hs : s.toList.length = 2) : IsPair (.text s)

/-- What values can be written into. -/
inductive IsMergeable : Option Value → Prop where
  | absent : IsMergeable none
  | table (entries : Table) : IsMergeable (some (.table entries))
  | empty : IsMergeable (some (.text ""))
  | pairs {items : List Value} (h : ∀ item ∈ items, IsPair item) : IsMergeable (some (.list items))

section Shapes

variable {inlineKind : String} {item : Value} {items : List Value}

lemma keyed_eq_ok_iff {k v : Value} : (∃ e, keyed inlineKind k v = .ok e) ↔ IsKey k := by
  cases k <;> simp [keyed, IsKey]

lemma pair_eq_ok_iff (index : Nat) :
    (∃ e, pair inlineKind index item = .ok e) ↔ IsPair item := by
  constructor
  · rintro ⟨e, he⟩
    unfold pair at he
    split at he
    · exact .list (keyed_eq_ok_iff.mp ⟨e, he⟩)
    · cases he
    · exact .table _ _
    · cases he
    · split at he
      · rename_i hchars
        exact .text (by rw [hchars]; rfl)
      · cases he
    · cases he
  · rintro (hk | ⟨a, b⟩ | hs)
    · exact keyed_eq_ok_iff.mpr hk
    · exact ⟨_, rfl⟩
    · obtain ⟨a, b, hchars⟩ := List.length_eq_two.mp hs
      simp [pair, hchars]

lemma ofPairs_eq_ok_iff (index : Nat) (read : Section) :
    (∃ s, ofPairs inlineKind index read items = .ok s) ↔ ∀ item ∈ items, IsPair item := by
  induction items generalizing index read with
  | nil => simp [ofPairs]
  | cons item items ih =>
    rw [List.forall_mem_cons, ← @pair_eq_ok_iff inlineKind item index, ofPairs]
    cases pair inlineKind index item with
    | error fault => simp [bind, Except.bind]
    | ok e => simpa [bind, Except.bind] using ih (index + 1) (read.put e.1 e.2)

theorem ofValue_eq_ok_iff (inlineKind : String) (v : Option Value) :
    (∃ s, ofValue inlineKind v = .ok s) ↔ IsMergeable v := by
  constructor
  · rintro ⟨s, hs⟩
    unfold ofValue at hs
    split at hs
    · exact .absent
    · exact .table _
    · exact .pairs ((ofPairs_eq_ok_iff 0 []).mp ⟨s, hs⟩)
    · split at hs
      · rename_i x hx
        obtain rfl : x = "" := by simpa using hx
        exact .empty
      · cases hs
    · cases hs
  · rintro (_ | entries | _ | h)
    · exact ⟨_, rfl⟩
    · exact ⟨_, rfl⟩
    · exact ⟨_, rfl⟩
    · exact (ofPairs_eq_ok_iff 0 []).mpr h

end Shapes

/-! ### Keys -/

section Keys

variable {inlineKind : String} {items : List Value} {s read : Section} {t : Table}

/-- No two keys are one. -/
def Distinct (s : Section) : Prop :=
  (s.map Prod.fst).Pairwise fun l k => sameKey l k = false

lemma map_fst_put (k v : Value) (s : Section) : (s.put k v).map Prod.fst = s.map Prod.fst ∨
    ((s.put k v).map Prod.fst = s.map Prod.fst ++ [k] ∧
      ∀ l ∈ s.map Prod.fst, sameKey l k = false) := by
  induction s with
  | nil => exact .inr ⟨rfl, by simp⟩
  | cons e s ih =>
    obtain ⟨l, w⟩ := e
    rw [put]
    split
    · exact .inl rfl
    · rename_i hl
      obtain ih | ⟨ih, hnew⟩ := ih
      · exact .inl (by rw [List.map_cons, ih, List.map_cons])
      · refine .inr ⟨by rw [List.map_cons, ih, List.map_cons, List.cons_append], ?_⟩
        simpa [List.forall_mem_cons] using ⟨by simpa using hl, by simpa using hnew⟩

lemma Distinct.put (h : Distinct s) (k v : Value) : Distinct (s.put k v) := by
  rw [Distinct]
  obtain hkeys | ⟨hkeys, hnew⟩ := map_fst_put k v s
  · rw [hkeys]
    exact h
  · rw [hkeys, List.pairwise_append]
    exact ⟨h, List.pairwise_singleton _ _, by simpa using hnew⟩

lemma distinct_ofPairs {index : Nat} (hread : Distinct read)
    (h : ofPairs inlineKind index read items = .ok s) : Distinct s := by
  induction items generalizing index read with
  | nil => exact Except.ok.inj h ▸ hread
  | cons item items ih =>
    obtain ⟨⟨k, v⟩, -, hrest⟩ := exists_of_bind_eq_ok h
    exact ih (hread.put k v) hrest

lemma distinct_ofTable_iff : Distinct (ofTable t) ↔ (t.map Prod.fst).Nodup := by
  have hkeys : (ofTable t).map Prod.fst = (t.map Prod.fst).map Value.text := by
    simp [ofTable]
  rw [Distinct, hkeys, List.pairwise_map]
  simp [sameKey, List.Nodup]

end Keys

end Section

section Saving

variable {format : ConfigFormat} {t : FileTree} {p : Path} {content entries own : Table}
  {s : Section} {values : List (String × Value)}

lemma save_of_not_mergeable (hfile : loadFile format t p = .ok content)
    (hentries : accepted? values = some entries)
    (hmerge : ¬ Section.IsMergeable (section? content)) :
    ∃ fault, Section.ofValue format.inlineKind (section? content) = .error fault ∧
      save format t p values = ⟨t, .error (.pairs fault)⟩ := by
  cases hs : Section.ofValue format.inlineKind (section? content) with
  | ok s => exact absurd ((Section.ofValue_eq_ok_iff _ _).mp ⟨s, hs⟩) hmerge
  | error fault =>
    have hchanged : changed format t p values = .error (.pairs fault) := by
      rw [changed, not_reserved hentries, hfile]
      simp only [hs]
      rfl
    exact ⟨fault, rfl, by rw [save, hchanged]⟩

lemma distinct_ofValue (hkeys : ((entriesIn content).map Prod.fst).Nodup)
    (hs : Section.ofValue format.inlineKind (section? content) = .ok s) : s.Distinct := by
  have hnil : Section.Distinct [] := List.Pairwise.nil
  unfold Section.ofValue at hs
  split at hs
  · cases hs
    exact hnil
  · rename_i entries hgraph
    cases hs
    rw [entriesIn, hgraph] at hkeys
    exact Section.distinct_ofTable_iff.mpr hkeys
  · exact Section.distinct_ofPairs hnil hs
  · split at hs
    · cases hs
      exact hnil
    · cases hs
  · cases hs

lemma load_of_written {text : List Char} (hwritable : Writable t p)
    (hkeys : (own.map Prod.fst).Nodup) (hentries : accepted? values = some entries)
    (hfits : ¬ Overflows (storeAll own entries))
    (hread : format.read (Utf8.unifyLineEnds text) =
      .ok (Table.store sectionName (.table (storeAll own entries)) content)) :
    (load format (saveText t p (text, none)).files p).settings =
      .ok (all.map fun s => (s.name, (Operation.save values).valueAfter s (s.inForce own))) := by
  obtain ⟨-, hfile, hwritable'⟩ := saveText_of_writable format hwritable (text, none)
  have hall : tableOf format (Utf8.unifyLineEnds text) =
      .ok (Table.store sectionName (.table (storeAll own entries)) content) := by
    rw [tableOf, hread]
  have hstored : Stored format (saveText t p (text, none)).files p
      (Table.store sectionName (.table (storeAll own entries)) content)
      (some (storeAll own entries)) :=
    ⟨hfile.trans hall, hwritable', settings_store _ _, nodup_keys_storeAll hkeys _, hfits⟩
  have hvalues : ∀ s : Setting, s.inForce (storeAll own entries) =
      (Operation.save values).valueAfter s (s.inForce own) := by
    intro s
    rw [inForce_storeAll hkeys (fun e he => validate_of_mem_accepted hentries he),
      Operation.valueAfter, hentries]
    rfl
  rw [hstored.load]
  simp only [Option.getD_some, hvalues]

lemma fits_of_load {settings : Table} (hfile : loadFile format t p = .ok content)
    (hload : (load format t p).settings = .ok settings) : ¬ Overflows (entriesIn content) := by
  intro hover
  rw [(load_of_any_content format t p content hfile).2.1 hover] at hload
  cases hload

/-- Unless it is a list of pairs, what saving writes into is what loading reads. -/
lemma eq_entriesIn (hlist : ∀ items, section? content ≠ some (.list items))
    (hown : Section.ofValue format.inlineKind (section? content) = .ok (Section.ofTable own)) :
    own = entriesIn content := by
  have hread : Section.ofValue format.inlineKind (section? content) =
      .ok (Section.ofTable (entriesIn content)) := by
    rw [entriesIn]
    generalize section? content = graph at hlist hown
    obtain _ | _ | _ | _ := (Section.ofValue_eq_ok_iff _ graph).mp ⟨_, hown⟩
    · rfl
    · rfl
    · rfl
    · exact absurd rfl (hlist _)
  rw [hown] at hread
  have htables := congrArg Section.table? (Except.ok.inj hread)
  rw [table?_ofTable, table?_ofTable] at htables
  exact Option.some.inj htables

/-- What is loaded has no number out of range. Only a list of pairs is not looked at. -/
lemma fits_of_loaded (hfits : ¬ Overflows (entriesIn content))
    (hentries : accepted? values = some entries)
    (hown : Section.ofValue format.inlineKind (section? content) = .ok (Section.ofTable own))
    (hlist : ∀ items, section? content = some (.list items) → ¬ Overflows (storeAll own entries)) :
    ¬ Overflows (storeAll own entries) := by
  by_cases hitems : ∃ items, section? content = some (.list items)
  · obtain ⟨items, hitems⟩ := hitems
    exact hlist items hitems
  · rw [eq_entriesIn (fun items h => hitems ⟨items, h⟩) hown]
    exact not_overflows_storeAll hfits fun e he => validate_of_mem_accepted hentries he

end Saving

/-- What comes of saving accepted values into a section, in a file with some content: what the
format writes of it, up to a fault if there is one. -/
structure SavesInto (format : ConfigFormat) (t : FileTree) (p : Path)
    (values : List (String × Value)) (entries content : Table) (s : Section) : Prop where
  result : (save format t p values).result =
    (format.write (documentWith (s.putAll entries) content)).2.elim (.ok ())
      fun fault => .error (.format fault)
  file : loadFile format (save format t p values).files p =
    tableOf format (Utf8.unifyLineEnds (format.write (documentWith (s.putAll entries) content)).1)
  /-- What is read as it was written has the saved values, and the others as they were. -/
  loaded : ∀ own, s = Section.ofTable own →
    (∀ items, section? content = some (.list items) → ¬ Overflows (storeAll own entries)) →
    ReadsBack format (Table.store sectionName (.table (storeAll own entries)) content) →
      (save format t p values).result = .ok () ∧
        (load format (save format t p values).files p).settings =
          .ok (all.map fun s => (s.name, (Operation.save values).valueAfter s (s.inForce own)))

/-- Where settings are loaded from a file that can be written, what stands in place of the settings
table decides what comes of saving accepted ones. If it cannot be taken apart into pairs, saving is
refused and nothing changes, although loading passes over it. Otherwise the values are written among
the pairs and are loaded from then on, if the format reads what it has written. -/
theorem save_where_loaded (format : ConfigFormat) (t : FileTree) (p : Path)
    (content settings : Table) (values : List (String × Value)) (entries : Table)
    (hfile : loadFile format t p = .ok content)
    (hload : (load format t p).settings = .ok settings)
    (hkeys : ((entriesIn content).map Prod.fst).Nodup) (hwritable : Writable t p)
    (hentries : accepted? values = some entries) :
    (¬ Section.IsMergeable (section? content) → ∃ fault,
        Section.ofValue format.inlineKind (section? content) = .error fault ∧
          save format t p values = ⟨t, .error (.pairs fault)⟩) ∧
      (Section.IsMergeable (section? content) → ∃ s,
        Section.ofValue format.inlineKind (section? content) = .ok s ∧
          SavesInto format t p values entries content s) := by
  refine ⟨save_of_not_mergeable hfile hentries, fun hmerge => ?_⟩
  obtain ⟨s, hs⟩ := (Section.ofValue_eq_ok_iff format.inlineKind _).mpr hmerge
  have hsave := save_of_accepted hfile hentries hs
  obtain ⟨hresult, hread, -⟩ := saveText_of_writable format hwritable
    (format.write (documentWith (s.putAll entries) content))
  refine ⟨s, hs, ⟨hsave ▸ hresult, hsave ▸ hread, ?_⟩⟩
  rintro own rfl hlist ⟨text, hwrite, hback⟩
  rw [putAll_ofTable, documentWith_ofTable, hwrite] at hsave hresult
  have hown := Section.distinct_ofTable_iff.mp (distinct_ofValue hkeys hs)
  have hfits := fits_of_loaded (fits_of_load hfile hload) hentries hs hlist
  rw [hsave]
  exact ⟨hresult, load_of_written hwritable hown hentries hfits hback⟩

/-- A file with a word in place of the settings table. -/
def wordFile : FileTree :=
  treeOf "graph = \"oops\"\n".toList

theorem save_where_loaded_word : (load Toml.format wordFile settingsPath).settings = .ok defaults ∧
    save Toml.format wordFile settingsPath [("layout", .text "tree")] =
      ⟨wordFile, .error (.pairs (.notPair 0 1))⟩ := by
  have hload : (load Toml.format wordFile settingsPath).settings = .ok defaults := by
    apply eq_ok_of_toOption
    decide +kernel
  have hfile : loadFile Toml.format wordFile settingsPath = .ok [(sectionName, .text "oops")] := by
    apply eq_ok_of_toOption
    decide +kernel
  have hmerge : ¬ Section.IsMergeable (section? [(sectionName, .text "oops")]) := by
    intro h
    obtain ⟨s, hs⟩ := (Section.ofValue_eq_ok_iff Toml.format.inlineKind _).mpr h
    cases hs
  obtain ⟨fault, hfault, hsave⟩ := (save_where_loaded Toml.format wordFile settingsPath _ defaults
    [("layout", .text "tree")] [("layout", .text "tree")] hfile hload List.nodup_nil
    (writable_treeOf _) rfl).1 hmerge
  rw [hsave, ← Except.error.inj hfault]
  exact ⟨hload, rfl⟩

end TypeLineage.Setting
