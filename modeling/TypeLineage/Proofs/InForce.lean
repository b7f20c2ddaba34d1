import Mathlib.Data.List.Basic
import Mathlib.Logic.Function.Basic
import Mathlib.Tactic.Common
import TypeLineage.Proofs.Outcome
import TypeLineage.Proofs.Range
import TypeLineage.Proofs.Text
import TypeLineage.Proofs.Values
import TypeLineage.Setting.Store
import TypeLineage.Toml.Format

/-!
# The settings in force

What loading makes of the settings in a file, whatever their values are. Each setting has the last
value that it takes from the file, or its default. An accepted value is accepted again as it is.
Only an integer that is out of range keeps the settings from being loaded.
-/

namespace TypeLineage.Setting

open Text

lemma ofName?_name (s : Setting) : ofName? s.name = some s := by
  cases s <;> rfl

lemma name_of_ofName? {k : String} {s : Setting} (h : ofName? k = some s) : s.name = k := by
  simpa using List.find?_some h

lemma name_injective : Function.Injective name := by
  intro s t h
  have ht := ofName?_name t
  rw [← h, ofName?_name s] at ht
  exact Option.some.inj ht

section Accepting

variable {s : Setting} {v w : Value}

lemma validateChoice_eq_ok {choices : List String} {fault : Fault}
    (h : validateChoice choices fault v = .ok w) : ∃ x, w = .text x ∧ x ∈ choices := by
  unfold validateChoice at h
  split at h
  · rename_i x
    split at h
    · rename_i hx
      exact ⟨x, (Except.ok.inj h).symm, by simpa using hx⟩
    · cases h
  · cases h

lemma validateBoolean_eq_ok {key : String} (h : validateBoolean key v = .ok w) :
    ∃ b, w = .flag b := by
  unfold validateBoolean at h
  split at h
  · exact ⟨_, (Except.ok.inj h).symm⟩
  · obtain ⟨text, -, h⟩ := exists_of_bind_eq_ok h
    split at h
    · exact ⟨_, (Except.ok.inj h).symm⟩
    · cases h

lemma validateSeconds_eq_ok {key : String} (h : validateSeconds key v = .ok w) :
    ∃ x : Binary64, w = .real x ∧ x.isNegative = false := by
  obtain ⟨x, -, h⟩ := exists_of_bind_eq_ok h
  split at h
  · cases h
  · rename_i hx
    exact ⟨x, (Except.ok.inj h).symm, by simpa using hx⟩

theorem accept_of_accept (h : s.accept v = .ok w) : s.accept w = .ok w := by
  cases s with
  | rootSuffix =>
    obtain ⟨text, -, rfl⟩ := exists_of_map_eq_ok h
    have hplain : plainText (.text (String.ofList (trim text))) = .ok (trim text) := by
      simp [plainText, Value.isShowable, Value.plain]
    rw [accept, hplain, Except.map, (trimmed_trim text).trim_eq]
  | layout | nodeSize =>
    obtain ⟨x, rfl, hx⟩ := validateChoice_eq_ok h
    simp [accept, validateChoice, hx]
  | showProperties | autoRefresh =>
    obtain ⟨b, rfl⟩ := validateBoolean_eq_ok h
    rfl
  | watchDebounce =>
    obtain ⟨x, rfl, hx⟩ := validateSeconds_eq_ok h
    have hseconds : seconds watchDebounce.name (.real x) = .ok x := rfl
    rw [accept, validateSeconds, hseconds]
    exact if_neg (by simp [hx])

lemma accept_default (s : Setting) : s.accept s.default = .ok s.default := by
  cases s <;> rfl

lemma plainText_ne_tooLarge : plainText v ≠ .error .tooLarge := by
  rw [plainText]
  split <;> simp

lemma validateChoice_ne_tooLarge {choices : List String} {fault : Fault}
    (hfault : fault ≠ .tooLarge) : validateChoice choices fault v ≠ .error .tooLarge := by
  unfold validateChoice
  split
  · split <;> simp [hfault]
  · simp [hfault]

lemma validateBoolean_ne_tooLarge {key : String} : validateBoolean key v ≠ .error .tooLarge := by
  unfold validateBoolean
  split
  · simp
  · intro h
    rcases of_bind_eq_error h with h | ⟨text, h⟩
    · exact plainText_ne_tooLarge h
    · split at h <;> simp at h

lemma seconds_eq_tooLarge_iff {key : String} : seconds key v = .error .tooLarge ↔
    ∃ n, v = .integer n ∧ Binary64.overflowBound ≤ n.natAbs := by
  have hplain : ∀ v, (do .error (.notNumber key (← plainText v)) : Except Fault Binary64) ≠
      .error .tooLarge := by
    intro v h
    rcases of_bind_eq_error h with h | ⟨text, h⟩
    · exact plainText_ne_tooLarge h
    · simp at h
  cases v with
  | integer n =>
    simp only [Value.integer.injEq, exists_eq_left', ← Binary64.ofInt_eq_infinite_iff, seconds]
    cases Binary64.ofInt n <;> simp
  | flag b => simp [seconds]
  | real x => simp [seconds]
  | text t => cases ht : Binary64.ofText? t.toList <;> simp [seconds, ht]
  | null | moment m | list items | table entries =>
    refine ⟨fun h => absurd h (hplain _), ?_⟩
    rintro ⟨n, h, -⟩
    cases h

lemma validateSeconds_eq_tooLarge_iff {key : String} :
    validateSeconds key v = .error .tooLarge ↔ seconds key v = .error .tooLarge := by
  constructor
  · intro h
    rcases of_bind_eq_error h with h | ⟨x, h⟩
    · exact h
    · split at h <;> simp at h
  · intro h
    rw [validateSeconds, h]
    rfl

lemma accept_eq_tooLarge_iff : s.accept v = .error .tooLarge ↔
    s = .watchDebounce ∧ ∃ n, v = .integer n ∧ Binary64.overflowBound ≤ n.natAbs := by
  cases s with
  | rootSuffix =>
    have hne := plainText_ne_tooLarge (v := v)
    rw [accept]
    cases htext : plainText v <;> simp_all [Except.map]
  | layout | nodeSize => simp [accept, validateChoice_ne_tooLarge]
  | showProperties | autoRefresh => simp [accept, validateBoolean_ne_tooLarge]
  | watchDebounce => simp [accept, validateSeconds_eq_tooLarge_iff, seconds_eq_tooLarge_iff]

end Accepting

/-! ### Loading -/

/-- A table with a value for every setting, in order. -/
def tableOfAll (f : Setting → Value) : Table :=
  all.map fun s => (s.name, f s)

lemma store_tableOfAll (f : Setting → Value) (s : Setting) (v : Value) :
    Table.store s.name v (tableOfAll f) = tableOfAll (Function.update f s v) := by
  cases s <;> rfl

/-- What a setting takes of the entries of its name, in order. -/
def taken (s : Setting) (entries : Table) : List Value :=
  entries.filterMap fun entry => if entry.1 = s.name then (s.accept entry.2).toOption else none

/-- The value of a setting after entries have been taken over. -/
def inForce (s : Setting) (entries : Table) : Value :=
  (s.taken entries).getLast?.getD s.default

/-- The entries of the settings in a file. What is no table has none. -/
def entriesIn (all : Table) : Table :=
  match section? all with
  | some (.table entries) => entries
  | _ => []

/-- A number of seconds that is given as an integer out of range. -/
def Overflows (entries : Table) : Prop :=
  ∃ n : Int, (watchDebounce.name, .integer n) ∈ entries ∧ Binary64.overflowBound ≤ n.natAbs

lemma defaults_eq : (Effective.mk defaults []).settings = tableOfAll default :=
  rfl

section Taking

variable {entry : String × Value} {entries : Table} {s : Setting} {v : Value}

lemma overflows_cons_iff : Overflows (entry :: entries) ↔
    (∃ s : Setting, ofName? entry.1 = some s ∧ s.accept entry.2 = .error .tooLarge) ∨
      Overflows entries := by
  obtain ⟨k, v⟩ := entry
  have hhead : (∃ s : Setting, ofName? k = some s ∧ s.accept v = .error .tooLarge) ↔
      ∃ n : Int, (watchDebounce.name, Value.integer n) = (k, v) ∧
        Binary64.overflowBound ≤ n.natAbs := by
    constructor
    · rintro ⟨s, hs, hv⟩
      obtain ⟨rfl, n, rfl, hn⟩ := accept_eq_tooLarge_iff.mp hv
      exact ⟨n, by rw [name_of_ofName? hs], hn⟩
    · rintro ⟨n, heq, hn⟩
      obtain ⟨rfl, rfl⟩ := Prod.mk.inj heq
      exact ⟨watchDebounce, rfl, accept_eq_tooLarge_iff.mpr ⟨rfl, n, rfl, hn⟩⟩
  rw [hhead]
  simp only [Overflows, List.mem_cons, or_and_right, exists_or]

/-- What the settings are after an entry has been taken over. -/
def afterEntry (f : Setting → Value) (entry : String × Value) (s : Setting) : Value :=
  ((s.taken [entry]).getLast?).getD (f s)

lemma taken_cons (s : Setting) (entry : String × Value) (entries : Table) :
    s.taken (entry :: entries) = s.taken [entry] ++ s.taken entries := by
  rw [taken, ← List.singleton_append, List.filterMap_append]
  rfl

lemma getLast?_taken_cons (f : Setting → Value) (entry : String × Value) (entries : Table)
    (s : Setting) : (s.taken (entry :: entries)).getLast?.getD (f s) =
      (s.taken entries).getLast?.getD (afterEntry f entry s) := by
  rw [taken_cons, List.getLast?_append, afterEntry]
  cases (s.taken entries).getLast? <;> rfl

lemma afterEntry_eq_update {f : Setting → Value} {t : Setting} (hk : ofName? entry.1 = some t)
    (hv : t.accept entry.2 = .ok v) : afterEntry f entry = Function.update f t v := by
  funext s
  by_cases hs : s = t
  · subst hs
    simp [afterEntry, taken, ← name_of_ofName? hk, hv, Except.toOption]
  · have hne : t.name ≠ s.name := fun h => hs (name_injective h).symm
    simp [afterEntry, taken, ← name_of_ofName? hk, hne, hs]

lemma afterEntry_eq_self {f : Setting → Value}
    (h : ∀ t, ofName? entry.1 = some t → (t.accept entry.2).toOption = none) :
    afterEntry f entry = f := by
  funext s
  by_cases hs : entry.1 = s.name
  · have hnone := h s (by rw [hs, ofName?_name])
    simp [afterEntry, taken, hs, hnone]
  · simp [afterEntry, taken, hs]

lemma take_eq {e : Effective} {f : Setting → Value} (he : e.settings = tableOfAll f)
    (hentry : ∀ t, ofName? entry.1 = some t → t.accept entry.2 ≠ .error .tooLarge) :
    ∃ e', e.take entry = .ok e' ∧ e'.settings = tableOfAll (afterEntry f entry) := by
  unfold Effective.take
  cases hk : ofName? entry.1 with
  | none =>
    refine ⟨e, rfl, ?_⟩
    rw [afterEntry_eq_self (by simp [hk]), he]
  | some t =>
    cases hv : t.accept entry.2 with
    | ok v =>
      simp only [hv]
      refine ⟨_, rfl, ?_⟩
      rw [afterEntry_eq_update hk hv, ← store_tableOfAll, he, name_of_ofName? hk]
    | error fault =>
      have hne : fault ≠ .tooLarge := fun h => hentry t hk (h ▸ hv)
      have hself : afterEntry f entry = f := by
        apply afterEntry_eq_self
        intro t' ht'
        rw [hk] at ht'
        rw [← Option.some.inj ht', hv]
        rfl
      simp only [hv]
      exact ⟨{ e with ignored := entry :: e.ignored }, rfl, by rw [hself, ← he]⟩

/-- A number out of range ends the taking over of entries. Without one, each setting gets the last
value that it takes. -/
theorem takeAll_eq {e : Effective} {f : Setting → Value} (he : e.settings = tableOfAll f)
    (entries : Table) :
    (Overflows entries → (e.takeAll entries).2 = .error .tooLarge) ∧
      (¬ Overflows entries → (e.takeAll entries).2 = .ok () ∧
        (e.takeAll entries).1.settings =
          tableOfAll fun s => (s.taken entries).getLast?.getD (f s)) := by
  induction entries generalizing e f with
  | nil => simp [Overflows, Effective.takeAll, taken, he]
  | cons entry entries ih =>
    rw [overflows_cons_iff, Effective.takeAll]
    -- The first entry either ends everything or changes the setting of its name.
    by_cases hentry : ∃ t : Setting, ofName? entry.1 = some t ∧ t.accept entry.2 = .error .tooLarge
    · obtain ⟨t, hk, hv⟩ := hentry
      have htake : e.take entry = .error .tooLarge := by simp [Effective.take, hk, hv]
      simp [htake, hk, hv]
    · have hne : ∀ t, ofName? entry.1 = some t → t.accept entry.2 ≠ .error .tooLarge :=
        fun t hk hv => hentry ⟨t, hk, hv⟩
      obtain ⟨e', htake, he'⟩ := take_eq he hne
      simp only [htake, hentry, false_or, getLast?_taken_cons]
      exact ih he'

end Taking

section InForce

variable {s : Setting} {v w : Value} {entries : Table}

lemma validate_name (s : Setting) (v : Value) : validate s.name v = s.accept v := by
  rw [validate, ofName?_name]

lemma mem_taken_iff : w ∈ s.taken entries ↔ ∃ v, (s.name, v) ∈ entries ∧ s.accept v = .ok w := by
  have hoption : ∀ x : Except Fault Value, x.toOption = some w ↔ x = .ok w := by
    intro x
    cases x <;> simp [Except.toOption]
  simp only [taken, List.mem_filterMap, Option.ite_none_right_eq_some, hoption]
  constructor
  · rintro ⟨⟨k, v⟩, hmem, rfl, hv⟩
    exact ⟨v, hmem, hv⟩
  · rintro ⟨v, hmem, hv⟩
    exact ⟨(s.name, v), hmem, rfl, hv⟩

lemma accept_inForce (s : Setting) (entries : Table) :
    s.accept (s.inForce entries) = .ok (s.inForce entries) := by
  rw [inForce]
  cases hlast : (s.taken entries).getLast? with
  | none => exact accept_default s
  | some w =>
    obtain ⟨v, -, hv⟩ := mem_taken_iff.mp (List.mem_of_getLast? hlast)
    exact accept_of_accept hv

lemma effective_eq (content : Table) :
    effective content = Effective.takeAll ⟨defaults, []⟩ (entriesIn content) := by
  unfold effective entriesIn
  cases section? content with
  | none => rfl
  | some v => cases v <;> rfl

lemma load_eq {format : ConfigFormat} {t : FileTree} {p : Path} {content : Table}
    (hfile : loadFile format t p = .ok content) :
    (load format t p).settings = match (effective content).2 with
      | .ok () => .ok (effective content).1.settings
      | .error fault => .error (.setting fault) := by
  simp only [load, hfile]
  generalize effective content = result
  obtain ⟨e, outcome⟩ := result
  cases outcome <;> rfl

lemma taken_eq_nil (h : ∀ v w, (s.name, v) ∈ entries → s.accept v ≠ .ok w) :
    s.taken entries = [] := by
  rw [List.eq_nil_iff_forall_not_mem]
  intro w hw
  obtain ⟨v, hmem, hv⟩ := mem_taken_iff.mp hw
  exact h v w hmem hv

lemma inForce_of_refused (h : ∀ v w, (s.name, v) ∈ entries → s.accept v ≠ .ok w) :
    s.inForce entries = s.default := by
  rw [inForce, taken_eq_nil h]
  rfl

lemma inForce_of_last {before after : Table} (hafter : s.name ∉ after.map Prod.fst)
    (hv : s.accept v = .ok w) : s.inForce (before ++ (s.name, v) :: after) = w := by
  have hnone : s.taken after = [] :=
    taken_eq_nil fun v' _ hmem => absurd (List.mem_map_of_mem hmem) hafter
  have hone : s.taken [(s.name, v)] = [w] := by simp [taken, hv, Except.toOption]
  rw [inForce, taken, List.filterMap_append, ← taken, ← taken, taken_cons, hone, hnone]
  simp

end InForce

/-- Loading a file that can be read gives every setting the last value that it takes from the file,
or its default; all are accepted again as they are. Only an integer of seconds that is out of range
keeps the settings from being loaded. -/
theorem load_of_any_content (format : ConfigFormat) (t : FileTree) (p : Path) (content : Table)
    (hfile : loadFile format t p = .ok content) :
    (¬ Overflows (entriesIn content) → (load format t p).settings =
        .ok (all.map fun s => (s.name, s.inForce (entriesIn content)))) ∧
      (Overflows (entriesIn content) → (load format t p).settings = .error (.setting .tooLarge)) ∧
      (∀ s : Setting, validate s.name (s.inForce (entriesIn content)) =
        .ok (s.inForce (entriesIn content))) ∧
      (∀ (s : Setting) (v w : Value) (before after : Table),
        entriesIn content = before ++ (s.name, v) :: after → s.name ∉ after.map Prod.fst →
          validate s.name v = .ok w → s.inForce (entriesIn content) = w) ∧
      ∀ s : Setting, (∀ v w, (s.name, v) ∈ entriesIn content → validate s.name v ≠ .ok w) →
        s.inForce (entriesIn content) = s.default := by
  simp only [validate_name]
  refine ⟨fun h => ?_, fun h => ?_, fun s => accept_inForce s _, ?_, fun s => inForce_of_refused⟩
  · obtain ⟨hok, hsettings⟩ := (takeAll_eq defaults_eq (entriesIn content)).2 h
    rw [load_eq hfile, effective_eq, hok, hsettings]
    rfl
  · rw [load_eq hfile, effective_eq, (takeAll_eq defaults_eq (entriesIn content)).1 h]
  · rintro s v w before after heq hafter hv
    rw [heq]
    exact inForce_of_last hafter hv

/-- A settings file in the working directory. -/
def settingsPath : Path :=
  ⟨.relative, ["config.toml"]⟩

/-- A settings file and nothing else. -/
def treeOf (text : List Char) : FileTree :=
  (FileTree.bare []).put settingsPath.parts (.file (Utf8.encode text) .full)

/-- A file whose number of seconds has 310 digits. -/
def longWait : FileTree :=
  treeOf ("[graph]\nwatch_debounce = 1".toList ++ List.replicate 309 '0' ++ ['\n'])

theorem load_of_any_content_long :
    ∃ content, loadFile Toml.format longWait settingsPath = .ok content ∧
      (load Toml.format longWait settingsPath).settings = .error (.setting .tooLarge) := by
  have hfile : loadFile Toml.format longWait settingsPath = .ok [(sectionName,
      .table [(watchDebounce.name, .integer (Int.ofNat (Nat.pow 10 309)))])] := by
    apply eq_ok_of_toOption
    decide +kernel
  have hbound : Binary64.overflowBound ≤ (Int.ofNat (Nat.pow 10 309)).natAbs := by decide +kernel
  exact ⟨_, hfile, (load_of_any_content _ _ _ _ hfile).2.1
    ⟨_, List.mem_singleton_self _, hbound⟩⟩

end TypeLineage.Setting
