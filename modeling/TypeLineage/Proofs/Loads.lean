import Mathlib.Data.List.Induction
import Mathlib.Tactic.Common
import TypeLineage.FileTree
import TypeLineage.Workspace.Loader

/-!
# Runs of a provider

A provider is used while the files change: workspaces are loaded, some of the loads fail, and what
was loaded is cleared. The cache holds the types of exactly those workspaces that were loaded since
the last clearing. So the files are read only for a workspace that was not, and a load that fails
leaves all as it was. Two paths are one workspace if they are resolved to one path at the time; a
path can lead elsewhere once links have changed. The main result is `loads_of_any_run`.
-/

namespace TypeLineage

variable {files : Files} {w : Path} {key : String} {r : Rooted} {fault : FileFault}

namespace Loader

variable {l : Loader}

lemma remembered?_remember (l : Loader) (key k : String) (r : Rooted) :
    (l.remember key r).remembered? k = if key = k then some r else l.remembered? k := by
  by_cases h : key = k <;> simp [remember, remembered?, h]

lemma remembered?_clear (l : Loader) (k : String) : l.clear.remembered? k = none := rfl

lemma load_of_unresolved (h : files.resolve w = .error fault) :
    l.load files w = (⟨[], .error fault⟩, l) := by
  simp only [load, h]

lemma load_of_remembered (hkey : files.resolve w = .ok key) (h : l.remembered? key = some r) :
    l.load files w = (⟨[.remembered key], .ok r⟩, l) := by
  simp only [load, hkey, h]

lemma load_of_not_remembered (hkey : files.resolve w = .ok key) (h : l.remembered? key = none) :
    (l.load files w).1 = Workspace.readTypes files l.suffix w := by
  simp only [load, hkey, h]
  split <;> rfl

lemma load_cases (l : Loader) (files : Files) (w : Path) :
    (∃ key r, files.resolve w = .ok key ∧ (l.load files w).1.result = .ok r ∧
        l.remembered? key = some r ∧ (l.load files w).2 = l) ∨
      (∃ key r, files.resolve w = .ok key ∧ (l.load files w).1.result = .ok r ∧
        l.remembered? key = none ∧ (l.load files w).2 = l.remember key r) ∨
      ∃ fault, (l.load files w).1.result = .error fault ∧ (l.load files w).2 = l := by
  cases hkey : files.resolve w with
  | error fault => exact .inr (.inr ⟨fault, by simp [load_of_unresolved hkey]⟩)
  | ok key =>
    cases h : l.remembered? key with
    | some r => exact .inl ⟨key, r, rfl, by simp [load_of_remembered hkey h, h]⟩
    | none =>
      cases hread : (Workspace.readTypes files l.suffix w).result with
      | ok r =>
        refine .inr (.inl ⟨key, r, rfl, ?_, h, ?_⟩)
        · rw [load_of_not_remembered hkey h, hread]
        · simp [load, hkey, h, hread]
      | error fault =>
        refine .inr (.inr ⟨fault, ?_, ?_⟩)
        · rw [load_of_not_remembered hkey h, hread]
        · simp [load, hkey, h, hread]

lemma suffix_load (l : Loader) (files : Files) (w : Path) :
    (l.load files w).2.suffix = l.suffix := by
  obtain ⟨key, r, -, -, -, h⟩ | ⟨key, r, -, -, -, h⟩ | ⟨fault, -, h⟩ := l.load_cases files w
  · rw [h]
  · rw [h, remember]
  · rw [h]

end Loader

namespace Provider

variable {p : Provider}

lemma load_of_ok (h : (p.loader.load files w).1.result = .ok r) :
    (p.load files w).1.result = .ok (.ofHierarchy r true) ∧
      (p.load files w).2 = ⟨(p.loader.load files w).2, r, some (.ofHierarchy r true)⟩ := by
  simp [load, h]

lemma load_of_error (h : (p.loader.load files w).1.result = .error fault) :
    (p.load files w).1.result = .error fault ∧
      (p.load files w).2 = { p with loader := (p.loader.load files w).2 } := by
  simp [load, h]

lemma load_of_failure (h : (p.loader.load files w).1.result = .error fault) :
    (p.load files w).1.result = .error fault ∧ (p.load files w).2 = p := by
  obtain ⟨hanswer, hafter⟩ := load_of_error h
  refine ⟨hanswer, hafter.trans ?_⟩
  obtain ⟨key, r, -, hok, -⟩ | ⟨key, r, -, hok, -⟩ | ⟨-, -, hsame⟩ := p.loader.load_cases files w
  · cases hok.symm.trans h
  · cases hok.symm.trans h
  · rw [hsame]

/-- The types of a workspace are given and held, as roots and as a graph. -/
def Gives (p : Provider) (files : Files) (w : Path) (r : Rooted) : Prop :=
  (p.load files w).1.result = .ok (.ofHierarchy r true) ∧ (p.load files w).2.roots = r ∧
    (p.load files w).2.graph = some (.ofHierarchy r true)

lemma gives_of_ok (h : (p.loader.load files w).1.result = .ok r) : p.Gives files w r := by
  obtain ⟨hanswer, hafter⟩ := load_of_ok h
  exact ⟨hanswer, by rw [hafter], by rw [hafter]⟩

lemma gives_iff : p.Gives files w r ↔ (p.loader.load files w).1.result = .ok r := by
  refine ⟨fun hgives => ?_, gives_of_ok⟩
  cases h : (p.loader.load files w).1.result with
  | ok r' => rw [← (gives_of_ok h).2.1, hgives.2.1]
  | error fault => cases (load_of_error h).1.symm.trans hgives.1

/-- The files are read: what they give is given, and if that fails nothing at all changes. -/
def Reads (p : Provider) (suffix : String) (files : Files) (w : Path) : Prop :=
  (∀ r, (Workspace.readTypes files suffix w).result = .ok r → p.Gives files w r) ∧
    ∀ fault, (Workspace.readTypes files suffix w).result = .error fault →
      (p.load files w).1.result = .error fault ∧ (p.load files w).2 = p

lemma reads_of_not_remembered (hkey : files.resolve w = .ok key)
    (h : p.loader.remembered? key = none) : p.Reads p.loader.suffix files w := by
  have hread := Loader.load_of_not_remembered hkey h
  constructor
  · intro r hok
    exact gives_of_ok (hread ▸ hok)
  · intro fault herror
    exact load_of_failure (hread ▸ herror)

lemma remembered?_load (p : Provider) (files : Files) (w : Path) (key : String) (r : Rooted) :
    (p.load files w).2.loader.remembered? key = some r ↔
      p.loader.remembered? key = some r ∨ files.resolve w = .ok key ∧ p.Gives files w r := by
  have hloader : (p.load files w).2.loader = (p.loader.load files w).2 := by
    cases h : (p.loader.load files w).1.result with
    | ok r => rw [(load_of_ok h).2]
    | error fault => rw [(load_of_error h).2]
  rw [hloader, gives_iff]
  obtain ⟨k, r', hkey, hok, hknown, hafter⟩ | ⟨k, r', hkey, hok, hknown, hafter⟩ |
    ⟨fault, herror, hafter⟩ := p.loader.load_cases files w
  · rw [hafter, hok, hkey]
    constructor
    · exact .inl
    · rintro (h | ⟨h, hr⟩)
      · exact h
      · rw [← Except.ok.inj h, hknown, Except.ok.inj hr]
  · rw [hafter, hok, hkey, Loader.remembered?_remember]
    by_cases hsame : k = key
    · subst hsame
      simp [hknown]
    · simp [hsame]
  · rw [hafter, herror]
    simp

/-- Either nothing is held, or the graph is that of the roots and is what is counted. -/
def IsCoherent (p : Provider) : Prop :=
  (p.graph = none ∧ p.roots.roots = [] ∧ p.stats? = none) ∨
    (p.graph = some (.ofHierarchy p.roots true) ∧
      p.stats? = some (Graph.ofHierarchy p.roots true).stats)

lemma isCoherent_of_graph (h : p.graph = some (.ofHierarchy p.roots true)) : p.IsCoherent :=
  .inr ⟨h, by rw [stats?, h, Option.map_some]⟩

lemma IsCoherent.load (hp : p.IsCoherent) (files : Files) (w : Path) :
    (p.load files w).2.IsCoherent := by
  cases h : (p.loader.load files w).1.result with
  | ok r =>
    apply isCoherent_of_graph
    rw [(load_of_ok h).2]
  | error fault =>
    rw [(load_of_failure h).2]
    exact hp

/-! ### Runs -/

/-- What happens to the files and to the provider that reads them. -/
inductive Event where
  | change (files : Files)
  | load (workspace : Path)
  | clear

structure Moment where
  files : Files
  provider : Provider

namespace Moment

def after (m : Moment) : Event → Moment
  | .change files => { m with files := files }
  | .load w => { m with provider := (m.provider.load m.files w).2 }
  | .clear => { m with provider := m.provider.clear }

def run (m : Moment) (events : List Event) : Moment :=
  events.foldl after m

lemma run_concat (m : Moment) (done : List Event) (e : Event) :
    m.run (done ++ [e]) = (m.run done).after e := by
  simp [run]

/-- Since the last clearing there was a load of a workspace that was resolved to this path then, and
it gave these types. -/
def HasLoaded (m : Moment) (done : List Event) (key : String) (r : Rooted) : Prop :=
  ∃ earlier w later, done = earlier ++ .load w :: later ∧ Event.clear ∉ later ∧
    (m.run earlier).files.resolve w = .ok key ∧
      (m.run earlier).provider.Gives (m.run earlier).files w r

lemma not_hasLoaded_nil (m : Moment) : ¬ m.HasLoaded [] key r := by
  rintro ⟨earlier, w, later, h, -⟩
  simp at h

/-- A load that counts is the last event, or it counted before the last event. -/
lemma hasLoaded_concat (m : Moment) (done : List Event) (e : Event) :
    m.HasLoaded (done ++ [e]) key r ↔ (e ≠ .clear ∧ m.HasLoaded done key r) ∨
      ∃ w, e = .load w ∧ (m.run done).files.resolve w = .ok key ∧
        (m.run done).provider.Gives (m.run done).files w r := by
  constructor
  · rintro ⟨earlier, w, later, hdone, hclear, hload⟩
    obtain rfl | ⟨later, last, rfl⟩ := later.eq_nil_or_concat
    · obtain ⟨rfl, h⟩ := List.append_inj' hdone rfl
      exact .inr ⟨w, List.singleton_inj.mp h, hload⟩
    · rw [List.concat_eq_append, ← List.cons_append, ← List.append_assoc] at hdone
      obtain ⟨rfl, h⟩ := List.append_inj' hdone rfl
      obtain rfl := List.singleton_inj.mp h
      simp only [List.concat_eq_append, List.mem_append, List.mem_singleton, not_or] at hclear
      exact .inl ⟨Ne.symm hclear.2, earlier, w, later, rfl, hclear.1, hload⟩
  · rintro (⟨hlast, earlier, w, later, rfl, hclear, hload⟩ | ⟨w, rfl, hload⟩)
    · refine ⟨earlier, w, later ++ [e], by simp, ?_, hload⟩
      simp only [List.mem_append, List.mem_singleton, not_or]
      exact ⟨hclear, Ne.symm hlast⟩
    · exact ⟨done, w, [], rfl, List.not_mem_nil, hload⟩

/-- The provider remembers the types of exactly the workspaces that were loaded. -/
structure Remembers (m : Moment) (suffix : String) (loaded : String → Rooted → Prop) : Prop where
  suffix : m.provider.loader.suffix = suffix
  cache : ∀ key r, m.provider.loader.remembered? key = some r ↔ loaded key r
  coherent : m.provider.IsCoherent

lemma Remembers.after {m : Moment} {suffix : String} {done : List Event}
    (h : (m.run done).Remembers suffix (m.HasLoaded done)) (e : Event) :
    (m.run (done ++ [e])).Remembers suffix (m.HasLoaded (done ++ [e])) := by
  rw [run_concat]
  cases e with
  | change files =>
    refine ⟨h.suffix, fun key r => ?_, h.coherent⟩
    rw [hasLoaded_concat]
    simpa [Moment.after] using h.cache key r
  | clear =>
    refine ⟨h.suffix, fun key r => ?_, .inl ⟨rfl, rfl, rfl⟩⟩
    rw [hasLoaded_concat]
    simp [Moment.after, Provider.clear, Loader.remembered?_clear]
  | load w =>
    refine ⟨?_, fun key r => ?_, h.coherent.load _ w⟩
    · rw [← h.suffix]
      cases hread : ((m.run done).provider.loader.load (m.run done).files w).1.result with
      | ok r =>
        simp only [Moment.after, (load_of_ok hread).2]
        exact Loader.suffix_load _ _ w
      | error fault => simp only [Moment.after, (load_of_failure hread).2]
    · rw [hasLoaded_concat]
      simpa [Moment.after, h.cache] using
        remembered?_load (m.run done).provider (m.run done).files w key r

lemma remembers_run (suffix : String) (files : Files) (done : List Event) :
    ((⟨files, .new suffix⟩ : Moment).run done).Remembers suffix
      ((⟨files, .new suffix⟩ : Moment).HasLoaded done) := by
  induction done using List.reverseRecOn with
  | nil =>
    refine ⟨rfl, fun key r => ?_, .inl ⟨rfl, rfl, rfl⟩⟩
    exact iff_of_false (by simp [run, new, Loader.remembered?]) (not_hasLoaded_nil _)
  | append_singleton done e ih => exact ih.after e

end Moment

open Moment

/-- A load gives what the last successful load of the workspace gave, whatever happened to the files
since; it reads the files only if there was none since the last clearing. If that fails, nothing at
all has changed and the next load of the workspace reads the files again. So it is if the path of
the workspace cannot be resolved. At any time the provider holds nothing, or a graph that is the one
of the roots it holds. -/
theorem loads_of_any_run (suffix : String) (files : Files) (done : List Event) :
    let start : Moment := ⟨files, .new suffix⟩
    let now := start.run done
    now.provider.IsCoherent ∧ ∀ w,
      (∀ fault, now.files.resolve w = .error fault →
        (now.provider.load now.files w).1.result = .error fault ∧
          (now.provider.load now.files w).2 = now.provider) ∧
      ∀ key, now.files.resolve w = .ok key →
        (∀ r, start.HasLoaded done key r → now.provider.Gives now.files w r) ∧
        ((∀ r, ¬ start.HasLoaded done key r) →
          now.provider.Reads suffix now.files w ∧
          ∀ fault, (Workspace.readTypes now.files suffix w).result = .error fault →
            ∀ (files' : Files) (w' : Path), files'.resolve w' = .ok key →
              (now.provider.load now.files w).2.Reads suffix files' w') := by
  intro start now
  have h : now.Remembers suffix (start.HasLoaded done) := remembers_run suffix files done
  refine ⟨h.coherent, fun w => ⟨fun fault hfault => ?_, fun key hkey =>
    ⟨fun r hloaded => ?_, fun hnone => ?_⟩⟩⟩
  · exact load_of_failure (by rw [Loader.load_of_unresolved hfault])
  · have hknown := (h.cache key r).mpr hloaded
    exact gives_of_ok (by rw [Loader.load_of_remembered hkey hknown])
  · have hforgotten : now.provider.loader.remembered? key = none :=
      Option.eq_none_iff_forall_ne_some.mpr fun r hr => hnone r ((h.cache key r).mp hr)
    have hreads := reads_of_not_remembered hkey hforgotten
    rw [h.suffix] at hreads
    refine ⟨hreads, fun fault herror files' w' hkey' => ?_⟩
    rw [(hreads.2 fault herror).2, ← h.suffix]
    exact reads_of_not_remembered hkey' hforgotten

/-- A workspace without files, and the same with declarations that cannot be read. -/
def emptyFiles : FileTree :=
  .bare ["w"]

def sealedFiles : FileTree :=
  (emptyFiles.put ["w", ".tactica"] (.directory .full)).put ["w", ".tactica", "types.ts"]
    (.file [] ⟨false, true, false⟩)

def here : Path :=
  ⟨.relative, []⟩

/-- Loaded before its declarations were withheld, a workspace is known. After a clearing it is not,
nor is it known once its path leads elsewhere; then loading it fails. -/
theorem loads_of_any_run_sealed :
    let start : Moment := ⟨emptyFiles.files, .new "Type"⟩
    let relinked : Files := { sealedFiles.files with resolve := fun _ => .ok "/v" }
    let known := start.run [.load here, .change sealedFiles.files]
    let cleared := start.run [.load here, .change sealedFiles.files, .clear]
    let moved := start.run [.load here, .change relinked]
    known.provider.Gives sealedFiles.files here noTypes ∧
      (cleared.provider.load sealedFiles.files here).2 = cleared.provider ∧
      (moved.provider.load relinked here).2 = moved.provider := by
  intro start relinked known cleared moved
  have hkey : sealedFiles.files.resolve here = .ok "/w" :=
    congrArg Except.ok (by decide +kernel)
  have hloaded : start.HasLoaded [.load here, .change sealedFiles.files] "/w" noTypes := by
    refine ⟨[], here, [.change sealedFiles.files], rfl, by simp, hkey, ?_⟩
    exact gives_of_ok (by rfl)
  have hcleared : ∀ r,
      ¬ start.HasLoaded [.load here, .change sealedFiles.files, .clear] "/w" r := by
    intro r h
    obtain ⟨hlast, -⟩ | ⟨w, h, -⟩ :=
      (hasLoaded_concat start [.load here, .change sealedFiles.files] .clear).mp h
    · exact hlast rfl
    · cases h
  have hmoved : ∀ r, ¬ start.HasLoaded [.load here, .change relinked] "/v" r := by
    intro r h
    obtain ⟨-, h⟩ | ⟨w, h, -⟩ := (hasLoaded_concat start [.load here] (.change relinked)).mp h
    · obtain ⟨-, h⟩ | ⟨w, h, hpath, -⟩ := (hasLoaded_concat start [] (.load here)).mp h
      · exact not_hasLoaded_nil start h
      · obtain rfl := Event.load.inj h
        exact absurd (Except.ok.inj (hkey.symm.trans hpath)) (by decide)
    · cases h
  have hfault : ∀ files : Files, files.look = sealedFiles.files.look →
      files.readText = sealedFiles.files.readText →
      (Workspace.readTypes files "Type" here).result = .error (.denied ".tactica/types.ts") := by
    intro files hlook hread
    rw [Workspace.readTypes, hlook, hread]
    rfl
  refine ⟨?_, ?_, ?_⟩
  · obtain ⟨-, hrun⟩ := loads_of_any_run "Type" emptyFiles.files
      [.load here, .change sealedFiles.files]
    exact ((hrun here).2 "/w" hkey).1 noTypes hloaded
  · obtain ⟨-, hrun⟩ := loads_of_any_run "Type" emptyFiles.files
      [.load here, .change sealedFiles.files, .clear]
    exact ((((hrun here).2 "/w" hkey).2 hcleared).1.2 _ (hfault _ rfl rfl)).2
  · obtain ⟨-, hrun⟩ := loads_of_any_run "Type" emptyFiles.files [.load here, .change relinked]
    exact ((((hrun here).2 "/v" rfl).2 hmoved).1.2 _ (hfault relinked rfl rfl)).2

end Provider

end TypeLineage
