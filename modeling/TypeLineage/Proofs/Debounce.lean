import Mathlib.Data.List.Nodup
import Mathlib.Data.List.ReduceOption
import Mathlib.Tactic.Common
import TypeLineage.Proofs.Difference
import TypeLineage.Watch

/-!
# Collecting changes

The handler of file changes against a logbook of all relevant changes since the last delivery. Over
every run of changes, clock readings and flushes, a flush delivers exactly when the log is not empty
and has been quiet for the wait, and what it delivers are the paths of the log. So each relevant
change is in exactly one delivery, the first one after it.
-/

namespace TypeLineage.Watch

/-! ### What matters -/

/-- The directories of tools and of what they produce, but for the one of the declarations. -/
def outputDirectories : List String :=
  ["node_modules", ".git", "dist", "build", "out", "coverage", ".next", ".turbo", ".cache"]

/-- A path that is named as a source file is, below the root if there is one, and with no output
directory on the way. -/
structure Matters (root : Option Path) (p : Path) : Prop where
  named : ∃ stem, stem ≠ [] ∧ p.name.toList = stem ++ ".ts".toList
  within : match root with
    | none => ∀ part ∈ p.names, part ∉ outputDirectories
    | some base => ∃ parts, p = base.below parts ∧ ∀ part ∈ parts, part ∉ outputDirectories

section Relevance

variable {root : Option Path} {p base : Path}

lemma suffixOf_eq_ts_iff {name : List Char} : Path.suffixOf name = ".ts".toList ↔
    ∃ stem, stem ≠ [] ∧ name = stem ++ ".ts".toList := by
  have hts : ".ts".toList = ['.', 't', 's'] := rfl
  rw [hts]
  constructor
  · intro h
    have hcut := List.takeWhile_append_dropWhile (p := (· ≠ '.')) (l := name.reverse)
    have hhead := List.head?_dropWhile_not (· ≠ '.') name.reverse
    unfold Path.suffixOf at h
    dsimp only at h
    split at h
    · rename_i dot c before hrest
      split at h
      · cases h
      · obtain ⟨-, hending⟩ := List.cons.inj h
        rw [hrest] at hcut hhead
        have hdot : dot = '.' := by simpa using hhead
        refine ⟨(c :: before).reverse, by simp, ?_⟩
        rw [← List.reverse_reverse name, ← hcut, hdot, List.reverse_append, hending]
        simp
    · cases h
  · rintro ⟨stem, hstem, rfl⟩
    obtain ⟨before, c, rfl⟩ := List.eq_nil_or_concat stem |>.resolve_left hstem
    simp [Path.suffixOf]

lemma relativeTo?_eq_some_iff {parts : List String} :
    p.relativeTo? base = some parts ↔ p = base.below parts := by
  obtain ⟨anchor, all⟩ := p
  rw [Path.relativeTo?, Path.below, Path.mk.injEq]
  split_ifs with hanchor
  · rw [List.isPrefixOf?_eq_some_iff_append_eq]
    exact ⟨fun h => ⟨hanchor, h.symm⟩, fun h => h.2.symm⟩
  · exact iff_of_false (by simp) fun h => hanchor h.1

lemma any_ignored_eq_false_iff {parts : List String} :
    parts.any ignoredDirectories.contains = false ↔ ∀ part ∈ parts, part ∉ outputDirectories := by
  have hignored : ignoredDirectories = outputDirectories := by decide
  simp [hignored]

theorem isRelevant_iff : Handler.isRelevant root p = true ↔ Matters root p := by
  have hnamed : Workspace.sourceExtensions.contains p.suffix = true ↔
      ∃ stem, stem ≠ [] ∧ p.name.toList = stem ++ ".ts".toList := by
    rw [← suffixOf_eq_ts_iff, Path.suffix, Workspace.sourceExtensions, List.contains_iff_mem,
      List.mem_singleton, ← String.toList_inj, String.toList_ofList]
  unfold Handler.isRelevant
  cases hsuffix : Workspace.sourceExtensions.contains p.suffix with
  | false =>
    exact iff_of_false (by simp) fun h =>
      Bool.false_ne_true (hsuffix.symm.trans (hnamed.mpr h.named))
  | true =>
    rw [Bool.not_true, if_neg Bool.false_ne_true]
    cases root with
    | none =>
      simp only [Bool.not_eq_true', any_ignored_eq_false_iff]
      exact ⟨fun h => ⟨hnamed.mp hsuffix, h⟩, Matters.within⟩
    | some base =>
      cases hparts : p.relativeTo? base with
      | none =>
        simp only [hparts]
        refine iff_of_false Bool.false_ne_true fun h => ?_
        obtain ⟨parts, hp, -⟩ := h.within
        cases hparts.symm.trans (relativeTo?_eq_some_iff.mpr hp)
      | some parts =>
        simp only [hparts, Bool.not_eq_true', any_ignored_eq_false_iff]
        constructor
        · exact fun h => ⟨hnamed.mp hsuffix, parts, relativeTo?_eq_some_iff.mp hparts, h⟩
        · intro h
          obtain ⟨parts', hp, houtside⟩ := h.within
          cases hparts.symm.trans (relativeTo?_eq_some_iff.mpr hp)
          exact houtside

instance (root : Option Path) (p : Path) : Decidable (Matters root p) :=
  decidable_of_iff _ isRelevant_iff

end Relevance

/-- The paths to be noted of a change: where something was and where it has gone to, as far as these
are given and matter. -/
def Change.notes (root : Option Path) (c : Change) : List Path :=
  if c.isDirectory then []
  else (((c.source.toList ++ c.destination.toList).filter (· ≠ "")).map Path.ofString).filter
    fun p => Matters root p

/-- A reading of the clock is at least the wait after another one, as far as both times are
numbers. -/
def IsPast (wait last now : Binary64) : Prop :=
  ∀ elapsed least, (now.sub last).extent? = some elapsed → wait.extent? = some least →
    least ≤ elapsed

lemma isLess_eq_false_iff {wait last now : Binary64} :
    (now.sub last).isLess wait = false ↔ IsPast wait last now := by
  rw [← Bool.not_eq_true, Binary64.isLess_iff, IsPast]
  push Not
  rfl

instance (wait last now : Binary64) : Decidable (IsPast wait last now) :=
  decidable_of_iff _ isLess_eq_false_iff

/-! ### Runs -/

/-- What can happen to a handler: a change, a new reading of its clock, and a flush. -/
inductive Step where
  | dispatch (c : Change)
  | tick (now : Binary64)
  | flush

/-- A run of steps: what each of them gives out, and the last state. -/
def runSteps {σ β : Type} (step : σ → Step → β × σ) : σ → List Step → List β × σ
  | s, [] => ([], s)
  | s, x :: rest =>
    let later := runSteps step (step s x).2 rest
    ((step s x).1 :: later.1, later.2)

/-- A handler and what its clock shows. -/
structure Clocked where
  handler : Handler
  now : Binary64

/-- One step of a handler. Only a flush gives paths out. -/
def Clocked.step (s : Clocked) : Step → Option (List Path) × Clocked
  | .dispatch c => (none, { s with handler := s.handler.dispatch s.now c })
  | .tick now => (none, { s with now := now })
  | .flush => ((s.handler.flush s.now).1, { s with handler := (s.handler.flush s.now).2 })

/-! ### The logbook -/

/-- The paths noted since the last delivery, each with its time, and the time. -/
structure Logbook where
  log : List (Path × Binary64)
  now : Binary64

/-- There is a last entry, and it is at least the wait ago. -/
def Logbook.IsDue (wait : Binary64) (l : Logbook) : Prop :=
  ∃ e ∈ l.log.getLast?, IsPast wait e.2 l.now

instance (wait : Binary64) (l : Logbook) : Decidable (l.IsDue wait) :=
  inferInstanceAs (Decidable (∃ e ∈ l.log.getLast?, IsPast wait e.2 l.now))

def Logbook.step (root : Option Path) (wait : Binary64) (l : Logbook) :
    Step → Option (List (Path × Binary64)) × Logbook
  | .dispatch c => (none, { l with log := l.log ++ (c.notes root).map (·, l.now) })
  | .tick now => (none, { l with now := now })
  | .flush => if l.IsDue wait then (some l.log, { l with log := [] }) else (none, l)

/-- All paths noted in a run that begins at a time, each with its time. -/
def noted (root : Option Path) : (now : Binary64) → List Step → List (Path × Binary64)
  | _, [] => []
  | now, .dispatch c :: rest => (c.notes root).map (·, now) ++ noted root now rest
  | _, .tick now :: rest => noted root now rest
  | now, .flush :: rest => noted root now rest

/-- The handler gives out each path of the logbook once, and nothing where that gives nothing. -/
def Delivers : Option (List Path) → Option (List (Path × Binary64)) → Prop
  | none, none => True
  | some paths, some log => paths.Nodup ∧ ∀ q, q ∈ paths ↔ q ∈ log.map Prod.fst
  | _, _ => False

/-- The pending paths are those of the log, and the last change is its last entry. -/
structure Simulates (root : Option Path) (wait : Binary64) (s : Clocked) (l : Logbook) : Prop where
  root : s.handler.root = root
  wait : s.handler.wait = wait
  now : s.now = l.now
  nodup : s.handler.pending.Nodup
  mem : ∀ q, q ∈ s.handler.pending ↔ q ∈ l.log.map Prod.fst
  last : ∀ e, l.log.getLast? = some e → s.handler.lastChange = e.2

section Simulation

variable {root : Option Path} {wait : Binary64} {s : Clocked} {l : Logbook} {h : Handler}
  {p : Path} {c : Change} {now : Binary64}

lemma notes_eq (root : Option Path) (c : Change) :
    c.notes root = c.paths.filter fun p => Matters root p := by
  have hgiven : [c.source, c.destination].filterMap (fun s => s.filter (· ≠ "")) =
      (c.source.toList ++ c.destination.toList).filter (· ≠ "") := by
    cases c.source <;> cases c.destination <;> simp [List.filter_cons] <;> grind
  rw [Change.notes, Change.paths, hgiven]
  split <;> rfl

lemma note_of_not_matters (hp : ¬ Matters h.root p) : h.note now p = h := by
  simp [Handler.note, isRelevant_iff, hp]

lemma dispatch_of_notes_eq_nil (hc : c.notes h.root = []) : h.dispatch now c = h := by
  rw [notes_eq] at hc
  rw [Handler.dispatch]
  generalize c.paths = paths at hc ⊢
  induction paths with
  | nil => rfl
  | cons p paths ih =>
    rw [List.filter_eq_nil_iff, List.forall_mem_cons] at hc
    rw [List.foldl_cons, note_of_not_matters (by simpa using hc.1)]
    exact ih (List.filter_eq_nil_iff.mpr hc.2)

lemma simulates_note (hsim : Simulates root wait s l) (hp : Matters root p) :
    Simulates root wait { s with handler := s.handler.note s.now p }
      { l with log := l.log ++ [(p, l.now)] } := by
  rw [← hsim.root] at hp
  have hnote : s.handler.note s.now p = { s.handler with
      pending := if p ∈ s.handler.pending then s.handler.pending else s.handler.pending ++ [p]
      lastChange := s.now } := by
    rw [Handler.note, if_pos (isRelevant_iff.mpr hp)]
  rw [hnote]
  refine ⟨hsim.root, hsim.wait, hsim.now, ?_, fun q => ?_, fun e he => ?_⟩
  · dsimp only
    split
    · exact hsim.nodup
    · rename_i hnew
      exact List.Nodup.append hsim.nodup (List.nodup_singleton p) (by simpa using hnew)
  · rw [List.map_append, List.mem_append, ← hsim.mem q]
    dsimp only
    split
    · rename_i hold
      constructor
      · exact .inl
      · rintro (hq | hq)
        · exact hq
        · rwa [List.mem_singleton.mp hq]
    · rw [List.mem_append]
      rfl
  · rw [List.getLast?_concat, Option.some.injEq] at he
    rw [← he]
    exact hsim.now

lemma simulates_foldl_note (hsim : Simulates root wait s l) (paths : List Path) :
    Simulates root wait { s with handler := paths.foldl (fun h p => h.note s.now p) s.handler }
      { l with log := l.log ++ (paths.filter fun p => Matters root p).map (·, l.now) } := by
  induction paths generalizing s l with
  | nil => simpa using hsim
  | cons p paths ih =>
    rw [List.foldl_cons]
    by_cases hp : Matters root p
    · have hrest := ih (simulates_note hsim hp)
      rw [List.filter_cons_of_pos (by simpa using hp), List.map_cons]
      simpa using hrest
    · have hnote : s.handler.note s.now p = s.handler :=
        note_of_not_matters (by rwa [hsim.root])
      rw [List.filter_cons_of_neg (by simpa using hp), hnote]
      exact ih hsim

lemma pending_isEmpty (hsim : Simulates root wait s l) :
    s.handler.pending.isEmpty = l.log.isEmpty := by
  rw [Bool.eq_iff_iff, List.isEmpty_iff, List.isEmpty_iff, List.eq_nil_iff_forall_not_mem]
  simp only [hsim.mem]
  rw [← List.eq_nil_iff_forall_not_mem, List.map_eq_nil_iff]

lemma flush_eq (hsim : Simulates root wait s l) : s.handler.flush s.now =
    if l.IsDue wait then (some s.handler.pending, { s.handler with pending := [] })
    else (none, s.handler) := by
  have hdue : (s.handler.pending.isEmpty ||
      (s.now.sub s.handler.lastChange).isLess s.handler.wait) = false ↔ l.IsDue wait := by
    rw [Bool.or_eq_false_iff, pending_isEmpty hsim, isLess_eq_false_iff, hsim.wait, hsim.now,
      List.isEmpty_eq_false_iff, ← List.getLast?_isSome, Logbook.IsDue]
    cases hlast : l.log.getLast? with
    | none => simp
    | some e => simp [hsim.last e hlast]
  rw [Handler.flush]
  by_cases h : l.IsDue wait
  · rw [if_pos h, if_neg (by simpa using hdue.mpr h)]
  · rw [if_neg h, if_pos (Bool.not_eq_false _ ▸ mt hdue.mp h)]

/-- A step of the handler is a step of the logbook. -/
theorem simulates_step (hsim : Simulates root wait s l) (x : Step) :
    Delivers (s.step x).1 (l.step root wait x).1 ∧
      Simulates root wait (s.step x).2 (l.step root wait x).2 := by
  cases x with
  | dispatch c =>
    refine ⟨trivial, ?_⟩
    rw [Logbook.step, notes_eq]
    exact simulates_foldl_note hsim c.paths
  | tick now => exact ⟨trivial, hsim.root, hsim.wait, rfl, hsim.nodup, hsim.mem, hsim.last⟩
  | flush =>
    rw [Clocked.step, flush_eq hsim, Logbook.step]
    split
    · refine ⟨⟨hsim.nodup, hsim.mem⟩, hsim.root, hsim.wait, hsim.now, List.nodup_nil, ?_, ?_⟩
      · simp
      · simp
    · exact ⟨trivial, hsim⟩

theorem simulates_run (hsim : Simulates root wait s l) (steps : List Step) :
    List.Forall₂ Delivers (runSteps Clocked.step s steps).1
        (runSteps (Logbook.step root wait) l steps).1 ∧
      Simulates root wait (runSteps Clocked.step s steps).2
        (runSteps (Logbook.step root wait) l steps).2 := by
  induction steps generalizing s l with
  | nil => exact ⟨.nil, hsim⟩
  | cons x steps ih =>
    obtain ⟨hout, hstep⟩ := simulates_step hsim x
    obtain ⟨houts, hlast⟩ := ih hstep
    exact ⟨.cons hout houts, hlast⟩

lemma simulates_new (root : Option Path) (wait start : Binary64) :
    Simulates root wait ⟨.new root wait, start⟩ ⟨[], start⟩ :=
  ⟨rfl, rfl, rfl, List.nodup_nil, by simp [Handler.new], by simp⟩

lemma delivered_append_log (root : Option Path) (wait : Binary64) (l : Logbook)
    (steps : List Step) :
    ((runSteps (Logbook.step root wait) l steps).1.reduceOption.flatten ++
      (runSteps (Logbook.step root wait) l steps).2.log) = l.log ++ noted root l.now steps := by
  induction steps generalizing l with
  | nil => simp [runSteps, noted]
  | cons x steps ih =>
    rw [runSteps]
    cases x with
    | dispatch c =>
      have hrest := ih (l.step root wait (.dispatch c)).2
      simpa [Logbook.step, noted] using hrest
    | tick now =>
      have hrest := ih (l.step root wait (.tick now)).2
      simpa [Logbook.step, noted] using hrest
    | flush =>
      have hrest := ih (l.step root wait .flush).2
      rw [Logbook.step] at hrest ⊢
      rw [noted]
      by_cases hdue : l.IsDue wait
      · simpa [hdue] using hrest
      · simpa [hdue] using hrest

end Simulation

/-! ### Deliveries -/

/-- The step with a number gives paths out. -/
def Fires (outputs : List (Option (List Path))) (k : Nat) : Prop :=
  ∃ paths, outputs[k]? = some (some paths)

/-- A path is among those that the step with a number gives out. -/
def DeliveredAt (outputs : List (Option (List Path))) (k : Nat) (q : Path) : Prop :=
  ∃ paths, outputs[k]? = some (some paths) ∧ q ∈ paths

/-- The step with a number is a change of which a path is noted. -/
def NotedAt (root : Option Path) (steps : List Step) (i : Nat) (q : Path) : Prop :=
  ∃ c, steps[i]? = some (.dispatch c) ∧ q ∈ c.notes root

/-- Nothing is given out between two steps. -/
def QuietBetween (outputs : List (Option (List Path))) (i j : Nat) : Prop :=
  ∀ k, i < k → k < j → ¬ Fires outputs k

section Deliveries

variable {root : Option Path} {wait : Binary64} {s : Clocked} {l : Logbook} {x : Step} {q : Path}
  {paths : List Path} {output : Option (List Path)} {outputs : List (Option (List Path))}
  {i j : Nat}

lemma quietBetween_succ : QuietBetween (output :: outputs) (i + 1) (j + 1) ↔
    QuietBetween outputs i j := by
  constructor
  · intro h k hik hkj
    exact h (k + 1) (by omega) (by omega)
  · intro h k hik hkj
    obtain ⟨k, rfl⟩ := Nat.exists_eq_succ_of_ne_zero (by omega : k ≠ 0)
    exact h k (by omega) (by omega)

lemma eq_pending_of_step (h : (s.step x).1 = some paths) : paths = s.handler.pending := by
  cases x with
  | dispatch c => cases h
  | tick now => cases h
  | flush =>
    rw [Clocked.step, Handler.flush] at h
    split at h
    · cases h
    · exact (Option.some.inj h).symm

lemma mem_pending_step (hsim : Simulates root wait s l) (x : Step) (q : Path) :
    q ∈ (s.step x).2.handler.pending ↔
      (q ∈ s.handler.pending ∧ (s.step x).1 = none) ∨ NotedAt root [x] 0 q := by
  cases x with
  | dispatch c =>
    have hmem := (simulates_step hsim (.dispatch c)).2.mem q
    simp only [Logbook.step, List.map_append, List.mem_append, ← hsim.mem q] at hmem
    simpa [NotedAt, Clocked.step] using hmem
  | tick now => simp [NotedAt, Clocked.step]
  | flush =>
    rw [Clocked.step, flush_eq hsim]
    split <;> simp [NotedAt]

lemma quietBefore_succ : (∀ k < j + 1, ¬ Fires (output :: outputs) k) ↔
    output = none ∧ ∀ k < j, ¬ Fires outputs k := by
  have hfirst : ¬ Fires (output :: outputs) 0 ↔ output = none := by
    cases output <;> simp [Fires]
  rw [Nat.forall_lt_succ_left, hfirst]
  rfl

lemma quietBetween_zero : QuietBetween (output :: outputs) 0 (j + 1) ↔
    ∀ k < j, ¬ Fires outputs k := by
  constructor
  · intro h k hkj
    exact h (k + 1) (by omega) (by omega)
  · intro h k hk hkj
    obtain ⟨k, rfl⟩ := Nat.exists_eq_succ_of_ne_zero (by omega : k ≠ 0)
    exact h k (by omega)

lemma exists_notedAt_succ {steps : List Step} :
    (∃ i < j + 1, NotedAt root (x :: steps) i q ∧ QuietBetween (output :: outputs) i (j + 1)) ↔
      (NotedAt root [x] 0 q ∧ ∀ k < j, ¬ Fires outputs k) ∨
        ∃ i < j, NotedAt root steps i q ∧ QuietBetween outputs i j := by
  have hnoted (i : Nat) : NotedAt root (x :: steps) (i + 1) q ↔ NotedAt root steps i q := by
    rw [NotedAt, List.getElem?_cons_succ, NotedAt]
  have hfirst : NotedAt root (x :: steps) 0 q ↔ NotedAt root [x] 0 q := by
    rw [NotedAt, List.getElem?_cons_zero, NotedAt, List.getElem?_cons_zero]
  simp only [Nat.exists_lt_succ_left, quietBetween_zero, quietBetween_succ, hnoted, hfirst]

/-- What a step gives out was pending before the run, or it was noted since, and nothing was given
out in between. -/
lemma deliveredAt_iff (hsim : Simulates root wait s l) (steps : List Step) (j : Nat) (q : Path) :
    DeliveredAt (runSteps Clocked.step s steps).1 j q ↔
      Fires (runSteps Clocked.step s steps).1 j ∧
        ((q ∈ s.handler.pending ∧ ∀ k < j, ¬ Fires (runSteps Clocked.step s steps).1 k) ∨
          ∃ i < j, NotedAt root steps i q ∧
            QuietBetween (runSteps Clocked.step s steps).1 i j) := by
  -- What is pending at the start stands for all that was noted before the run.
  induction steps generalizing s l j with
  | nil => simp [runSteps, DeliveredAt, Fires]
  | cons x steps ih =>
    rw [runSteps]
    cases j with
    | zero =>
      cases hout : (s.step x).1 with
      | none => simp [DeliveredAt, Fires]
      | some paths =>
        obtain rfl := eq_pending_of_step hout
        simp [DeliveredAt, Fires]
    | succ j =>
      have hrest := ih (simulates_step hsim x).2 j
      rw [mem_pending_step hsim x q] at hrest
      rw [quietBefore_succ, exists_notedAt_succ]
      rw [or_and_right, and_assoc, or_assoc] at hrest
      exact hrest

end Deliveries

/-- A handler delivers what the logbook of its run says. A flush delivers exactly when the logbook
is not empty and its last entry is at least the wait ago, namely each path in it once. Deliveries
and log together are all that was noted, so nothing is lost or delivered twice: a path is delivered
by the first delivery after it was noted, and by no other. All else changes nothing. -/
theorem delivered_of_any_run (root : Option Path) (wait start : Binary64) (steps : List Step) :
    let (outputs, last) := runSteps Clocked.step ⟨.new root wait, start⟩ steps
    let (batches, book) := runSteps (Logbook.step root wait) ⟨[], start⟩ steps
    List.Forall₂ Delivers outputs batches ∧ Simulates root wait last book ∧
      batches.reduceOption.flatten ++ book.log = noted root start steps ∧
      (∀ j q, DeliveredAt outputs j q ↔
        Fires outputs j ∧ ∃ i < j, NotedAt root steps i q ∧ QuietBetween outputs i j) ∧
      ((last.step .flush).1 = none → (last.step .flush).2 = last) ∧
      ∀ c : Change, c.notes root = [] → last.step (.dispatch c) = (none, last) := by
  have hsim := simulates_new root wait start
  obtain ⟨houts, hlast⟩ := simulates_run hsim steps
  refine ⟨houts, hlast, delivered_append_log root wait ⟨[], start⟩ steps, fun j q => ?_, ?_, ?_⟩
  · simpa [Handler.new] using deliveredAt_iff hsim steps j q
  · intro hnone
    rw [Clocked.step, flush_eq hlast] at hnone ⊢
    split at hnone
    · cases hnone
    · rename_i hdue
      rw [if_neg hdue]
  · intro c hc
    rw [← hlast.root] at hc
    rw [Clocked.step, dispatch_of_notes_eq_nil hc]

/-- A workspace below a directory that is named as one of output. -/
def watchedRoot : Path :=
  ⟨.root, ["build", "w"]⟩

/-- A file changes, moves and comes to be among what is passed over; a directory changes too. -/
def movingSteps : List Step :=
  [.dispatch ⟨some "/build/w/a.ts", none, false⟩,
    .dispatch ⟨some "/build/w/a.ts", some "/build/w/src/b.ts", false⟩,
    .dispatch ⟨some "/build/w/src", none, true⟩,
    .tick (.ofDecimal false 5 (-1)),
    .dispatch ⟨some "/build/w/dist/c.ts", some "/w/d.ts", false⟩,
    .tick (.ofInt 1), .flush, .tick (.ofDecimal false 12 (-1)), .flush, .flush]

/-- With a wait of one second after `0.2`, nothing is due at `1`, and both paths are due at `1.2`,
where the difference is rounded to one second. -/
theorem delivered_of_any_run_moving :
    let outputs :=
      (runSteps Clocked.step ⟨.new watchedRoot (.ofInt 1), .ofDecimal false 2 (-1)⟩ movingSteps).1
    outputs = List.replicate 8 none ++
        [some [⟨.root, ["build", "w", "a.ts"]⟩, ⟨.root, ["build", "w", "src", "b.ts"]⟩], none] ∧
      ∃ i < 8, NotedAt watchedRoot movingSteps i ⟨.root, ["build", "w", "src", "b.ts"]⟩ ∧
        QuietBetween outputs i 8 := by
  intro outputs
  have houtputs : outputs = List.replicate 8 none ++
      [some [⟨.root, ["build", "w", "a.ts"]⟩, ⟨.root, ["build", "w", "src", "b.ts"]⟩], none] := by
    decide +kernel
  obtain ⟨-, -, -, hdelivered, -⟩ := delivered_of_any_run watchedRoot (.ofInt 1)
    (.ofDecimal false 2 (-1)) movingSteps
  have hsecond : DeliveredAt outputs 8 ⟨.root, ["build", "w", "src", "b.ts"]⟩ := by
    rw [houtputs]
    exact ⟨_, rfl, by simp⟩
  exact ⟨houtputs, ((hdelivered _ _).mp hsecond).2⟩

end TypeLineage.Watch
