import Mathlib.Tactic.Common
import TypeLineage.Proofs.Store

/-!
# Refused values

A value that its setting does not take keeps all the values that are saved together with it from
being saved. Whatever is done to settings files before and after, in whichever places, comes out as
if the saving had not been asked for.
-/

namespace TypeLineage.Setting

/-! ### What is told about refused values -/

/-- Why the first refused value is refused. -/
def refusal? : List (String × Value) → Option Fault
  | [] => none
  | (k, v) :: rest =>
    match validate k v with
    | .error fault => some fault
    | .ok _ => refusal? rest

section Refusals

variable {format : ConfigFormat} {values : List (String × Value)} {fault : Fault}

lemma exists_refusal? (h : ∃ e ∈ values, ∃ fault, validate e.1 e.2 = .error fault) :
    ∃ fault, refusal? values = some fault := by
  induction values with
  | nil => simp at h
  | cons e values ih =>
    rw [refusal?]
    cases hvalid : validate e.1 e.2 with
    | error fault => exact ⟨fault, rfl⟩
    | ok w =>
      apply ih
      obtain ⟨e', he', fault, hfault⟩ := h
      rcases List.mem_cons.mp he' with rfl | he'
      · rw [hvalid] at hfault
        cases hfault
      · exact ⟨e', he', fault, hfault⟩

lemma change_of_refusal? (h : refusal? values = some fault) (s : Section) :
    change s values = .error fault := by
  induction values generalizing s with
  | nil => cases h
  | cons e values ih =>
    rw [refusal?] at h
    rw [change]
    cases hvalid : validate e.1 e.2 with
    | error fault' =>
      rw [hvalid] at h
      cases h
      rfl
    | ok w =>
      rw [hvalid] at h
      exact ih h _

/-- A file that cannot be read, or has no settings table, is told of before a refused value. -/
lemma changed_of_refusal? (h : refusal? values = some fault) (t : FileTree) (p : Path) :
    ∃ told, changed format t p values = .error told ∧
      ∀ content s, values.any (·.1 = reservedName) = false → loadFile format t p = .ok content →
        Section.ofValue format.inlineKind (section? content) = .ok s → told = .setting fault := by
  unfold changed
  split
  · rename_i hreserved
    refine ⟨_, rfl, fun content s hname => ?_⟩
    simp [hname] at hreserved
  · split
    · rename_i hfile
      refine ⟨_, rfl, fun content s _ hcontent => ?_⟩
      simp [hfile] at hcontent
    · rename_i content hcontent
      split
      · rename_i hpairs
        refine ⟨_, rfl, fun content' s _ hcontent' hs => ?_⟩
        rw [hcontent] at hcontent'
        cases hcontent'
        simp [hpairs] at hs
      · rename_i s hs
        rw [change_of_refusal? h]
        exact ⟨_, rfl, fun _ _ _ _ _ => rfl⟩

end Refusals

/-! ### Requests -/

/-- What is asked of settings files. -/
inductive Request where
  | change (p : Path) (op : Operation)
  | load (p : Path)

inductive Answer where
  | changed (result : Except StoreFault Unit)
  | loaded (loaded : Loaded)

section Answers

variable (format : ConfigFormat)

/-- The files after a request. -/
def Request.files (t : FileTree) : Request → FileTree
  | .change p op => (op.run format t p).files
  | .load _ => t

def Request.answer (t : FileTree) : Request → Answer
  | .change p op => .changed (op.run format t p).result
  | .load p => .loaded (Setting.load format t p)

def filesAfter (t : FileTree) (requests : List Request) : FileTree :=
  requests.foldl (Request.files format) t

/-- The answers to requests made one after the other. -/
def answers (t : FileTree) : List Request → List Answer
  | [] => []
  | r :: rest => r.answer format t :: answers (r.files format t) rest

end Answers

section Requests

variable {format : ConfigFormat} {values : List (String × Value)} {fault : Fault}

lemma answers_append (t : FileTree) (earlier later : List Request) :
    answers format t (earlier ++ later) =
      answers format t earlier ++ answers format (filesAfter format t earlier) later := by
  induction earlier generalizing t with
  | nil => rfl
  | cons r earlier ih => rw [List.cons_append, answers, ih, answers, List.cons_append]; rfl

lemma save_of_refusal? (h : refusal? values = some fault) (t : FileTree) (p : Path) :
    ∃ told, save format t p values = ⟨t, .error told⟩ ∧
      ∀ content s, values.any (·.1 = reservedName) = false → loadFile format t p = .ok content →
        Section.ofValue format.inlineKind (section? content) = .ok s → told = .setting fault := by
  obtain ⟨told, hchanged, htold⟩ := changed_of_refusal? h t p
  exact ⟨told, by rw [save, hchanged], htold⟩

lemma answers_with_refused (h : refusal? values = some fault) (t : FileTree) (p : Path)
    (earlier later : List Request) :
    filesAfter format t (earlier ++ .change p (.save values) :: later) =
        filesAfter format t (earlier ++ later) ∧
      ∃ told, answers format t (earlier ++ .change p (.save values) :: later) =
        answers format t earlier ++ .changed (.error told) ::
          answers format (filesAfter format t earlier) later := by
  obtain ⟨told, hsave, -⟩ := save_of_refusal? h (filesAfter format t earlier) p
  have hfiles : Request.files format (filesAfter format t earlier) (.change p (.save values)) =
      filesAfter format t earlier := by
    rw [Request.files, Operation.run, hsave]
  have hanswer : Request.answer format (filesAfter format t earlier) (.change p (.save values)) =
      .changed (.error told) := by
    rw [Request.answer, Operation.run, hsave]
  constructor
  · have hearlier : ∀ requests, filesAfter format t (earlier ++ requests) =
        filesAfter format (filesAfter format t earlier) requests := fun _ => List.foldl_append
    rw [hearlier, hearlier, filesAfter, List.foldl_cons, hfiles]
    rfl
  · refine ⟨told, ?_⟩
    rw [answers_append, answers, hfiles, hanswer]

end Requests

/-- Saving with a refused value among others, wherever it stands, fails and leaves all files as they
are, in whatever state they are. What is told is why the first refused value is refused, unless the
settings cannot be read in the first place. Whatever is asked later of settings files, this one or
others, is answered as without the saving, and the files are in the end as without it. -/
theorem refused_saving_changes_nothing (format : ConfigFormat) (t : FileTree) (p : Path)
    (values : List (String × Value))
    (hrefused : ∃ e ∈ values, ∃ fault, validate e.1 e.2 = .error fault) :
    (save format t p values).files = t ∧
      (∃ told, (save format t p values).result = .error told ∧
        ∀ content s, values.any (·.1 = reservedName) = false → loadFile format t p = .ok content →
          Section.ofValue format.inlineKind (section? content) = .ok s →
            ∃ fault, refusal? values = some fault ∧ told = .setting fault) ∧
      ∀ earlier later : List Request,
        filesAfter format t (earlier ++ .change p (.save values) :: later) =
            filesAfter format t (earlier ++ later) ∧
          answers format t (earlier ++ later) =
            answers format t earlier ++ answers format (filesAfter format t earlier) later ∧
          ∃ told, answers format t (earlier ++ .change p (.save values) :: later) =
            answers format t earlier ++ .changed (.error told) ::
              answers format (filesAfter format t earlier) later := by
  obtain ⟨fault, hfault⟩ := exists_refusal? hrefused
  obtain ⟨told, hsave, htold⟩ := save_of_refusal? hfault t p
  rw [hsave]
  refine ⟨rfl, ⟨told, rfl, fun content s hname hcontent hs =>
    ⟨fault, hfault, htold content s hname hcontent hs⟩⟩, fun earlier later => ?_⟩
  obtain ⟨hfiles, hanswers⟩ := answers_with_refused hfault t p earlier later
  exact ⟨hfiles, answers_append t earlier later, hanswers⟩

/-- A layout that could be saved and a waiting time that is negative. -/
def halfRefused : List (String × Value) :=
  [("layout", .text "cluster"), ("watch_debounce", .integer (-1))]

theorem refused_saving_changes_nothing_negative :
    (save Toml.format sharedFile settingsPath halfRefused).files = sharedFile ∧
      (save Toml.format sharedFile settingsPath halfRefused).result =
        .error (.setting (.negative "watch_debounce")) := by
  have hnegative : validate "watch_debounce" (.integer (-1)) =
      .error (.negative "watch_debounce") := by
    rfl
  obtain ⟨hfiles, ⟨told, hresult, htold⟩, -⟩ := refused_saving_changes_nothing Toml.format
    sharedFile settingsPath halfRefused
    ⟨("watch_debounce", .integer (-1)), by simp [halfRefused], _, hnegative⟩
  obtain ⟨fault, hfirst, rfl⟩ := htold _ _ rfl loadFile_sharedFile rfl
  refine ⟨hfiles, ?_⟩
  rw [hresult, ← Option.some.inj hfirst]
  exact rfl

end TypeLineage.Setting
