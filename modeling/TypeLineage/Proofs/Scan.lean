import Mathlib.Data.List.Basic
import Mathlib.Tactic.Common
import TypeLineage.Declaration.Scan
import TypeLineage.Proofs.Counting
import TypeLineage.Proofs.Nesting

/-!
# The scan for declarations

Laws of the scan line by line: lines without a header are passed over, a header takes in the lines of
its extent, and a declaration that is dropped hides nothing below it.
-/

namespace TypeLineage.Declaration

open Text

variable {file : String} {number : Nat} {line : List Char} {rest : List (List Char)}

lemma findingsFrom_skip (file : String) (number skip : Nat) (ls : List (List Char)) :
    findingsFrom file number skip ls = findingsFrom file (number + skip) 0 (ls.drop skip) := by
  induction ls generalizing number skip with
  | nil => simp [findingsFrom]
  | cons l ls ih =>
    cases skip with
    | zero => rfl
    | succ skip =>
      rw [findingsFrom, ih, List.drop_succ_cons]
      congr 1
      omega

lemma findingsFrom_of_headless (hline : Header.occurs line = false) :
    findingsFrom file number 0 (line :: rest) = findingsFrom file (number + 1) 0 rest := by
  have hnone : Header.find? line = none := by simpa [Header.occurs] using hline
  rw [findingsFrom, hnone]

lemma findingsFrom_headless_append {ls : List (List Char)}
    (hls : ∀ l ∈ ls, Header.occurs l = false) (number : Nat) :
    findingsFrom file number 0 (ls ++ rest) = findingsFrom file (number + ls.length) 0 rest := by
  induction ls generalizing number with
  | nil => rfl
  | cons l ls ih =>
    rw [List.cons_append, findingsFrom_of_headless (hls l (by simp)),
      ih fun k hk => hls k (by simp [hk])]
    congr 1
    rw [List.length_cons]
    omega

section Extent

variable {name first : List Char}

lemma findingsFrom_of_closed (hline : Header.find? line = some (name, first)) {text : List Char}
    {used : Nat} (hextent : extent first rest = ⟨some text, used + 1⟩) :
    findingsFrom file number 0 (line :: rest) =
      .declared (ofText name text number file) ::
        findingsFrom file (number + 1 + used) 0 (rest.drop used) := by
  rw [findingsFrom, hline]
  simp only [hextent]
  rw [Nat.add_sub_cancel, findingsFrom_skip]

lemma gather_used {depth : Int} {entered : Bool} {kept : List (List Char)} {used : Nat}
    {ls : List (List Char)} (hused : 0 < used) :
    0 < (gather depth entered kept used ls).used ∧
      (gather depth entered kept used ls).used ≤ used + ls.length := by
  induction ls generalizing depth entered kept used with
  | nil => exact ⟨Nat.one_pos, hused⟩
  | cons l ls ih =>
    rw [gather, List.length_cons]
    split
    · exact ⟨hused, Nat.le_add_right _ _⟩
    · split
      · exact ⟨Nat.succ_pos _, by simp only; omega⟩
      · rename_i depth' entered' _
        obtain ⟨hpos, hle⟩ := @ih depth' entered' (l :: kept) (used + 1) (Nat.succ_pos used)
        exact ⟨hpos, by omega⟩

theorem extent_used (first : List Char) (rest : List (List Char)) :
    0 < (extent first rest).used ∧ (extent first rest).used ≤ rest.length + 1 := by
  rw [extent]
  split
  · exact ⟨Nat.one_pos, Nat.le_add_left _ _⟩
  · obtain ⟨hpos, hle⟩ := gather_used Nat.one_pos
    exact ⟨hpos, by omega⟩

lemma gather_append (more : List (List Char)) {depth : Int} {entered : Bool}
    {kept : List (List Char)} {used : Nat} {ls : List (List Char)}
    (htext : (gather depth entered kept used ls).text.isSome) :
    gather depth entered kept used (ls ++ more) = gather depth entered kept used ls := by
  induction ls generalizing depth entered kept used with
  | nil => cases htext
  | cons l ls ih =>
    rw [gather] at htext
    rw [List.cons_append, gather, gather]
    split at htext
    · cases htext
    · rename_i hheader
      rw [if_neg hheader, if_neg hheader]
      cases hcount : countBraces depth entered l with
      | none => rfl
      | some state =>
        rw [hcount] at htext
        exact ih htext

lemma extent_append (more : List (List Char)) (htext : (extent first rest).text.isSome) :
    extent first (rest ++ more) = extent first rest := by
  unfold extent at htext ⊢
  cases hcount : countBraces 0 false first with
  | none => rfl
  | some state =>
    rw [hcount] at htext
    exact gather_append more htext

lemma exists_closing_of_gather {depth : Int} {entered : Bool} {kept : List (List Char)} {used : Nat}
    {ls : List (List Char)} {text : List Char}
    (htext : (gather depth entered kept used ls).text = some text) :
    ∃ above p q below, ls = above ++ (p ++ '}' :: q) :: below ∧
      text = unlines (kept.reverse ++ (above ++ [p ++ '}' :: q])) ∧
      (gather depth entered kept used ls).used = used + above.length + 1 ∧
      countBraces depth entered (above.flatten ++ p) = some (1, true) := by
  induction ls generalizing depth entered kept used with
  | nil => cases htext
  | cons l ls ih =>
    rw [gather] at htext ⊢
    split at htext
    · cases htext
    · rename_i hheader
      rw [if_neg hheader]
      cases hcount : countBraces depth entered l with
      | none =>
        rw [hcount] at htext
        obtain ⟨p, q, rfl, hp⟩ := exists_of_countBraces_eq_none hcount
        refine ⟨[], p, q, ls, rfl, ?_, rfl, hp⟩
        rw [← Option.some.inj htext, List.reverse_cons, List.nil_append]
      | some state =>
        rw [hcount] at htext
        obtain ⟨above, p, q, below, rfl, rfl, hused, hp⟩ := ih htext
        refine ⟨l :: above, p, q, below, rfl, by simp, ?_, ?_⟩
        · rw [hused, List.length_cons]
          omega
        · rw [List.flatten_cons, List.append_assoc, countBraces_append, hcount]
          exact hp

theorem exists_closing_of_extent {text : List Char} (htext : (extent first rest).text = some text) :
    ∃ above p q below, first :: rest = above ++ (p ++ '}' :: q) :: below ∧
      text = unlines (above ++ [p ++ '}' :: q]) ∧
      (extent first rest).used = above.length + 1 ∧
      countBraces 0 false (above.flatten ++ p) = some (1, true) := by
  rw [extent] at htext ⊢
  cases hcount : countBraces 0 false first with
  | none =>
    rw [hcount] at htext
    obtain ⟨p, q, rfl, hp⟩ := exists_of_countBraces_eq_none hcount
    refine ⟨[], p, q, rest, rfl, ?_, rfl, hp⟩
    rw [← Option.some.inj htext, List.nil_append, unlines, List.intercalate_singleton]
  | some state =>
    rw [hcount] at htext
    obtain ⟨above, p, q, below, rfl, rfl, hused, hp⟩ := exists_closing_of_gather htext
    refine ⟨first :: above, p, q, below, rfl, rfl, ?_, ?_⟩
    · rw [hused, List.length_cons]
      omega
    · rw [List.flatten_cons, List.append_assoc, countBraces_append, hcount]
      exact hp

lemma gather_balanced {ls : List (List Char)} (hls : ∀ l ∈ ls, Balanced l) {depth : Int}
    (hd : 0 < depth) (kept : List (List Char)) (used : Nat) :
    gather depth true kept used (ls ++ rest) =
      gather depth true (ls.reverse ++ kept) (used + ls.length) rest := by
  induction ls generalizing kept used with
  | nil => rfl
  | cons l ls ih =>
    have hcount : countBraces depth true l = some (depth, true) := by
      rw [← List.append_nil l, (hls l (by simp)).countBraces_append hd]
      rfl
    rw [List.cons_append, gather, hcount]
    simp only [Bool.not_true, Bool.false_and, Bool.false_eq_true, if_false]
    rw [ih fun k hk => hls k (by simp [hk]), List.reverse_cons, List.append_assoc,
      List.length_cons, List.singleton_append]
    congr 1
    omega

/-- No header stands on a line that is reached before a brace is opened. -/
def HeadlessToBrace (ls : List (List Char)) : Prop :=
  ∀ above line below, ls = above ++ line :: below → '{' ∉ above.flatten → Header.occurs line = false

lemma headlessToBrace_cons_iff {l : List Char} {ls : List (List Char)} :
    HeadlessToBrace (l :: ls) ↔
      Header.occurs l = false ∧ ('{' ∉ l → HeadlessToBrace ls) := by
  constructor
  · intro h
    refine ⟨h [] l ls rfl (by simp), fun hl above line below hls habove => ?_⟩
    exact h (l :: above) line below (by rw [hls, List.cons_append]) (by simp [hl, habove])
  · rintro ⟨hhead, htail⟩ above line below hls habove
    cases above with
    | nil =>
      obtain ⟨rfl, -⟩ := List.cons.inj hls
      exact hhead
    | cons k above =>
      obtain ⟨rfl, hrest⟩ := List.cons.inj hls
      simp only [List.flatten_cons, List.mem_append, not_or] at habove
      exact htail habove.1 above line below hrest habove.2

theorem gather_isSome_iff {depth : Int} {entered : Bool} {kept : List (List Char)} {used : Nat}
    {ls : List (List Char)} :
    (gather depth entered kept used ls).text.isSome ↔
      (entered = false → HeadlessToBrace ls) ∧ countBraces depth entered ls.flatten = none := by
  induction ls generalizing depth entered kept used with
  | nil => simp [gather, countBraces]
  | cons l ls ih =>
    rw [gather, List.flatten_cons, countBraces_append, headlessToBrace_cons_iff]
    by_cases hheader : (!entered && Header.occurs l) = true
    · rw [if_pos hheader]
      rw [Bool.and_eq_true, Bool.not_eq_true'] at hheader
      simp [hheader]
    · have hhead : entered = false → Header.occurs l = false := by
        intro h
        simpa [h] using hheader
      rw [if_neg hheader]
      cases hcount : countBraces depth entered l with
      | none =>
        have hopen : entered = false → '{' ∈ l := by
          rintro rfl
          exact mem_of_countBraces_eq_none hcount
        simp only [Option.isSome_some, Option.bind_none, true_iff, and_true]
        exact fun h => ⟨hhead h, fun hl => absurd (hopen h) hl⟩
      | some state =>
        obtain ⟨depth', entered'⟩ := state
        have hentered := entered_of_countBraces hcount
        rw [ih, Option.bind_some, hentered]
        tauto

/-- A declaration is closed exactly if braces are closed behind its equals sign, and no header stands
on a line below its own up to the one with the first brace. -/
theorem extent_isSome_iff : (extent first rest).text.isSome ↔
    ('{' ∉ first → HeadlessToBrace rest) ∧ Closes 0 false (first ++ rest.flatten) := by
  rw [extent, ← countBraces_eq_none_iff, countBraces_append]
  cases hcount : countBraces 0 false first with
  | none =>
    have hopen : '{' ∈ first := mem_of_countBraces_eq_none hcount
    simp [hopen]
  | some state =>
    obtain ⟨depth, entered⟩ := state
    have hentered := entered_of_countBraces hcount
    rw [gather_isSome_iff, Option.bind_some, hentered]
    tauto

lemma HeadlessToBrace.of_append {above below : List (List Char)}
    (h : HeadlessToBrace (above ++ below)) : HeadlessToBrace above := by
  rintro before line after rfl hbefore
  exact h before line (after ++ below) (by simp) hbefore

lemma exists_taken_of_extent {text : List Char} (htext : (extent first rest).text = some text) :
    ∃ taken more, rest = taken ++ more ∧ text = unlines (first :: taken) ∧
      (extent first rest).used = taken.length + 1 ∧ extent first taken = extent first rest := by
  obtain ⟨above, p, q, below, hlines, rfl, hused, hclose⟩ := exists_closing_of_extent htext
  have hheadless := (extent_isSome_iff.mp (Option.isSome_iff_exists.mpr ⟨_, htext⟩)).1
  obtain ⟨taken, htaken⟩ : ∃ taken, above ++ [p ++ '}' :: q] = first :: taken := by
    cases above with
    | nil => exact ⟨[], by rw [(List.cons.inj hlines).1]; rfl⟩
    | cons l above => exact ⟨above ++ [p ++ '}' :: q], by rw [(List.cons.inj hlines).1]; rfl⟩
  rw [List.append_cons, htaken, List.cons_append] at hlines
  obtain ⟨-, rfl⟩ := List.cons.inj hlines
  have hlength : above.length + 1 = taken.length + 1 := by
    simpa using congrArg List.length htaken
  have hflatten : first ++ taken.flatten = above.flatten ++ p ++ '}' :: q := by
    simpa using congrArg List.flatten htaken.symm
  have hsome : (extent first taken).text.isSome := by
    rw [extent_isSome_iff, ← countBraces_eq_none_iff, hflatten]
    exact ⟨fun h => (hheadless h).of_append, countBraces_close hclose q⟩
  exact ⟨taken, below, rfl, by rw [htaken], by rw [hused, hlength], (extent_append below hsome).symm⟩

/-- An attempt that ends without the braces being closed has passed over no header. -/
lemma gather_of_unclosed {depth : Int} {entered : Bool} {kept : List (List Char)} {used : Nat}
    {ls : List (List Char)} (hnone : (gather depth entered kept used ls).text = none) :
    (gather depth entered kept used ls).used = 1 ∨
      entered = false ∧ ∃ above below, ls = above ++ below ∧
        (∀ l ∈ above, Header.occurs l = false) ∧
        (gather depth entered kept used ls).used = used + above.length := by
  induction ls generalizing depth entered kept used with
  | nil => exact .inl rfl
  | cons l ls ih =>
    rw [gather] at hnone ⊢
    by_cases hheader : (!entered && Header.occurs l) = true
    · rw [if_pos hheader]
      rw [Bool.and_eq_true, Bool.not_eq_true'] at hheader
      exact .inr ⟨hheader.1, [], l :: ls, rfl, by simp, rfl⟩
    · rw [if_neg hheader] at hnone ⊢
      cases hcount : countBraces depth entered l with
      | none => simp [hcount] at hnone
      | some state =>
        obtain ⟨depth', entered'⟩ := state
        rw [hcount] at hnone
        rcases ih hnone with hone | ⟨hentered', above, below, rfl, habove, hused⟩
        · exact .inl hone
        · have hentered := ((entered_of_countBraces hcount).mp hentered').1
          have hl : Header.occurs l = false := by simpa [hentered] using hheader
          refine .inr ⟨hentered, l :: above, below, rfl, ?_, ?_⟩
          · simpa [hl] using habove
          · simp only [hused, List.length_cons]
            omega

/-- A declaration that is dropped hides nothing below its header. -/
theorem findingsFrom_of_unclosed (hline : Header.find? line = some (name, first))
    (hnone : (extent first rest).text = none) :
    findingsFrom file number 0 (line :: rest) =
      .unterminated (String.ofList name) number :: findingsFrom file (number + 1) 0 rest := by
  have hskip : findingsFrom file (number + 1) ((extent first rest).used - 1) rest =
      findingsFrom file (number + 1) 0 rest := by
    unfold extent at hnone ⊢
    cases hcount : countBraces 0 false first with
    | none => simp [hcount] at hnone
    | some state =>
      obtain ⟨depth, entered⟩ := state
      rw [hcount] at hnone
      rcases gather_of_unclosed hnone with hone | ⟨-, above, below, rfl, habove, hused⟩
      · simp only [hone]
      · simp only [hused]
        rw [Nat.add_sub_cancel_left, findingsFrom_skip, List.drop_left' rfl,
          findingsFrom_headless_append habove]
  rw [findingsFrom, hline]
  simp only [hnone, hskip]

end Extent

lemma mem_filterMap_declared? {fs : List Finding} {d : Declaration} :
    d ∈ fs.filterMap Finding.declared? ↔ .declared d ∈ fs := by
  have hf : ∀ f : Finding, f.declared? = some d ↔ f = .declared d := by
    intro f
    cases f <;> simp [Finding.declared?]
  simp [List.mem_filterMap, hf]

lemma line_of_mem_findingsFrom {ls : List (List Char)} {skip : Nat} {d : Declaration}
    (hd : .declared d ∈ findingsFrom file number skip ls) :
    number ≤ d.line ∧ d.line < number + ls.length := by
  induction ls generalizing number skip with
  | nil => simp [findingsFrom] at hd
  | cons l ls ih =>
    have hlength : ((l :: ls).length : Int) = ls.length + 1 := by simp
    have hlater : ∀ {skip}, .declared d ∈ findingsFrom file (number + 1) skip ls →
        number ≤ d.line ∧ d.line < number + (l :: ls).length := by
      intro skip hd
      have hrange := ih hd
      push_cast at hrange
      omega
    cases skip with
    | succ skip =>
      rw [findingsFrom] at hd
      exact hlater hd
    | zero =>
      cases hheader : Header.find? l with
      | none =>
        rw [findingsFrom, hheader] at hd
        exact hlater hd
      | some header =>
        rw [findingsFrom, hheader] at hd
        rcases List.mem_cons.mp hd with hd | hd
        · cases htext : (extent header.2 ls).text with
          | none => simp [htext] at hd
          | some text =>
            have hline : d.line = number := by
              simp only [htext, Finding.declared.injEq] at hd
              rw [hd]
              rfl
            omega
        · exact hlater hd

/-- The text of a closed declaration has been found. -/
def Finding.IsDeclared (f : Finding) : Prop :=
  f.declared?.isSome

/-- The declaration with its line a number of lines further down. -/
def movedDown (count : Nat) (d : Declaration) : Declaration :=
  { d with line := d.line + count }

def Finding.movedDown (count : Nat) : Finding → Finding
  | .declared d => .declared (d.movedDown count)
  | .unterminated name line => .unterminated name (line + count)

lemma Finding.declared?_movedDown (count : Nat) (f : Finding) :
    (f.movedDown count).declared? = f.declared?.map (Declaration.movedDown count) := by
  cases f <;> rfl

/-- The number of the first line decides on nothing but the lines of what is found. -/
theorem findingsFrom_add (file : String) (count number skip : Nat) (ls : List (List Char)) :
    findingsFrom file (number + count) skip ls =
      (findingsFrom file number skip ls).map (Finding.movedDown count) := by
  induction ls generalizing number skip with
  | nil => rfl
  | cons l ls ih =>
    have hnext : ∀ skip, findingsFrom file (number + count + 1) skip ls =
        (findingsFrom file (number + 1) skip ls).map (Finding.movedDown count) := by
      intro skip
      rw [Nat.add_right_comm]
      exact ih (number + 1) skip
    cases skip with
    | succ skip => exact hnext skip
    | zero =>
      cases hheader : Header.find? l with
      | none =>
        rw [findingsFrom, findingsFrom, hheader]
        exact hnext 0
      | some header =>
        rw [findingsFrom, findingsFrom, hheader]
        simp only [hnext, List.map_cons]
        congr 1
        cases (extent header.2 ls).text with
        | none => rfl
        | some text => simp [Finding.movedDown, Declaration.movedDown, ofText]

end TypeLineage.Declaration
