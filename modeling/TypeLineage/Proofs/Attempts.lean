import Mathlib.Data.List.Basic
import Mathlib.Tactic.Common
import TypeLineage.Declaration.Scan
import TypeLineage.Proofs.Keyed
import TypeLineage.Proofs.Lines
import TypeLineage.Proofs.Scan
import TypeLineage.Proofs.Spelling

/-!
# The attempts of the scan

The scan goes through the lines of a text and attempts to read a declaration at every header that it
comes to. `Scans` is this loop with no bound on its steps. Each attempt moves it on, so it ends, and a
declaration is told by the lines that its attempt takes in.
-/

namespace TypeLineage.Declaration

open Text

/-- An attempt to read a declaration: the index of its header line, the name, the rest of the line behind
the equals sign and what is taken in. -/
structure Attempt where
  start : Nat
  name : List Char
  first : List Char
  extent : Extent
  deriving DecidableEq

/-- The attempt at the line of an index, if there is a header on it. -/
def attempt? (ls : List (List Char)) (start : Nat) : Option Attempt :=
  ls[start]?.bind fun line =>
    (Header.find? line).map fun (name, first) =>
      ⟨start, name, first, extent first (ls.drop (start + 1))⟩

namespace Attempt

/-- The index of the line at which the scan goes on. -/
def next (a : Attempt) : Nat :=
  a.start + a.extent.used

/-- The declaration, if its braces are closed. -/
def record? (file : String) (a : Attempt) : Option Declaration :=
  a.extent.text.map fun text => ofText a.name text (a.start + 1) file

def finding (file : String) (a : Attempt) : Finding :=
  match a.record? file with
  | none => .unterminated (String.ofList a.name) (a.start + 1)
  | some d => .declared d

/-- The attempt yields the declaration: it stands on the line of the leftmost header, and the lines that
are taken in give the same declaration if there are no others. -/
structure Yields (ls : List (List Char)) (file : String) (a : Attempt) (d : Declaration) : Prop where
  line : d.line = a.start + 1
  header : ∃ line, ls[a.start]? = some line ∧ Header.LeftmostSpells d.name.toList line
  alone : parse (unlines (ls.extract a.start a.next)) file = [{ d with line := 1 }]

end Attempt

/-- The loop of the scan: the index it has come to, and the attempts it makes from there on. -/
inductive Scans (ls : List (List Char)) : Nat → List Attempt → Prop where
  | done {index : Nat} (hindex : ls.length ≤ index) : Scans ls index []
  | pass {index : Nat} {attempts : List Attempt} (hindex : index < ls.length)
      (hnone : attempt? ls index = none) (hrest : Scans ls (index + 1) attempts) :
      Scans ls index attempts
  | attempt {index : Nat} {a : Attempt} {attempts : List Attempt}
      (ha : attempt? ls index = some a) (hrest : Scans ls a.next attempts) :
      Scans ls index (a :: attempts)

section Attempts

variable {ls : List (List Char)} {start index : Nat} {a : Attempt} {as bs : List Attempt}
  {file : String}

lemma exists_of_attempt? (ha : attempt? ls start = some a) : ∃ line,
    ls.drop start = line :: ls.drop (start + 1) ∧ ls[start]? = some line ∧
      Header.find? line = some (a.name, a.first) ∧ a.start = start ∧
        a.extent = extent a.first (ls.drop (start + 1)) := by
  obtain ⟨line, hline, ha⟩ := Option.bind_eq_some_iff.mp ha
  obtain ⟨header, hheader, rfl⟩ := Option.map_eq_some_iff.mp ha
  obtain ⟨hlt, rfl⟩ := List.getElem?_eq_some_iff.mp hline
  exact ⟨ls[start], List.drop_eq_getElem_cons hlt, hline, hheader, rfl, rfl⟩

lemma occurs_of_attempt?_eq_none (hindex : index < ls.length) (hnone : attempt? ls index = none) :
    Header.occurs ls[index] = false := by
  rw [attempt?, List.getElem?_eq_getElem hindex, Option.bind_some, Option.map_eq_none_iff] at hnone
  rw [Header.occurs, hnone]
  rfl

theorem next_of_attempt? (ha : attempt? ls start = some a) : start < a.next ∧ a.next ≤ ls.length := by
  obtain ⟨line, hdrop, -, -, hstart, hextent⟩ := exists_of_attempt? ha
  obtain ⟨hpos, hle⟩ := extent_used a.first (ls.drop (start + 1))
  have hlength := congrArg List.length hdrop
  rw [List.length_cons, List.length_drop, List.length_drop] at hlength
  rw [List.length_drop] at hle
  rw [Attempt.next, hstart, hextent]
  omega

theorem exists_scans (ls : List (List Char)) (index : Nat) : ∃ attempts, Scans ls index attempts := by
  induction hleft : ls.length - index using Nat.strong_induction_on generalizing index with
  | _ left ih =>
    by_cases hindex : ls.length ≤ index
    · exact ⟨[], .done hindex⟩
    · cases ha : attempt? ls index with
      | none =>
        obtain ⟨attempts, hrest⟩ := ih _ (by omega) (index + 1) rfl
        exact ⟨attempts, .pass (by omega) ha hrest⟩
      | some a =>
        have hnext := next_of_attempt? ha
        obtain ⟨attempts, hrest⟩ := ih _ (by omega) a.next rfl
        exact ⟨a :: attempts, .attempt ha hrest⟩

namespace Scans

theorem unique (has : Scans ls index as) (hbs : Scans ls index bs) : as = bs := by
  induction has generalizing bs with
  | done hindex =>
    cases hbs with
    | done => rfl
    | pass hlt => omega
    | attempt ha =>
      have hnext := next_of_attempt? ha
      omega
  | pass hindex hnone _ ih =>
    cases hbs with
    | done hle => omega
    | pass _ _ hrest => exact ih hrest
    | attempt ha =>
      rw [hnone] at ha
      cases ha
  | attempt ha _ ih =>
    cases hbs with
    | done hle =>
      have hnext := next_of_attempt? ha
      omega
    | pass _ hnone =>
      rw [hnone] at ha
      cases ha
    | attempt ha' hrest =>
      obtain rfl := Option.some.inj (ha.symm.trans ha')
      rw [ih hrest]

lemma attempt?_of_mem (h : Scans ls index as) :
    ∀ a ∈ as, index ≤ a.start ∧ attempt? ls a.start = some a := by
  induction h with
  | done => simp
  | pass _ _ _ ih =>
    intro a ha
    obtain ⟨hle, hattempt⟩ := ih a ha
    exact ⟨by omega, hattempt⟩
  | attempt ha _ ih =>
    obtain ⟨-, -, -, -, hstart, -⟩ := exists_of_attempt? ha
    intro b hb
    rcases List.mem_cons.mp hb with rfl | hb
    · rw [hstart]
      exact ⟨le_rfl, ha⟩
    · have hnext := next_of_attempt? ha
      obtain ⟨hle, hattempt⟩ := ih b hb
      exact ⟨by omega, hattempt⟩

theorem ordered (h : Scans ls index as) : as.Pairwise fun a b => a.next ≤ b.start := by
  induction h with
  | done => exact .nil
  | pass _ _ _ ih => exact ih
  | attempt _ hrest ih => exact .cons (fun b hb => (hrest.attempt?_of_mem b hb).1) ih

/-- The scan makes the attempts of the loop. -/
theorem findingsFrom_eq (h : Scans ls index as) (file : String) :
    findingsFrom file (index + 1) 0 (ls.drop index) = as.map (Attempt.finding file) := by
  induction h with
  | done hindex =>
    rw [List.drop_eq_nil_of_le hindex]
    rfl
  | pass hindex hnone _ ih =>
    rw [List.drop_eq_getElem_cons hindex,
      findingsFrom_of_headless (occurs_of_attempt?_eq_none hindex hnone)]
    exact ih
  | @attempt index a as ha _ ih =>
    obtain ⟨line, hdrop, -, hheader, hstart, hextent⟩ := exists_of_attempt? ha
    obtain ⟨hlt, -⟩ := next_of_attempt? ha
    have hnext : a.next = index + 1 + (a.extent.used - 1) := by
      rw [Attempt.next, hstart] at hlt ⊢
      omega
    have hnumber : index + 1 + 1 + (a.extent.used - 1) = a.next + 1 := by omega
    rw [hdrop, findingsFrom, hheader]
    simp only [← hextent]
    rw [findingsFrom_skip, List.drop_drop, ← hnext, hnumber, ih, List.map_cons]
    unfold Attempt.finding Attempt.record?
    rw [hstart]
    cases a.extent.text <;> rfl

lemma findings_eq (h : Scans ls 0 as) (file : String) :
    findingsFrom file 1 0 ls = as.map (Attempt.finding file) :=
  h.findingsFrom_eq file

end Scans

lemma extract_of_attempt? (ha : attempt? ls start = some a) (hsome : a.extent.text.isSome) :
    attempt? (ls.extract a.start a.next) 0 = some { a with start := 0 } ∧
      (ls.extract a.start a.next).length = a.extent.used := by
  obtain ⟨line, hdrop, -, hheader, hstart, hextent⟩ := exists_of_attempt? ha
  obtain ⟨text, htext⟩ := Option.isSome_iff_exists.mp hsome
  rw [hextent] at htext
  obtain ⟨taken, more, htaken, -, hused, halone⟩ := exists_taken_of_extent htext
  have hblock : ls.extract a.start a.next = line :: taken := by
    rw [List.extract, Attempt.next, Nat.add_sub_cancel_left, hextent, hused, hstart, hdrop, htaken,
      List.take_succ_cons, List.take_left' rfl]
  rw [hblock, hextent, hused]
  refine ⟨?_, rfl⟩
  unfold attempt?
  simp only [List.getElem?_cons_zero, Option.bind_some, hheader, Option.map_some, Nat.zero_add,
    List.drop_succ_cons, List.drop_zero, halone]

lemma record?_start_zero (a : Attempt) (file : String) :
    ({ a with start := 0 } : Attempt).record? file =
      (a.record? file).map fun d => { d with line := 1 } := by
  unfold Attempt.record?
  cases a.extent.text <;> rfl

theorem yields_of_attempt? (hls : ∀ l ∈ ls, '\n' ∉ l) (ha : attempt? ls start = some a)
    {d : Declaration} (hd : a.record? file = some d) : a.Yields ls file d := by
  obtain ⟨line, -, hline, hheader, hstart, -⟩ := exists_of_attempt? ha
  obtain ⟨text, htext, rfl⟩ := Option.map_eq_some_iff.mp hd
  refine ⟨rfl, ⟨line, by rw [hstart, hline], ?_⟩, ?_⟩
  · rw [ofText, String.toList_ofList]
    exact Header.leftmostSpells_of_find? hheader
  · obtain ⟨hblock, hlength⟩ := extract_of_attempt? ha (Option.isSome_iff_exists.mpr ⟨text, htext⟩)
    have hne : ls.extract a.start a.next ≠ [] := by
      rintro hnil
      rw [hnil] at hblock
      cases hblock
    have hlines : lines (unlines (ls.extract a.start a.next)) = ls.extract a.start a.next :=
      lines_unlines hne fun l hl => hls l (List.mem_of_mem_drop (List.mem_of_mem_take hl))
    have hscan : Scans (ls.extract a.start a.next) 0 [{ a with start := 0 }] :=
      .attempt hblock (.done (by rw [hlength, Attempt.next]; simp))
    rw [parse, findings, hlines, hscan.findings_eq, List.map_singleton, Attempt.finding, record?_start_zero,
      hd]
    rfl

end Attempts

/-- The scan of any text ends. It makes one attempt after the other, each on lines of its own below those
of the one before; a declaration is told by the lines of its attempt, which begin with its header. Of
the declarations with one name the last is kept, in the place of the first. -/
theorem scan_of_any_text (text : List Char) (file : String) :
    ∃ attempts : List Attempt,
      (∀ as, Scans (lines text) 0 as ↔ as = attempts) ∧
      (∀ a ∈ attempts, a.start < a.next ∧ a.next ≤ (lines text).length) ∧
      attempts.Pairwise (fun a b => a.next ≤ b.start) ∧
      findings text file = attempts.map (Attempt.finding file) ∧
      (∀ a ∈ attempts, ∀ d, a.record? file = some d → a.Yields (lines text) file d) ∧
      let accepted := attempts.filterMap (Attempt.record? file)
      parse text file = (accepted.map (·.name)).eraseDups.filterMap fun name =>
        accepted.reverse.find? (·.name = name) := by
  obtain ⟨attempts, hscan⟩ := exists_scans (lines text) 0
  have hfindings := hscan.findings_eq file
  refine ⟨attempts, fun as => ⟨fun has => has.unique hscan, fun has => has ▸ hscan⟩, fun a ha => ?_,
    hscan.ordered, hfindings, fun a ha d hd => ?_, ?_⟩
  · exact next_of_attempt? (hscan.attempt?_of_mem a ha).2
  · exact yields_of_attempt? (fun l => newline_not_mem_of_mem_lines)
      (hscan.attempt?_of_mem a ha).2 hd
  · have hdeclared : Finding.declared? ∘ Attempt.finding file = Attempt.record? file := by
      funext a
      unfold Function.comp Attempt.finding
      cases a.record? file <;> rfl
    rw [parse, findings, hfindings, List.filterMap_map, hdeclared, table, Keyed.ofList_eq_filterMap]

end TypeLineage.Declaration
