import Mathlib.Data.List.Basic
import Mathlib.Data.List.Nodup
import Mathlib.Data.List.Perm.Subperm
import Mathlib.Tactic.Common
import TypeLineage.Proofs.Keyed
import TypeLineage.Proofs.Statement

/-!
# Statements in any layout

Which statements are found when any blanks stand between them. The line on which a declaration ends is
not scanned again, so a statement that begins on it is passed over.
-/

namespace TypeLineage

open Text

namespace Member

def Quiet (rows : List Row) : Prop :=
  ∀ r ∈ rows, ∀ m ∈ r.members, ¬ Header.Announces m.candidate

section Passing

variable {r : Row} {rows : List Row}

lemma passed_lines {ms : List Written} (h : ∀ m ∈ ms, ¬ Header.Announces m.candidate) :
    Header.Passed (ms.flatMap Written.line) := by
  induction ms with
  | nil => exact .nil
  | cons m ms ih =>
    rw [List.forall_mem_cons] at h
    have hm : Header.Passed (m.candidate ++ ([] ++ [';'])) :=
      .of_not_announces h.1 (by simp) (by decide) (by decide)
    rw [List.flatMap_cons]
    exact ((Header.Passed.blanks m.indent_blank).append hm).append (ih h.2)

lemma Row.passed_close (h : ∀ m ∈ r.members, ¬ Header.Announces m.candidate) :
    Header.Passed (r.text ++ ['}']) := by
  have hclosed := passed_lines fun m hm => h m (List.mem_append_left _ hm)
  have hlast : Header.Passed (r.lastText ++ (r.tail ++ ['}'])) := by
    unfold Row.lastText
    split
    · exact (Header.Passed.blanks r.tail_blank).append
        (.singleton (by decide))
    · rename_i m hlast
      have hm : ¬ Header.Announces m.candidate := h m (by simp [Row.members, hlast])
      rw [List.append_assoc]
      exact (Header.Passed.blanks m.indent_blank).append
        (.of_not_announces hm r.tail_blank (by decide) (by decide))
  unfold Row.text
  rw [List.append_assoc, List.append_assoc]
  exact hclosed.append hlast

lemma Row.find?_text (h : ∀ m ∈ r.members, ¬ Header.Announces m.candidate) :
    Header.find? r.text = none := by
  have hclosed := passed_lines fun m hm => h m (List.mem_append_left _ hm)
  unfold Row.text Row.lastText
  rw [hclosed]
  split
  · exact Header.find?_blanks r.tail_blank
  · rename_i m hlast
    have hm : ¬ Header.Announces m.candidate := h m (by simp [Row.members, hlast])
    rw [List.append_assoc, Header.find?_blanks_append m.indent_blank]
    exact Header.find?_of_not_announces fun hannounced =>
      hm (hannounced.of_append_blanks r.tail_blank)

end Passing

end Member

namespace Declaration

open Member

/-- The scan of the text comes to a line that begins with its last line, and finds nothing before. -/
def Skipped (s : List Char) : Prop :=
  ∃ before, Header.Passed before ∧ '\n' ∉ before ∧
    ∀ (file : String) (number : Nat) (rest : List Char),
      findingsFrom file number 0 (lines (s ++ rest)) =
        findingsFrom file (number + s.count '\n') 0 (lines (before ++ rest))

namespace Skipped

variable {s t : List Char}

lemma of_passed (hs : Header.Passed s) (hnewline : '\n' ∉ s) : Skipped s := by
  refine ⟨s, hs, hnewline, fun file number rest => ?_⟩
  rw [List.count_eq_zero.mpr hnewline, Nat.add_zero]

lemma newline (hs : Header.find? s = none) (hnewline : '\n' ∉ s) (ht : Skipped t) :
    Skipped (s ++ '\n' :: t) := by
  obtain ⟨before, hbefore, hline, hscan⟩ := ht
  refine ⟨before, hbefore, hline, fun file number rest => ?_⟩
  have hheadless : Header.occurs s = false := by simp [Header.occurs, hs]
  rw [List.append_assoc, List.cons_append, lines_append_newline hnewline,
    findingsFrom_of_headless hheadless, hscan, count_append_newline hnewline]
  congr 1
  omega

lemma blanks {gap : List Char} (hgap : ∀ c ∈ gap, isBlank c = true) (hs : Header.Passed s)
    (hnewline : '\n' ∉ s) : Skipped (s ++ gap) := by
  induction gap generalizing s with
  | nil =>
    rw [List.append_nil]
    exact of_passed hs hnewline
  | cons c gap ih =>
    rw [List.forall_mem_cons] at hgap
    by_cases hc : c = '\n'
    · subst hc
      exact newline hs.find?_eq_none hnewline (ih hgap.2 .nil List.not_mem_nil)
    · have hblank : Header.Passed [c] := .blanks (by simpa using hgap.1)
      have hmore := ih hgap.2 (hs.append hblank) (by simp [hnewline, Ne.symm hc])
      rwa [List.append_assoc, List.singleton_append] at hmore

lemma append_blanks {gap : List Char} (hs : Skipped s) (hgap : ∀ c ∈ gap, isBlank c = true) :
    Skipped (s ++ gap) := by
  obtain ⟨before, hbefore, hline, hscan⟩ := hs
  obtain ⟨before', hbefore', hline', hscan'⟩ := blanks hgap hbefore hline
  refine ⟨before', hbefore', hline', fun file number rest => ?_⟩
  have hcount : (before ++ gap).count '\n' = gap.count '\n' := by
    rw [List.count_append, List.count_eq_zero.mpr hline, Nat.zero_add]
  have happ := hscan' file (number + s.count '\n') rest
  rw [List.append_assoc, hcount] at happ
  rw [List.append_assoc, hscan, happ, List.count_append, Nat.add_assoc]

lemma of_quiet {rows : List Row} (h : Quiet rows) : Skipped (inside rows ++ ['}', ';']) := by
  have hsemicolon : Header.Passed [';'] := .singleton (by decide)
  induction rows with
  | nil => exact of_passed ((Header.Passed.singleton (by decide)).append hsemicolon) (by decide)
  | cons r rows ih =>
    rw [Quiet, List.forall_mem_cons] at h
    have hr := r.newline_not_mem
    by_cases hrows : rows = []
    · subst hrows
      have hone : inside [r] ++ ['}', ';'] = r.text ++ ['}'] ++ [';'] := by
        rw [inside_singleton, List.append_assoc]
        rfl
      rw [hone]
      exact of_passed ((Row.passed_close h.1).append hsemicolon) (by simp [hr])
    · rw [inside_cons r hrows, List.append_assoc, List.cons_append]
      exact newline (Row.find?_text h.1) hr (ih h.2)

lemma findingsFrom_nil (hs : Skipped s) (file : String) (number : Nat) :
    findingsFrom file number 0 (lines s) = [] := by
  obtain ⟨before, hbefore, hline, hscan⟩ := hs
  have hheadless : Header.occurs before = false := by
    simp [Header.occurs, hbefore.find?_eq_none]
  have hnil := hscan file number []
  rw [List.append_nil, List.append_nil, lines_eq_singleton hline,
    findingsFrom_of_headless hheadless] at hnil
  exact hnil

lemma findingsFrom_text (hs : Skipped s) (p : Statement) (rest : List Char) (file : String)
    (number : Nat) :
    findingsFrom file number 0 (lines (s ++ (p.text ++ rest))) =
      .declared (p.record file (number + s.count '\n')) ::
        findingsFrom file (number + s.count '\n' + p.text.count '\n' + 1) 0 (lines rest).tail := by
  obtain ⟨before, hbefore, hline, hscan⟩ := hs
  have htext : p.text ++ rest = Header.text p.name ++ (p.rightSide ++ (';' :: rest)) := by
    unfold Statement.text
    simp
  have hcount : p.text.count '\n' = p.opened.count '\n' := by
    unfold Statement.text Statement.rightSide
    simp [List.count_eq_zero.mpr (Header.newline_not_mem_text p.name)]
  have htail : (lines (';' :: rest)).tail = (lines rest).tail :=
    tail_lines_append (s := [';']) (by decide) rest
  rw [hscan, htext, p.findingsFrom_statement hbefore hline, htail, hcount]
  congr 2
  omega

end Skipped

/-- A statement behind blanks. Its members do not look like a header. -/
structure Placed extends Statement where
  gap : List Char
  gap_blank : ∀ c ∈ gap, isBlank c = true
  quiet : Quiet rows

def Placed.whole (s : Placed) : List Char :=
  s.gap ++ s.text

/-- The statements that are found when the scan has come to the line of the given number, and has taken
it in already if it is spent. -/
def found (file : String) : (number : Nat) → (spent : Bool) → List Placed → List Declaration
  | _, _, [] => []
  | number, spent, s :: rest =>
    let header := number + s.gap.count '\n'
    let last := header + s.text.count '\n'
    if spent ∧ '\n' ∉ s.gap then found file last (!s.text.contains '\n') rest
    else s.record file header :: found file last true rest

section Scan

variable {gap : List Char}

lemma exists_of_newline_mem (h : '\n' ∈ gap) : ∃ later, later <:+ gap ∧
    gap.count '\n' = later.count '\n' + 1 ∧
      ∀ rest, (lines (gap ++ rest)).tail = lines (later ++ rest) := by
  obtain ⟨first, later, rfl, hfirst⟩ := List.eq_append_cons_of_mem h
  refine ⟨later, ⟨first ++ ['\n'], by simp⟩, count_append_newline hfirst later, fun rest => ?_⟩
  rw [List.append_assoc, List.cons_append, lines_append_newline hfirst, List.tail_cons]

/-- A statement that begins on a spent line is not found. Its last line is not spent, unless it is the
same line. -/
lemma Placed.findingsFrom_muted (s : Placed) (hgap : '\n' ∉ s.gap) (rest : List Char) :
    ('\n' ∉ s.text → (lines (s.whole ++ rest)).tail = (lines rest).tail) ∧
      ('\n' ∈ s.text → ∃ later, Skipped later ∧ s.text.count '\n' = later.count '\n' + 1 ∧
        (lines (s.whole ++ rest)).tail = lines (later ++ rest)) := by
  refine ⟨fun hone => ?_, fun hmany => ?_⟩
  · unfold whole
    exact tail_lines_append (by simp [hgap, hone]) rest
  · obtain ⟨head, hhead, htext⟩ := s.exists_text_eq
    have hinside : '\n' ∈ inside s.rows := by
      rw [htext] at hmany
      simpa [hhead] using hmany
    obtain ⟨r, more, hrows, hlines⟩ := exists_of_newline_mem_inside hinside
    have hquiet := s.quiet
    rw [hrows, Quiet, List.forall_mem_cons] at hquiet
    have hr := r.newline_not_mem
    have happ : s.text = (head ++ r.text) ++ '\n' :: (inside more ++ ['}', ';']) := by
      rw [htext, hlines]
      simp
    have hwhole : s.whole ++ rest = (s.gap ++ (head ++ r.text)) ++
        '\n' :: (inside more ++ ['}', ';'] ++ rest) := by
      rw [Placed.whole, happ]
      simp
    refine ⟨inside more ++ ['}', ';'], .of_quiet hquiet.2, ?_, ?_⟩
    · rw [happ, count_append_newline (by simp [hhead, hr])]
    · rw [hwhole, lines_append_newline (by simp [hgap, hhead, hr]), List.tail_cons]

/-- Behind a text that is skipped, and below a spent line, the scan finds what is foretold. -/
theorem findingsFrom_placed {tail : List Char} (htail : ∀ c ∈ tail, isBlank c = true) (file : String)
    (ps : List Placed) :
    (∀ (number : Nat) (s : List Char), Skipped s →
      findingsFrom file number 0 (lines (s ++ (ps.flatMap Placed.whole ++ tail))) =
        (found file (number + s.count '\n') false ps).map .declared) ∧
      ∀ number : Nat,
        findingsFrom file (number + 1) 0 (lines (ps.flatMap Placed.whole ++ tail)).tail =
          (found file number true ps).map .declared := by
  have hblanks : ∀ gap : List Char, (∀ c ∈ gap, isBlank c = true) → Skipped gap :=
    fun gap hgap => Skipped.blanks hgap .nil List.not_mem_nil
  -- A statement that is found leaves its last line spent and one that is muted need not, so both
  -- cases are carried together.
  induction ps with
  | nil =>
    rw [List.flatMap_nil, List.nil_append]
    refine ⟨fun number s hs => (hs.append_blanks htail).findingsFrom_nil file number,
      fun number => ?_⟩
    by_cases hmem : '\n' ∈ tail
    · obtain ⟨later, hlater, -, hlines⟩ := exists_of_newline_mem hmem
      have hnil := hlines []
      rw [List.append_nil, List.append_nil] at hnil
      rw [hnil]
      exact (hblanks later fun c hc => htail c (hlater.subset hc)).findingsFrom_nil file _
    · rw [lines_eq_singleton hmem]
      rfl
  | cons p rest ih =>
    obtain ⟨hunspent, hspent⟩ := ih
    rw [List.flatMap_cons, List.append_assoc]
    generalize rest.flatMap Placed.whole ++ tail = below at hunspent hspent
    have hfound : ∀ (number : Nat) (s : List Char), Skipped s →
        findingsFrom file number 0 (lines (s ++ (p.text ++ below))) =
          (p.record file (number + s.count '\n') ::
            found file (number + s.count '\n' + p.text.count '\n') true rest).map .declared := by
      intro number s hs
      rw [hs.findingsFrom_text, hspent, List.map_cons]
    refine ⟨fun number s hs => ?_, fun number => ?_⟩
    · have hgap := hfound number (s ++ p.gap) (hs.append_blanks p.gap_blank)
      rw [List.count_append, ← Nat.add_assoc, List.append_assoc] at hgap
      rw [Placed.whole, List.append_assoc, hgap, found, if_neg (by simp)]
    · rw [found]
      by_cases hmem : '\n' ∈ p.gap
      · obtain ⟨later, hlater, hcount, hlines⟩ := exists_of_newline_mem hmem
        have hgap := hfound (number + 1) later
          (hblanks later fun c hc => p.gap_blank c (hlater.subset hc))
        have hnumber : number + 1 + later.count '\n' = number + p.gap.count '\n' := by omega
        rw [hnumber] at hgap
        rw [Placed.whole, List.append_assoc, hlines, hgap, if_neg (by simp [hmem])]
      · obtain ⟨hone, hmany⟩ := p.findingsFrom_muted hmem below
        rw [if_pos ⟨rfl, hmem⟩, List.count_eq_zero.mpr hmem, Nat.add_zero]
        by_cases htext : '\n' ∈ p.text
        · obtain ⟨later, hlater, hcount, hlines⟩ := hmany htext
          have hnumber : number + 1 + later.count '\n' = number + p.text.count '\n' := by omega
          rw [hlines, hunspent _ later hlater, hnumber]
          simp [htext]
        · rw [hone htext, hspent, List.count_eq_zero.mpr htext]
          simp [htext]

end Scan

section Meaning

variable (file : String) (number : Nat) (spent : Bool) (ps : List Placed)

lemma names_found : List.Sublist ((found file number spent ps).map Declaration.name)
    (ps.map fun s => String.ofList s.name.chars) := by
  induction ps generalizing number spent with
  | nil => exact .slnil
  | cons p rest ih =>
    rw [found, List.map_cons]
    split
    · exact (ih _ _).cons _
    · exact (ih _ _).cons_cons _

lemma exists_mem_found (h : ∀ s ∈ if spent then ps else ps.tail, '\n' ∈ s.gap) :
    ∀ s ∈ ps, ∃ line : Nat, s.record file line ∈ found file number spent ps := by
  induction ps generalizing number spent with
  | nil => simp
  | cons p rest ih =>
    have hrest : ∀ s ∈ rest, '\n' ∈ s.gap := by
      intro s hs
      cases spent with
      | false => exact h s (by simpa using hs)
      | true => exact h s (by simp [hs])
    have hp : ¬ (spent = true ∧ '\n' ∉ p.gap) := by
      rintro ⟨rfl, hmem⟩
      exact hmem (h p (by simp))
    rw [found, if_neg hp]
    intro s hs
    rcases List.mem_cons.mp hs with rfl | hs
    · exact ⟨_, List.mem_cons_self⟩
    · obtain ⟨line, hline⟩ := ih _ true (by simpa using hrest) s hs
      exact ⟨line, List.mem_cons_of_mem _ hline⟩

lemma newline_mem_of_length_le (h : ps.length ≤ (found file number spent ps).length) :
    ∀ s ∈ if spent then ps else ps.tail, '\n' ∈ s.gap := by
  have hlength : ∀ (number : Nat) (spent : Bool) (ps : List Placed),
      (found file number spent ps).length ≤ ps.length := by
    intro number spent ps
    simpa using (names_found file number spent ps).length_le
  induction ps generalizing number spent with
  | nil => simp
  | cons p rest ih =>
    rw [found] at h
    split at h
    · have hrest := hlength (number + p.gap.count '\n' + p.text.count '\n')
        (!p.text.contains '\n') rest
      simp only [List.length_cons] at h
      omega
    · rename_i hp
      have hrest := ih _ true (by simpa using h)
      rw [if_pos rfl] at hrest
      cases spent with
      | false => simpa using hrest
      | true =>
        have hmem : '\n' ∈ p.gap := by simpa using hp
        simpa [hmem] using hrest

end Meaning

/-- Statements with distinct names, with any blanks around them. -/
structure Layout where
  statements : List Placed
  tail : List Char
  tail_blank : ∀ c ∈ tail, isBlank c = true
  nodup : (statements.map fun s => s.name.chars).Nodup

def Layout.text (l : Layout) : List Char :=
  l.statements.flatMap Placed.whole ++ l.tail

/-- Of statements in any layout those are found that do not begin on a spent line. These are all of
them exactly if every statement but the first begins on a line below the one before it. -/
theorem found_in_any_layout (l : Layout) (file : String) :
    parse l.text file = found file 1 false l.statements ∧
      ((∀ s ∈ l.statements, ∃ line : Nat, s.record file line ∈ parse l.text file) ↔
        ∀ s ∈ l.statements.tail, '\n' ∈ s.gap) := by
  have hnames : (l.statements.map fun s => String.ofList s.name.chars).Nodup := by
    have hmap := l.nodup.map (f := String.ofList) fun a b h => String.ofList_injective h
    rwa [List.map_map] at hmap
  have hparse : parse l.text file = found file 1 false l.statements := by
    have hfindings := (findingsFrom_placed l.tail_blank file l.statements).1 1 []
      (.of_passed .nil List.not_mem_nil)
    have hdeclared : Finding.declared? ∘ Finding.declared = some := rfl
    rw [parse, findings, Layout.text]
    rw [List.nil_append, List.count_nil, Nat.add_zero] at hfindings
    rw [hfindings, List.filterMap_map, hdeclared, List.filterMap_some, table,
      Keyed.ofList_of_nodup (hnames.sublist (names_found file 1 false l.statements))]
  refine ⟨hparse, ?_⟩
  rw [hparse]
  constructor
  · intro h
    have hsubset : (l.statements.map fun s => String.ofList s.name.chars) ⊆
        (found file 1 false l.statements).map Declaration.name := by
      intro name hname
      obtain ⟨s, hs, rfl⟩ := List.mem_map.mp hname
      obtain ⟨line, hline⟩ := h s hs
      exact List.mem_map.mpr ⟨_, hline, rfl⟩
    have hlength := (hnames.subperm hsubset).length_le
    rw [List.length_map, List.length_map] at hlength
    simpa using newline_mem_of_length_le file 1 false l.statements hlength
  · intro h
    exact exists_mem_found file 1 false l.statements (by simpa using h)

/-- Two statements on one line. -/
def sideBySide : Layout where
  statements := [
    { name := ⟨['A'], by decide, List.all_eq_true.mp (by decide)⟩
      parent := none
      rows := []
      gap := []
      gap_blank := List.all_eq_true.mp (by decide)
      quiet := by simp [Quiet] },
    { name := ⟨['B'], by decide, List.all_eq_true.mp (by decide)⟩
      parent := none
      rows := []
      gap := [' ']
      gap_blank := isBlank_of_mem_space
      quiet := by simp [Quiet] }]
  tail := []
  tail_blank := List.all_eq_true.mp (by decide)
  nodup := by decide

example : sideBySide.text = "export type A = \x7b\x7d; export type B = \x7b\x7d;".toList ∧
    parse sideBySide.text "" = [⟨"A", none, [], 1, ""⟩] := by
  decide +kernel

end Declaration

end TypeLineage
