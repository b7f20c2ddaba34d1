import Mathlib.Data.List.Basic
import Mathlib.Tactic.Common
import TypeLineage.Proofs.Extent
import TypeLineage.Proofs.Keywords
import TypeLineage.Proofs.Rendering
import TypeLineage.Proofs.Rows

/-!
# Statements

A declaration with its members in rows. It is read where its header stands behind a text that is passed
over, and the scan goes on below the line on which it ends.
-/

namespace TypeLineage.Declaration

open Text Member

structure Statement where
  name : Word
  parent : Option Word
  rows : List Row

namespace Statement

variable (s : Statement)

/-- Name and parent alone. -/
def block : Block where
  gaps := []
  before := []
  name := s.name
  parent := s.parent
  body := []
  trailing := []
  before_newline := List.not_mem_nil
  before_export := by decide
  trailing_newline := List.not_mem_nil

/-- What stands behind the equals sign, up to the closing brace. -/
def opened : List Char :=
  ' ' :: (s.block.front ++ '{' :: inside s.rows)

def rightSide : List Char :=
  s.opened ++ ['}']

def text : List Char :=
  Header.text s.name ++ (s.rightSide ++ [';'])

def record (file : String) (line : Nat) : Declaration where
  name := String.ofList s.name.chars
  parent := s.parent.map fun parent => String.ofList parent.chars
  fields := Keyed.ofList Field.name ((s.rows.flatMap Row.members).map Written.field)
  line := line
  file := file

lemma countBraces_opened : countBraces 0 false s.opened = some (1, true) := by
  have hinside : countBraces 1 true (inside s.rows) = some (1, true) := by
    rw [← List.append_nil (inside s.rows), (inside_balanced s.rows).countBraces_append Int.one_pos]
    rfl
  have happ : s.opened = s.block.opening ++ inside s.rows := by
    unfold opened Block.opening
    simp
  rw [happ, countBraces_append, s.block.countBraces_opening, Option.bind_some, hinside]

theorem ofText_rightSide (rest : List Char) (file : String) (line : Nat) :
    ofText s.name.chars (s.rightSide ++ rest) line file = s.record file line := by
  have hspan := s.block.ofText_span (inside_balanced s.rows) rest file line
  have happ : s.rightSide ++ rest =
      ' ' :: (s.block.front ++ '{' :: (inside s.rows ++ '}' :: rest)) := by
    unfold rightSide opened
    simp
  rw [fields_inside] at hspan
  rw [happ]
  exact hspan

lemma newline_not_mem_front : '\n' ∉ ' ' :: s.block.front := by
  have hnewline : '\n' ∉ s.block.front := s.block.not_mem_front (by decide) (by decide)
  simp [hnewline]

lemma newline_not_mem_rightSide (hrows : s.rows = []) : '\n' ∉ s.rightSide := by
  have hfront := s.newline_not_mem_front
  rw [List.mem_cons, not_or] at hfront
  unfold rightSide opened
  simp [hrows, hfront, inside, unlines]

lemma exists_text_eq : ∃ head, '\n' ∉ head ∧ s.text = head ++ (inside s.rows ++ ['}', ';']) := by
  have hheader := Header.newline_not_mem_text s.name
  have hfront := s.newline_not_mem_front
  refine ⟨Header.text s.name ++ (' ' :: s.block.front ++ ['{']), ?_, ?_⟩
  · rw [List.mem_append, List.mem_append, List.mem_singleton]
    rintro (h | h | h)
    · exact hheader h
    · exact hfront h
    · cases h
  · unfold text rightSide opened
    simp

lemma brace_mem_of_lines {rest first : List Char} {more : List (List Char)}
    (h : lines (s.opened ++ rest) = first :: more) : '{' ∈ first := by
  obtain ⟨q, below, hq⟩ := exists_lines_eq_cons (inside s.rows ++ rest)
  have hbrace := lines_cons (by decide : '{' ≠ '\n') hq
  have hopen := lines_append_of_newline_not_mem s.newline_not_mem_front hbrace
  have happ : s.opened ++ rest = ' ' :: s.block.front ++ '{' :: (inside s.rows ++ rest) := by
    unfold opened
    simp
  rw [← happ, h] at hopen
  rw [(List.cons.inj hopen).1]
  simp

/-- The statement is found on its header line, and the rest of the line of its last brace is not
scanned again. -/
theorem findingsFrom_statement {before : List Char} (hbefore : Header.Passed before)
    (hnewline : '\n' ∉ before) (rest : List Char) (file : String) (number : Nat) :
    findingsFrom file number 0 (lines (before ++ (Header.text s.name ++ (s.rightSide ++ rest)))) =
      .declared (s.record file number) ::
        findingsFrom file (number + 1 + s.opened.count '\n') 0 (lines rest).tail := by
  have hright : s.rightSide ++ rest = s.opened ++ '}' :: rest := by
    unfold rightSide
    simp
  obtain ⟨first, more, hlines⟩ := exists_lines_eq_cons (s.opened ++ '}' :: rest)
  obtain ⟨q, below, hq⟩ := exists_lines_eq_cons rest
  obtain ⟨hextent, hdrop⟩ :=
    extent_of_closing s.countBraces_opened hlines (s.brace_mem_of_lines hlines) hq
  have hheader : Header.find? (before ++ (Header.text s.name ++ first)) =
      some (s.name.chars, first) := hbefore.find?_text s.name first
  have hall : lines (before ++ (Header.text s.name ++ (s.rightSide ++ rest))) =
      (before ++ (Header.text s.name ++ first)) :: more := by
    rw [hright]
    exact lines_append_of_newline_not_mem hnewline
      (lines_append_of_newline_not_mem (Header.newline_not_mem_text s.name) hlines)
  have hrecord : ofText s.name.chars (s.opened ++ '}' :: q) number file = s.record file number := by
    have hq := s.ofText_rightSide q file number
    rwa [rightSide, List.append_assoc, List.singleton_append] at hq
  rw [hall, findingsFrom_of_closed hheader hextent, hrecord, hdrop, hq, List.tail_cons]

end Statement

end TypeLineage.Declaration
