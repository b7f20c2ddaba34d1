import Mathlib.Data.List.Basic
import Mathlib.Tactic.Common
import TypeLineage.Proofs.Members

/-!
# Members in rows

Members need not stand one to a line. A row holds any number of them, and a body of rows is read as
the members of all rows.
-/

namespace TypeLineage.Member

open Text

namespace Written

variable (m : Written)

lemma not_comment_indented (rest : List Char) :
    ¬ "//".toList <+: trimStart (m.indent ++ (m.candidate ++ rest)) := by
  have hhead : ∀ c ∈ (m.candidate ++ rest).head?, isBlank c = false := by
    intro c hc
    rw [candidate, List.append_assoc, List.head?_append_of_ne_nil _ m.name.ne_nil] at hc
    exact m.name.trimmed.head c hc
  have hcomment := m.content.not_comment m.name rest
  rw [trimStart_append_blanks m.indent_blank, trimStart_eq_self hhead,
    ← List.isPrefixOf_iff_prefix, candidate, hcomment]
  simp

end Written

/-- A line of a body. Its last member may stand there without a semicolon. -/
structure Row where
  closed : List Written
  last : Option Written
  tail : List Char
  tail_blank : ∀ c ∈ tail, isBlank c = true
  tail_newline : '\n' ∉ tail

namespace Row

variable (r : Row)

def members : List Written :=
  r.closed ++ r.last.toList

def lastText : List Char :=
  match r.last with
  | none => []
  | some m => m.indent ++ m.candidate

def text : List Char :=
  r.closed.flatMap Written.line ++ (r.lastText ++ r.tail)

lemma newline_not_mem : '\n' ∉ r.text := by
  have hclosed : '\n' ∉ r.closed.flatMap Written.line := by
    intro hmem
    obtain ⟨m, -, hm⟩ := List.mem_flatMap.mp hmem
    exact m.newline_not_mem_line hm
  have hlast : '\n' ∉ r.lastText := by
    unfold lastText
    split
    · exact List.not_mem_nil
    · rename_i m hm
      have hline := m.newline_not_mem_line
      rw [Written.line, ← List.append_assoc, List.mem_append, not_or] at hline
      exact hline.1
  simp only [text, List.mem_append, not_or]
  exact ⟨hclosed, hlast, r.tail_newline⟩

lemma balanced : Balanced r.text := by
  have hclosed : ∀ ms : List Written, Balanced (ms.flatMap Written.line) := by
    intro ms
    induction ms with
    | nil => exact .nil
    | cons m ms ih => exact m.line_balanced.append ih
  have hlast : Balanced r.lastText := by
    unfold lastText
    split
    · exact .nil
    · rename_i m hm
      exact m.indented_balanced
  exact (hclosed r.closed).append (hlast.append (.of_blanks r.tail_blank))

lemma not_comment : ¬ "//".toList <+: trimStart r.text := by
  unfold text lastText
  cases r.closed with
  | cons m ms =>
    rw [List.flatMap_cons, Written.line, List.append_assoc, List.append_assoc, List.append_assoc]
    exact m.not_comment_indented _
  | nil =>
    cases r.last with
    | some m =>
      rw [List.flatMap_nil, List.nil_append, List.append_assoc]
      exact m.not_comment_indented _
    | none =>
      have htail : trimStart r.tail = [] := trimStart_eq_nil_iff.mpr r.tail_blank
      rw [List.flatMap_nil, List.nil_append, List.nil_append, htail]
      decide

lemma foldl_closed (ms : List Written) (finished : List (List Char)) :
    (ms.flatMap Written.line).foldl Cutting.char ⟨finished, [], 0⟩ =
      ⟨(ms.map Written.candidate).reverse ++ finished, [], 0⟩ := by
  induction ms generalizing finished with
  | nil => rfl
  | cons m ms ih =>
    have hm : m.line.foldl Cutting.char ⟨finished, [], 0⟩ = ⟨m.candidate :: finished, [], 0⟩ :=
      m.isCandidate.foldl_char m.indent_blank finished
    rw [List.flatMap_cons, List.foldl_append, hm, ih]
    simp

lemma depth_foldl_last (finished : List (List Char)) :
    ((r.lastText ++ r.tail).foldl Cutting.char ⟨finished, [], 0⟩).depth = 0 := by
  rw [List.foldl_append, Cutting.foldl_char_of_blanks r.tail_blank, lastText]
  cases r.last with
  | none => rfl
  | some m =>
    simp only
    rw [m.isCandidate.foldl_char_open m.indent_blank finished]

lemma flush_foldl_last (finished : List (List Char)) :
    ((r.lastText ++ r.tail).foldl Cutting.char ⟨finished, [], 0⟩).flush =
      ⟨(r.last.map Written.candidate).toList ++ finished, [], 0⟩ := by
  have htail : ∀ c ∈ r.tail.reverse, isBlank c = true :=
    fun c hc => r.tail_blank c (List.mem_reverse.mp hc)
  rw [List.foldl_append, Cutting.foldl_char_of_blanks r.tail_blank, lastText]
  cases r.last with
  | none =>
    have hflush := Cutting.flush_blanks (s := ⟨finished, [], 0⟩) (a := []) (by simp) htail
    exact hflush
  | some m =>
    have hm := m.isCandidate
    have hindent : ∀ c ∈ m.indent.reverse, isBlank c = true :=
      fun c hc => m.indent_blank c (List.mem_reverse.mp hc)
    have hflush := Cutting.flush_blanks (s := ⟨finished, m.candidate.reverse, 0⟩) hindent htail
    simp only
    rw [hm.foldl_char_open m.indent_blank finished, hflush, Cutting.flush]
    simp [hm.trimmed.trim_eq, hm.ne_nil]

theorem cutting_line (finished : List (List Char)) :
    Cutting.line ⟨finished, [], 0⟩ r.text =
      ⟨(r.members.map Written.candidate).reverse ++ finished, [], 0⟩ := by
  have hfold : r.text.foldl Cutting.char ⟨finished, [], 0⟩ =
      (r.lastText ++ r.tail).foldl Cutting.char
        ⟨(r.closed.map Written.candidate).reverse ++ finished, [], 0⟩ := by
    rw [text, List.foldl_append, foldl_closed]
  have hdepth : (r.text.foldl Cutting.char ⟨finished, [], 0⟩).depth = 0 := by
    rw [hfold]
    exact r.depth_foldl_last _
  rw [Cutting.line_eq_flush finished r.not_comment hdepth, hfold, flush_foldl_last, members]
  cases r.last <;> simp

end Row

variable (rows : List Row)

/-- What stands between the braces around rows. -/
def inside : List Char :=
  unlines (rows.map Row.text)

lemma inside_singleton (r : Row) : inside [r] = r.text := by
  rw [inside, List.map_singleton, unlines, List.intercalate_singleton]

lemma inside_cons (r : Row) {rows : List Row} (hrows : rows ≠ []) :
    inside (r :: rows) = r.text ++ '\n' :: inside rows := by
  rw [inside, List.map_cons, unlines_cons _ (by simpa using hrows), inside]

lemma exists_of_newline_mem_inside {rows : List Row} (h : '\n' ∈ inside rows) :
    ∃ r more, rows = r :: more ∧ inside rows = r.text ++ '\n' :: inside more := by
  cases rows with
  | nil => simp [inside, unlines] at h
  | cons r more =>
    have hmore : more ≠ [] := by
      rintro rfl
      rw [inside_singleton] at h
      exact r.newline_not_mem h
    exact ⟨r, more, rfl, inside_cons r hmore⟩

lemma inside_balanced : Balanced (inside rows) := by
  refine .unlines trivial fun l hl => ?_
  obtain ⟨r, -, rfl⟩ := List.mem_map.mp hl
  exact r.balanced

theorem fields_inside : (candidates (inside rows)).filterMap field? =
    (rows.flatMap Row.members).map Written.field := by
  have hcandidates : candidates (inside rows) =
      (rows.flatMap Row.members).map Written.candidate := by
    rw [inside, List.map_flatMap]
    exact candidates_of_rows (fun r _ => r.newline_not_mem) fun r _ => r.cutting_line
  have hfield : field? ∘ Written.candidate = some ∘ Written.field := by
    funext m
    exact m.field?_candidate
  rw [hcandidates, List.filterMap_map, hfield, List.filterMap_eq_map]

end TypeLineage.Member
