import Mathlib.Data.List.Basic
import Mathlib.Tactic.Common
import TypeLineage.Proofs.Text

/-!
# Lines of joined texts

Where two texts meet, the last line of the one and the first line of the other become one line.
-/

namespace TypeLineage.Text

variable {s t l : List Char} {c : Char}

lemma lines_newline_cons (s : List Char) : lines ('\n' :: s) = [] :: lines s := rfl

lemma lines_cons {q : List Char} {below : List (List Char)} (hc : c ≠ '\n')
    (hs : lines s = q :: below) : lines (c :: s) = (c :: q) :: below :=
  (cut_cons c hs).trans (if_neg hc)

lemma exists_lines_eq_cons (s : List Char) : ∃ q below, lines s = q :: below :=
  exists_cut_eq_cons '\n' s

lemma lines_ne_nil (s : List Char) : lines s ≠ [] :=
  List.ne_nil_iff_exists_cons.mpr (exists_lines_eq_cons s)

theorem exists_lines_append (s t : List Char) : ∃ above p q below, lines s = above ++ [p] ∧
    lines t = q :: below ∧ lines (s ++ t) = above ++ (p ++ q) :: below := by
  induction s with
  | nil =>
    obtain ⟨q, below, ht⟩ := exists_lines_eq_cons t
    exact ⟨[], [], q, below, rfl, ht, ht⟩
  | cons c s ih =>
    obtain ⟨above, p, q, below, hs, ht, hst⟩ := ih
    by_cases hc : c = '\n'
    · subst hc
      refine ⟨[] :: above, p, q, below, ?_, ht, ?_⟩
      · rw [lines_newline_cons, hs, List.cons_append]
      · rw [List.cons_append, lines_newline_cons, hst, List.cons_append]
    · cases above with
      | nil => exact ⟨[], c :: p, q, below, lines_cons hc hs, ht, lines_cons hc hst⟩
      | cons a above =>
        exact ⟨(c :: a) :: above, p, q, below, lines_cons hc hs, ht, lines_cons hc hst⟩

lemma exists_lines_eq_concat (s : List Char) : ∃ above p, lines s = above ++ [p] := by
  obtain ⟨above, p, -, -, hs, -, -⟩ := exists_lines_append s []
  exact ⟨above, p, hs⟩

lemma lines_append_of {above below : List (List Char)} {p q : List Char}
    (hs : lines s = above ++ [p]) (ht : lines t = q :: below) :
    lines (s ++ t) = above ++ (p ++ q) :: below := by
  obtain ⟨above', p', q', below', hs', ht', hst⟩ := exists_lines_append s t
  rw [hs] at hs'
  rw [ht] at ht'
  obtain ⟨rfl, hp⟩ := List.append_inj' hs' rfl
  obtain rfl := List.singleton_inj.mp hp
  obtain ⟨rfl, rfl⟩ := List.cons.inj ht'
  exact hst

lemma lines_eq_singleton (hs : '\n' ∉ s) : lines s = [s] := by
  have hlines := lines_unlines (List.cons_ne_nil s []) (by simpa using hs)
  rwa [unlines, List.intercalate_singleton] at hlines

lemma newline_not_mem_of_mem_lines (hl : l ∈ lines s) : '\n' ∉ l :=
  separator_not_mem_of_mem_cut hl

lemma lines_append_of_newline_not_mem (hs : '\n' ∉ s) {q : List Char} {below : List (List Char)}
    (ht : lines t = q :: below) : lines (s ++ t) = (s ++ q) :: below :=
  lines_append_of (show lines s = [] ++ [s] from lines_eq_singleton hs) ht

lemma lines_concat_of {above : List (List Char)} {p : List Char} (hs : lines s = above ++ [p])
    (ht : '\n' ∉ t) : lines (s ++ t) = above ++ [p ++ t] :=
  lines_append_of hs (lines_eq_singleton ht)

lemma tail_lines_append (hs : '\n' ∉ s) (t : List Char) :
    (lines (s ++ t)).tail = (lines t).tail := by
  obtain ⟨q, below, ht⟩ := exists_lines_eq_cons t
  rw [lines_append_of_newline_not_mem hs ht, ht]
  rfl

lemma lines_append_newline (hs : '\n' ∉ s) (t : List Char) :
    lines (s ++ '\n' :: t) = s :: lines t := by
  rw [lines_append, lines_eq_singleton hs, List.singleton_append]

lemma count_append_newline (hs : '\n' ∉ s) (t : List Char) :
    (s ++ '\n' :: t).count '\n' = t.count '\n' + 1 := by
  rw [List.count_append, List.count_cons_self, List.count_eq_zero.mpr hs, Nat.zero_add]

lemma length_lines (s : List Char) : (lines s).length = s.count '\n' + 1 := by
  induction s with
  | nil => rfl
  | cons c s ih =>
    by_cases hc : c = '\n'
    · subst hc
      rw [lines_newline_cons, List.length_cons, ih, List.count_cons_self]
    · obtain ⟨q, below, hs⟩ := exists_lines_eq_cons s
      rw [hs] at ih
      rw [lines_cons hc hs, List.count_cons_of_ne hc, ← ih]
      rfl

lemma unlines_append {ls ks : List (List Char)} (hls : ls ≠ []) (hks : ks ≠ []) :
    unlines (ls ++ ks) = unlines ls ++ '\n' :: unlines ks := by
  induction ls with
  | nil => exact absurd rfl hls
  | cons l ls ih =>
    by_cases hnil : ls = []
    · subst hnil
      rw [List.singleton_append, unlines_cons l hks, unlines.eq_1 [l], List.intercalate_singleton]
    · have hne : ls ++ ks ≠ [] := List.append_ne_nil_of_left_ne_nil hnil ks
      rw [List.cons_append, unlines_cons l hne, unlines_cons l hnil, ih hnil, List.append_assoc,
        List.cons_append]

lemma unlines_append_cons (above : List (List Char)) (p q : List Char)
    (below : List (List Char)) :
    unlines (above ++ (p ++ q) :: below) = unlines (above ++ [p]) ++ unlines (q :: below) := by
  induction above with
  | nil =>
    rw [List.nil_append, List.nil_append, unlines_append_left, unlines, unlines,
      List.intercalate_singleton]
  | cons l above ih =>
    rw [List.cons_append, List.cons_append, unlines_cons l (by simp), unlines_cons l (by simp), ih]
    simp

end TypeLineage.Text
