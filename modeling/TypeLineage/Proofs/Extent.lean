import Mathlib.Data.List.Basic
import Mathlib.Tactic.Common
import TypeLineage.Declaration.Scan
import TypeLineage.Proofs.Lines
import TypeLineage.Proofs.Scan

/-!
# The end of a declaration

A declaration ends on the line of the brace that closes all its braces. The rest of that line is taken
in with it.
-/

namespace TypeLineage.Declaration

open Text

variable {first : List Char} {rest : List (List Char)}

lemma countBraces_flatten (ls : List (List Char)) (depth : Int) (entered : Bool) :
    countBraces depth entered ls.flatten = countBraces depth entered (unlines ls) := by
  induction ls generalizing depth entered with
  | nil => rfl
  | cons l ls ih =>
    by_cases hls : ls = []
    · subst hls
      simp [unlines]
    · have hnewline : ∀ (depth : Int) (entered : Bool) (s : List Char),
          countBraces depth entered ('\n' :: s) = countBraces depth entered s := fun _ _ _ => rfl
      rw [unlines_cons l hls, List.flatten_cons, countBraces_append, countBraces_append]
      simp only [ih, hnewline]

lemma countBraces_of_extent (h : (extent first rest).text.isSome) :
    countBraces 0 false (unlines (first :: rest)) = none := by
  rw [← countBraces_flatten, List.flatten_cons, countBraces_eq_none_iff]
  exact (extent_isSome_iff.mp h).2

section Closing

variable {above below : List (List Char)} {p q : List Char}

lemma gather_of_closing {depth : Int}
    (h : countBraces depth true (above.flatten ++ p) = some (1, true))
    (kept : List (List Char)) (used : Nat) :
    gather depth true kept used (above ++ (p ++ '}' :: q) :: below) =
      ⟨some (unlines (kept.reverse ++ (above ++ [p ++ '}' :: q]))), used + above.length + 1⟩ := by
  induction above generalizing depth kept used with
  | nil =>
    have hclose : countBraces depth true (p ++ '}' :: q) = none := countBraces_close h q
    rw [List.nil_append, gather, hclose]
    simp
  | cons l above ih =>
    rw [List.flatten_cons, List.append_assoc, countBraces_append] at h
    obtain ⟨state, hl, hrest⟩ := Option.bind_eq_some_iff.mp h
    have hentered : state.2 = true := by
      by_contra hne
      have hfalse := (entered_of_countBraces hl).mp (by simpa using hne)
      cases hfalse.1
    obtain ⟨depth', entered'⟩ := state
    simp only at hentered
    subst hentered
    rw [List.cons_append, gather, hl]
    simp only [Bool.not_true, Bool.false_and, Bool.false_eq_true, if_false]
    have hused : used + 1 + above.length + 1 = used + (l :: above).length + 1 := by
      rw [List.length_cons]
      omega
    rw [ih hrest, hused, List.reverse_cons, List.append_assoc]
    rfl

/-- Where a text opens a brace on its first line and a brace behind it closes, a declaration takes in
the text and the rest of the line of that brace. -/
theorem extent_of_closing {a b : List Char} (ha : countBraces 0 false a = some (1, true))
    (hlines : lines (a ++ '}' :: b) = first :: rest) (hfirst : '{' ∈ first)
    (hb : lines b = q :: below) :
    extent first rest = ⟨some (a ++ '}' :: q), a.count '\n' + 1⟩ ∧
      rest.drop (a.count '\n') = below := by
  obtain ⟨above, p, hp⟩ := exists_lines_eq_concat a
  have hclose := lines_append_of hp (lines_cons (by decide : '}' ≠ '\n') hb)
  have hlength : above.length = a.count '\n' := by
    have hcount := length_lines a
    rw [hp, List.length_append, List.length_singleton] at hcount
    omega
  have htext : unlines (above ++ [p ++ '}' :: q]) = a ++ '}' :: q := by
    rw [unlines_append_right, ← hp, unlines_lines]
  have hflatten : countBraces 0 false (above.flatten ++ p) = some (1, true) := by
    rw [← ha, ← unlines_lines a, hp, ← countBraces_flatten]
    simp
  rw [hlines] at hclose
  rw [← htext, ← hlength]
  cases above with
  | nil =>
    obtain ⟨rfl, rfl⟩ := List.cons.inj hclose
    have hnone : countBraces 0 false (p ++ '}' :: q) = none := countBraces_close hflatten q
    rw [extent, hnone, List.nil_append, unlines, List.intercalate_singleton]
    exact ⟨rfl, rfl⟩
  | cons l above =>
    rw [List.cons_append] at hclose
    obtain ⟨rfl, rfl⟩ := List.cons.inj hclose
    rw [List.flatten_cons, List.append_assoc, countBraces_append] at hflatten
    obtain ⟨⟨depth, entered⟩, hl, hrest⟩ := Option.bind_eq_some_iff.mp hflatten
    have hentered : entered = true := by
      by_contra hne
      have hfalse := (entered_of_countBraces hl).mp (by simpa using hne)
      exact hfalse.2 hfirst
    subst hentered
    have hused : 1 + above.length + 1 = (first :: above).length + 1 := by
      rw [List.length_cons]
      omega
    have hsplit : above ++ (p ++ '}' :: q) :: below = (above ++ [p ++ '}' :: q]) ++ below := by
      simp
    rw [extent, hl]
    simp only
    rw [gather_of_closing hrest, hused, hsplit, List.drop_left' (by simp)]
    exact ⟨rfl, rfl⟩

end Closing

end TypeLineage.Declaration
