import Mathlib.Data.List.Basic
import Mathlib.Tactic.Common
import TypeLineage.Declaration.Scan

/-!
# Counting braces

The counter of the scanner runs over the pieces of a text one after the other. It stops at the first
closing brace that brings the count back to zero after some brace has been opened.
-/

namespace TypeLineage.Declaration

variable {depth : Int} {entered : Bool} {c : Char} {s : List Char}

lemma countBraces_append (s t : List Char) (depth : Int) (entered : Bool) :
    countBraces depth entered (s ++ t) =
      (countBraces depth entered s).bind fun state => countBraces state.1 state.2 t := by
  induction s generalizing depth entered with
  | nil => rfl
  | cons c s ih =>
    rw [List.cons_append, countBraces, countBraces]
    split
    · exact ih _ _
    · split
      · split
        · rfl
        · exact ih _ _
      · exact ih _ _

lemma countBraces_braceless (hopen : '{' ∉ s) (hclose : '}' ∉ s) (depth : Int) (entered : Bool) :
    countBraces depth entered s = some (depth, entered) := by
  induction s with
  | nil => rfl
  | cons c s ih =>
    simp only [List.mem_cons, not_or] at hopen hclose
    rw [countBraces, if_neg (Ne.symm hopen.1), if_neg (Ne.symm hclose.1), ih hopen.2 hclose.2]

lemma countBraces_front {front : List Char} (hopen : '{' ∉ front) (hclose : '}' ∉ front)
    (back : List Char) : countBraces 0 false (front ++ '{' :: back) = countBraces 1 true back := by
  rw [countBraces_append, countBraces_braceless hopen hclose, Option.bind_some, countBraces,
    if_pos rfl]
  rfl

lemma countBraces_close {p : List Char} (h : countBraces depth entered p = some (1, true))
    (q : List Char) : countBraces depth entered (p ++ '}' :: q) = none := by
  rw [countBraces_append, h]
  rfl

lemma exists_of_countBraces_eq_none (h : countBraces depth entered s = none) :
    ∃ p q, s = p ++ '}' :: q ∧ countBraces depth entered p = some (1, true) := by
  induction s generalizing depth entered with
  | nil => cases h
  | cons c s ih =>
    rw [countBraces] at h
    split at h
    · rename_i hopen
      obtain ⟨p, q, rfl, hp⟩ := ih h
      exact ⟨c :: p, q, rfl, by rw [countBraces, if_pos hopen, hp]⟩
    · rename_i hopen
      split at h
      · rename_i hclose
        split at h
        · rename_i hlast
          rw [Bool.and_eq_true, beq_iff_eq, Int.sub_eq_zero] at hlast
          exact ⟨[], s, by rw [hclose]; rfl, by rw [hlast.1, hlast.2]; rfl⟩
        · rename_i hlast
          obtain ⟨p, q, rfl, hp⟩ := ih h
          exact ⟨c :: p, q, rfl, by rw [countBraces, if_neg hopen, if_pos hclose, if_neg hlast, hp]⟩
      · rename_i hclose
        obtain ⟨p, q, rfl, hp⟩ := ih h
        exact ⟨c :: p, q, rfl, by rw [countBraces, if_neg hopen, if_neg hclose, hp]⟩

/-- Some prefix of the text opens a brace, if none was open before, and closes all of them. -/
def Closes (depth : Int) (entered : Bool) (s : List Char) : Prop :=
  ∃ inside, inside ++ ['}'] <+: s ∧ (entered = true ∨ '{' ∈ inside) ∧
    depth + inside.count '{' = inside.count '}' + 1

lemma not_closes_nil : ¬ Closes depth entered [] := by
  rintro ⟨inside, hp, -⟩
  simpa using List.prefix_nil.mp hp

lemma closes_cons_iff : Closes depth entered (c :: s) ↔
    (c = '}' ∧ entered = true ∧ depth = 1) ∨
      ∃ inside, inside ++ ['}'] <+: s ∧ (entered = true ∨ '{' ∈ c :: inside) ∧
        depth + (c :: inside).count '{' = (c :: inside).count '}' + 1 := by
  constructor
  · rintro ⟨inside, hp, hentered, hcount⟩
    cases inside with
    | nil =>
      have hc : '}' = c := by simpa using (List.cons_prefix_cons.mp hp).1
      exact .inl ⟨hc.symm, by simpa using hentered, by simpa using hcount⟩
    | cons d inside =>
      rw [List.cons_append, List.cons_prefix_cons] at hp
      obtain ⟨rfl, hp⟩ := hp
      exact .inr ⟨inside, hp, hentered, hcount⟩
  · rintro (⟨rfl, hentered, hdepth⟩ | ⟨inside, hp, hentered, hcount⟩)
    · exact ⟨[], ⟨s, rfl⟩, .inl hentered, by simpa using hdepth⟩
    · exact ⟨c :: inside, by simpa using hp, hentered, hcount⟩

lemma closes_open_iff : Closes depth entered ('{' :: s) ↔ Closes (depth + 1) true s := by
  have hcount : ∀ inside : List Char,
      depth + ('{' :: inside).count '{' = ('{' :: inside).count '}' + 1 ↔
        depth + 1 + inside.count '{' = inside.count '}' + 1 := by
    intro inside
    rw [List.count_cons_self, List.count_cons_of_ne (by decide)]
    omega
  rw [closes_cons_iff, Closes]
  simp only [hcount]
  simp

lemma closes_close_iff : Closes depth entered ('}' :: s) ↔
    (entered = true ∧ depth = 1) ∨ Closes (depth - 1) entered s := by
  have hcount : ∀ inside : List Char,
      depth + ('}' :: inside).count '{' = ('}' :: inside).count '}' + 1 ↔
        depth - 1 + inside.count '{' = inside.count '}' + 1 := by
    intro inside
    rw [List.count_cons_self, List.count_cons_of_ne (by decide)]
    omega
  rw [closes_cons_iff, Closes]
  simp only [hcount]
  simp

lemma closes_other_iff (hopen : c ≠ '{') (hclose : c ≠ '}') :
    Closes depth entered (c :: s) ↔ Closes depth entered s := by
  rw [closes_cons_iff, Closes]
  simp [List.count_cons_of_ne, hopen, hclose, Ne.symm hopen]

/-- The counter stops exactly where all braces have been closed again. -/
theorem countBraces_eq_none_iff :
    countBraces depth entered s = none ↔ Closes depth entered s := by
  induction s generalizing depth entered with
  | nil => simp [countBraces, not_closes_nil]
  | cons c s ih =>
    rw [countBraces]
    by_cases hopen : c = '{'
    · subst hopen
      rw [if_pos rfl, ih, closes_open_iff]
    · by_cases hclose : c = '}'
      · subst hclose
        rw [if_neg hopen, if_pos rfl, closes_close_iff]
        by_cases hlast : entered = true ∧ depth = 1
        · simp [hlast]
        · have hcond : ¬ (entered && depth - 1 == 0) = true := by
            intro h
            rw [Bool.and_eq_true, beq_iff_eq] at h
            exact hlast ⟨h.1, Int.sub_eq_zero.mp h.2⟩
          rw [if_neg hcond, ih, or_iff_right hlast]
      · rw [if_neg hopen, if_neg hclose, ih, closes_other_iff hopen hclose]

lemma entered_of_countBraces {depth' : Int} {entered' : Bool}
    (h : countBraces depth entered s = some (depth', entered')) :
    entered' = false ↔ entered = false ∧ '{' ∉ s := by
  induction s generalizing depth entered with
  | nil =>
    obtain ⟨-, rfl⟩ : depth = depth' ∧ entered = entered' := by simpa [countBraces] using h
    simp
  | cons c s ih =>
    rw [countBraces] at h
    split at h
    · rename_i hopen
      simp [ih h, hopen]
    · rename_i hopen
      split at h
      · split at h
        · simp at h
        · simp [ih h, Ne.symm hopen]
      · simp [ih h, Ne.symm hopen]

lemma mem_of_countBraces_eq_none (h : countBraces depth false s = none) : '{' ∈ s := by
  obtain ⟨inside, hp, hentered, -⟩ := countBraces_eq_none_iff.mp h
  have hmem : '{' ∈ inside := by simpa using hentered
  exact hp.subset (List.mem_append_left _ hmem)

end TypeLineage.Declaration
