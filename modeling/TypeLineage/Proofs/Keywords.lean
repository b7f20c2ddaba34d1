import Mathlib.Data.List.Basic
import Mathlib.Data.List.Infix
import Mathlib.Tactic.Common
import TypeLineage.Proofs.Edges
import TypeLineage.Proofs.Header

/-!
# The words of a header

A header begins with two words that have only blanks between them. The search for a header passes over
a text in which these words do not stand, up to a character that can be no part of them.
-/

namespace TypeLineage.Header

open Text

variable {s t b before rest : List Char} {c : Char}

/-- The two first words of a header, with blanks between them. -/
def keywords (blanks : List Char) : List Char :=
  "export".toList ++ (blanks ++ "type".toList)

/-- Somewhere in the text stand the words of a header. -/
def Announces (s : List Char) : Prop :=
  ∃ blanks, blanks ≠ [] ∧ (∀ c ∈ blanks, isBlank c = true) ∧ keywords blanks <:+: s

lemma Announces.of_infix (h : Announces s) (hst : s <:+: t) : Announces t := by
  obtain ⟨blanks, hne, hblank, hwords⟩ := h
  exact ⟨blanks, hne, hblank, hwords.trans hst⟩

lemma keywords_of_here? {header : List Char × List Char} (h : here? s = some header) :
    ∃ blanks, blanks ≠ [] ∧ (∀ c ∈ blanks, isBlank c = true) ∧ keywords blanks <+: s := by
  rw [here?_eq] at h
  obtain ⟨s₁, hs₁, h⟩ := Option.bind_eq_some_iff.mp h
  obtain ⟨s₂, hs₂, h⟩ := Option.bind_eq_some_iff.mp h
  obtain ⟨s₃, hs₃, -⟩ := Option.bind_eq_some_iff.mp h
  have hexport := List.isPrefixOf?_eq_some_iff_append_eq.mp hs₁
  have htype := List.isPrefixOf?_eq_some_iff_append_eq.mp hs₃
  obtain ⟨blanks, rfl, hne, hblanks⟩ := exists_of_afterBlanks? hs₂
  refine ⟨blanks, hne, hblanks, s₃, ?_⟩
  unfold keywords
  simp only [List.append_assoc, htype, hexport]

lemma not_mem_keywords {blanks : List Char} (hblanks : ∀ c ∈ blanks, isBlank c = true)
    (hword : isWord c = false) (hblank : isBlank c = false) : c ∉ keywords blanks := by
  intro hmem
  unfold keywords at hmem
  simp only [List.mem_append] at hmem
  rcases hmem with hmem | hmem | hmem
  · rw [isWord_of_mem_export c hmem] at hword
    cases hword
  · rw [hblanks c hmem] at hblank
    cases hblank
  · rw [isWord_of_mem_type c hmem] at hword
    cases hword

lemma Announces.of_append_blanks (h : Announces (s ++ b)) (hb : ∀ c ∈ b, isBlank c = true) :
    Announces s := by
  obtain ⟨blanks, hne, hblanks, before, after, heq⟩ := h
  have htype : "type".toList ≠ [] := by decide
  have hlast : (before ++ keywords blanks).getLast? = some 'e' := by
    unfold keywords
    rw [← List.append_assoc, ← List.append_assoc, List.getLast?_append_of_ne_nil _ htype]
    decide
  refine ⟨blanks, hne, hblanks, ?_⟩
  rcases List.append_eq_append_iff.mp heq with ⟨z, rfl, -⟩ | ⟨z, hz, rfl⟩
  · exact ⟨before, z, rfl⟩
  · by_cases hnil : z = []
    · subst hnil
      exact ⟨before, [], by simpa using hz⟩
    · rw [hz, List.getLast?_append_of_ne_nil _ hnil] at hlast
      have hblank := hb _ (List.mem_append_left _ (List.mem_of_getLast? hlast))
      cases hblank

/-- What stands behind the text has the same header as both together. -/
def Passed (before : List Char) : Prop :=
  ∀ rest, find? (before ++ rest) = find? rest

namespace Passed

lemma nil : Passed [] := fun _ => rfl

lemma append (hs : Passed s) (ht : Passed t) : Passed (s ++ t) := by
  intro rest
  rw [List.append_assoc, hs, ht]

lemma blanks (hb : ∀ c ∈ b, isBlank c = true) : Passed b :=
  find?_blanks_append hb

lemma singleton (hc : c ≠ 'e') : Passed [c] := by
  intro rest
  have hnone : here? (c :: rest) = none := by
    apply here?_eq_none
    intro hp
    exact hc (List.cons_prefix_cons.mp hp).1.symm
  rw [List.singleton_append, find?, hnone]

lemma find?_eq_none (hs : Passed s) : find? s = none := by
  have hnil := hs []
  rwa [List.append_nil] at hnil

/-- A text without the words of a header is passed over, up to a character that is no part of them. -/
theorem of_not_announces (hs : ¬ Announces s) (hb : ∀ c ∈ b, isBlank c = true)
    (hword : isWord c = false) (hblank : isBlank c = false) : Passed (s ++ (b ++ [c])) := by
  have hne : c ≠ 'e' := by
    rintro rfl
    cases hword
  intro rest
  induction s with
  | nil => exact (Passed.blanks hb).append (.singleton hne) rest
  | cons d s ih =>
    have hnone : here? (d :: s ++ (b ++ [c]) ++ rest) = none := by
      rw [Option.eq_none_iff_forall_ne_some]
      intro header hheader
      obtain ⟨blanks, hne, hblanks, hp⟩ := keywords_of_here? hheader
      have happ : d :: s ++ (b ++ [c]) ++ rest = (d :: s ++ b) ++ c :: rest := by simp
      rw [happ] at hp
      have hwithin := prefix_of_prefix_append_cons (not_mem_keywords hblanks hword hblank) hp
      have hannounced : Announces (d :: s ++ b) := ⟨blanks, hne, hblanks, hwithin.isInfix⟩
      exact hs (hannounced.of_append_blanks hb)
    rw [List.cons_append, List.cons_append, find?, ← List.cons_append, ← List.cons_append, hnone]
    exact ih fun h => hs (h.of_infix (List.suffix_cons d s).isInfix)

end Passed

lemma find?_of_not_announces (hs : ¬ Announces s) : find? s = none := by
  induction s with
  | nil => rfl
  | cons d s ih =>
    have hnone : here? (d :: s) = none := by
      rw [Option.eq_none_iff_forall_ne_some]
      intro header hheader
      obtain ⟨blanks, hne, hblanks, hp⟩ := keywords_of_here? hheader
      exact hs ⟨blanks, hne, hblanks, hp.isInfix⟩
    rw [find?, hnone]
    exact ih fun h => hs (h.of_infix (List.suffix_cons d s).isInfix)

lemma Passed.find?_text (h : Passed before) (name : Word) (rest : List Char) :
    find? (before ++ (text name ++ rest)) = some (name.chars, rest) := by
  have hnone : ¬ "export".toList <:+: [] := by decide
  rw [h]
  exact Header.find?_text hnone name rest

end TypeLineage.Header
