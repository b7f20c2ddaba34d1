import Mathlib.Data.List.Basic
import Mathlib.Data.List.TakeWhile
import Mathlib.Tactic.Common
import TypeLineage.Declaration.Scan
import TypeLineage.Proofs.Text

/-!
# The text of a declaration

What cleaning leaves of a text, and the parent that is read at its beginning. What stands behind a
character that can be no part of the parent has no say in it.
-/

namespace TypeLineage.Declaration

open Text

variable {s name : List Char} {c : Char}

lemma infix_trim (s : List Char) : trim s <:+: s := by
  obtain ⟨a, b, heq, -, -⟩ := exists_append_trim s
  exact ⟨a, b, by rw [List.append_assoc, ← heq]⟩

lemma infix_clean (text : List Char) : clean text <:+: text := by
  rw [clean]
  split
  · exact (infix_trim _).trans ((List.dropLast_prefix _).isInfix.trans (infix_trim text))
  · exact infix_trim text

lemma exists_clean_append_cons (hc : isBlank c = false) (hsemicolon : c ≠ ';')
    (s rest : List Char) : ∃ rest', clean (s ++ c :: rest) = trimStart s ++ c :: rest' := by
  rw [clean, trim_append_cons hc]
  split
  · rename_i hlast
    cases htail : trimEnd rest with
    | nil =>
      have heq : c = ';' := by simpa [htail] using hlast
      exact absurd heq hsemicolon
    | cons d tail =>
      refine ⟨trimEnd (d :: tail).dropLast, ?_⟩
      rw [List.dropLast_append_of_ne_nil (List.cons_ne_nil _ _), List.dropLast_cons_of_ne_nil
        (List.cons_ne_nil _ _), trim_append_cons hc, trimStart_eq_self (trimStart_head s)]
  · exact ⟨_, rfl⟩

lemma exists_of_parent? (h : parent? s = some name) : ∃ (w : Word) (blanks rest : List Char),
    name = w.chars ∧ s = w.chars ++ (blanks ++ '&' :: rest) ∧ ∀ c ∈ blanks, isBlank c = true := by
  rw [parent?] at h
  split at h
  · rename_i c cs rest hname hrest
    obtain ⟨w, hw⟩ := exists_word_of_takeWhile (s := s) (by simp [hname])
    refine ⟨w, (s.dropWhile isWord).takeWhile isBlank, rest, (Option.some.inj h).symm.trans hw, ?_,
      fun c hc => List.mem_takeWhile_imp hc⟩
    rw [← hrest, trimStart, List.takeWhile_append_dropWhile, ← hw, List.takeWhile_append_dropWhile]
  · cases h

lemma parent?_append (w : Word) {blanks : List Char} (hb : ∀ c ∈ blanks, isBlank c = true)
    (rest : List Char) :
    parent? (w.chars ++ (blanks ++ '&' :: rest)) = some w.chars := by
  have hhead : ∀ c ∈ (blanks ++ '&' :: rest).head?, isWord c = false := by
    intro c hc
    by_contra hw
    have hword : isWord c = true := by simpa using hw
    cases blanks with
    | nil =>
      obtain rfl : '&' = c := by simpa using hc
      revert hword
      decide
    | cons d blanks =>
      obtain rfl : d = c := by simpa using hc
      have hblank := hb d List.mem_cons_self
      rw [not_isBlank_of_isWord hword] at hblank
      cases hblank
  have hrest : trimStart (blanks ++ '&' :: rest) = '&' :: rest := by
    rw [trimStart_append_blanks hb]
    rfl
  obtain ⟨c, cs, hchars⟩ := List.exists_cons_of_ne_nil w.ne_nil
  unfold parent?
  rw [w.takeWhile_append hhead, w.dropWhile_append hhead, hrest, hchars]
  rfl

lemma parent?_append_cons (hword : isWord c = false) (hblank : isBlank c = false) (hc : c ≠ '&')
    (s rest rest' : List Char) : parent? (s ++ c :: rest) = parent? (s ++ c :: rest') := by
  have hmono : ∀ {rest rest' name : List Char}, parent? (s ++ c :: rest) = some name →
      parent? (s ++ c :: rest') = some name := by
    intro rest rest' name h
    obtain ⟨w, blanks, later, rfl, hs, hblanks⟩ := exists_of_parent? h
    have hnot : c ∉ w.chars ++ (blanks ++ ['&']) := by
      have hchars : c ∉ w.chars := w.not_mem hword
      have hblanks' : c ∉ blanks := by
        intro hmem
        rw [hblanks c hmem] at hblank
        cases hblank
      simp [hchars, hblanks', hc]
    have hp : w.chars ++ (blanks ++ ['&']) <+: s ++ c :: rest := by
      rw [hs]
      exact ⟨later, by simp⟩
    obtain ⟨t, rfl⟩ := prefix_of_prefix_append_cons hnot hp
    have happ : w.chars ++ (blanks ++ ['&']) ++ t ++ c :: rest' =
        w.chars ++ (blanks ++ '&' :: (t ++ c :: rest')) := by simp
    rw [happ]
    exact parent?_append w hblanks _
  apply Option.ext
  intro name
  exact ⟨hmono, hmono⟩

lemma parent_ofText (hword : isWord c = false) (hblank : isBlank c = false) (hc : c ∉ ['&', ';'])
    (name s rest rest' : List Char) (line : Nat) (file : String) :
    (ofText name (s ++ c :: rest) line file).parent =
      (ofText name (s ++ c :: rest') line file).parent := by
  simp only [List.mem_cons, List.not_mem_nil, or_false, not_or] at hc
  obtain ⟨t, ht⟩ := exists_clean_append_cons hblank hc.2 s rest
  obtain ⟨t', ht'⟩ := exists_clean_append_cons hblank hc.2 s rest'
  simp only [ofText, ht, ht', parent?_append_cons hword hblank hc.1 (trimStart s) t t']

end TypeLineage.Declaration
