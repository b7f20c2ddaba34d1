import Mathlib.Data.List.Basic
import Mathlib.Tactic.Common
import TypeLineage.Declaration.Header
import TypeLineage.Proofs.Text

/-!
# Reading a declaration header

A header is found behind any text that does not mention its first word. What is found in any text is
a word and the end of the text.
-/

namespace TypeLineage.Header

open Text

/-- The header of a declaration without parameters, up to its equals sign. -/
def text (name : Word) : List Char :=
  "export".toList ++ (' ' :: ("type".toList ++ (' ' :: (name.chars ++ " =".toList))))

lemma isWord_of_mem_export : ∀ c ∈ "export".toList, isWord c = true :=
  List.all_eq_true.mp (by decide)

lemma isWord_of_mem_type : ∀ c ∈ "type".toList, isWord c = true :=
  List.all_eq_true.mp (by decide)

lemma isPrefixOf?_append (s t : List Char) : s.isPrefixOf? (s ++ t) = some t :=
  List.isPrefixOf?_eq_some_iff_append_eq.mpr rfl

lemma afterBlanks?_append {b s : List Char} (hb : ∀ c ∈ b, isBlank c = true) (hne : b ≠ [])
    (hs : ∀ c ∈ s.head?, isBlank c = false) : afterBlanks? (b ++ s) = some s := by
  obtain ⟨c, b, rfl⟩ := List.exists_cons_of_ne_nil hne
  rw [List.forall_mem_cons] at hb
  rw [List.cons_append, afterBlanks?, if_pos hb.1, trimStart_append_blanks hb.2,
    trimStart_eq_self hs]

/-- The header of a declaration up to its name. -/
def beginning (name : Word) : List Char :=
  "export".toList ++ (' ' :: ("type".toList ++ (' ' :: name.chars)))

lemma text_eq (name : Word) : text name = beginning name ++ " =".toList := by
  unfold text beginning
  simp only [List.append_assoc, List.cons_append]

lemma newline_not_mem_beginning (name : Word) : '\n' ∉ beginning name := by
  have hname : '\n' ∉ name.chars := name.not_mem (by decide)
  unfold beginning
  simp [hname]

lemma newline_not_mem_text (name : Word) : '\n' ∉ text name := by
  rw [text_eq, List.mem_append, not_or]
  exact ⟨newline_not_mem_beginning name, by decide⟩

/-- Behind the name no word character follows, so the name ends there. -/
lemma here?_named {b₁ b₂ rest : List Char} (hb₁ : ∀ c ∈ b₁, isBlank c = true) (hne₁ : b₁ ≠ [])
    (hb₂ : ∀ c ∈ b₂, isBlank c = true) (hne₂ : b₂ ≠ []) (name : Word)
    (hrest : ∀ c ∈ rest.head?, isWord c = false) :
    here? ("export".toList ++ (b₁ ++ ("type".toList ++ (b₂ ++ (name.chars ++ rest))))) =
      (afterName? rest).map fun body => (name.chars, body) := by
  have hname : ∀ c ∈ (name.chars ++ rest).head?, isBlank c = false := by
    intro c hc
    rw [List.head?_append_of_ne_nil _ name.ne_nil] at hc
    exact name.trimmed.head c hc
  have htype : ∀ s, ∀ c ∈ ("type".toList ++ s).head?, isBlank c = false := by
    intro s c hc
    obtain rfl : 't' = c := by simpa using hc
    decide
  unfold here?
  rw [isPrefixOf?_append, Option.bind_eq_bind, Option.bind_some,
    afterBlanks?_append hb₁ hne₁ (htype _), Option.bind_some]
  rw [isPrefixOf?_append, Option.bind_some, afterBlanks?_append hb₂ hne₂ hname, Option.bind_some]
  rw [name.takeWhile_append hrest, name.dropWhile_append hrest]
  simp only [name.isEmpty_eq]
  cases afterName? rest <;> rfl

lemma here?_beginning (name : Word) {rest : List Char} (hrest : ∀ c ∈ rest.head?, isWord c = false) :
    here? (beginning name ++ rest) = (afterName? rest).map fun body => (name.chars, body) := by
  have hspace : [' '] ≠ [] := List.cons_ne_nil _ _
  have hnamed := here?_named isBlank_of_mem_space hspace isBlank_of_mem_space hspace name hrest
  have happ : beginning name ++ rest =
      "export".toList ++ ([' '] ++ ("type".toList ++ ([' '] ++ (name.chars ++ rest)))) := by
    unfold beginning
    simp only [List.append_assoc, List.cons_append, List.nil_append]
  rw [happ, hnamed]

lemma here?_text (name : Word) (rest : List Char) :
    here? (text name ++ rest) = some (name.chars, rest) := by
  have hword : ∀ c ∈ (" =".toList ++ rest).head?, isWord c = false := by
    intro c hc
    obtain rfl : ' ' = c := by simpa using hc
    decide
  rw [text_eq, List.append_assoc, here?_beginning name hword]
  rfl

lemma here?_eq_none {s : List Char} (hs : ¬ "export".toList <+: s) : here? s = none := by
  have hnone : "export".toList.isPrefixOf? s = none := by
    rw [Option.eq_none_iff_forall_ne_some]
    intro t ht
    exact hs ⟨t, List.isPrefixOf?_eq_some_iff_append_eq.mp ht⟩
  rw [here?, hnone]
  rfl

lemma find?_of_here? {s : List Char} {header : List Char × List Char} (h : here? s = some header) :
    find? s = some header := by
  cases s with
  | nil => cases h
  | cons c s => rw [find?, h]

theorem find?_text {before : List Char} (hbefore : ¬ "export".toList <:+: before) (name : Word)
    (rest : List Char) : find? (before ++ (text name ++ rest)) = some (name.chars, rest) := by
  induction before with
  | nil => exact find?_of_here? (here?_text name rest)
  | cons c before ih =>
    have hnone : here? (c :: before ++ (text name ++ rest)) = none := by
      apply here?_eq_none
      intro hp
      unfold text at hp
      rw [List.append_assoc] at hp
      have hself : "export".toList <+: c :: before :=
        prefix_of_prefix_append_self (by decide : 'e' ∉ "xport".toList) (List.cons_ne_nil _ _) hp
      exact hbefore hself.isInfix
    rw [List.cons_append, find?, ← List.cons_append, hnone]
    exact ih fun h => hbefore (List.infix_cons h)

section Finding

variable {s rest name : List Char}

lemma suffix_of_isPrefixOf? {p : List Char} (h : p.isPrefixOf? s = some rest) : rest <:+ s :=
  ⟨p, List.isPrefixOf?_eq_some_iff_append_eq.mp h⟩

lemma exists_of_afterBlanks? (h : afterBlanks? s = some rest) :
    ∃ blanks, s = blanks ++ rest ∧ blanks ≠ [] ∧ ∀ c ∈ blanks, isBlank c = true := by
  cases s with
  | nil => cases h
  | cons c s =>
    rw [afterBlanks?] at h
    split at h
    · rename_i hc
      refine ⟨c :: s.takeWhile isBlank, ?_, List.cons_ne_nil _ _, ?_⟩
      · rw [← Option.some.inj h, trimStart, List.cons_append, List.takeWhile_append_dropWhile]
      · rw [List.forall_mem_cons]
        exact ⟨hc, fun d hd => List.mem_takeWhile_imp hd⟩
    · cases h

lemma suffix_of_afterBlanks? (h : afterBlanks? s = some rest) : rest <:+ s := by
  obtain ⟨blanks, rfl, -, -⟩ := exists_of_afterBlanks? h
  exact List.suffix_append _ _

lemma exists_of_afterEquals? (h : afterEquals? s = some rest) :
    ∃ blanks, s = blanks ++ '=' :: rest ∧ ∀ c ∈ blanks, isBlank c = true := by
  rw [afterEquals?] at h
  split at h
  · rename_i body hs
    refine ⟨s.takeWhile isBlank, ?_, fun c hc => List.mem_takeWhile_imp hc⟩
    rw [← Option.some.inj h, ← hs, trimStart, List.takeWhile_append_dropWhile]
  · cases h

lemma suffix_of_afterEquals? (h : afterEquals? s = some rest) : rest <:+ s := by
  obtain ⟨blanks, rfl, -⟩ := exists_of_afterEquals? h
  exact (List.suffix_cons '=' rest).trans (List.suffix_append _ _)

lemma suffix_of_afterParameters? (h : afterParameters? s = some rest) : rest <:+ s := by
  induction s with
  | nil => cases h
  | cons c s ih =>
    rw [afterParameters?] at h
    split at h
    · cases h
    · split at h
      · split at h
        · rename_i body hbody
          rw [← Option.some.inj h]
          exact (suffix_of_afterEquals? hbody).trans (List.suffix_cons c s)
        · exact (ih h).trans (List.suffix_cons c s)
      · exact (ih h).trans (List.suffix_cons c s)

lemma suffix_of_afterName? (h : afterName? s = some rest) : rest <:+ s := by
  rw [afterName?] at h
  split at h
  · rename_i body hs
    have hbody : '<' :: body <:+ s := hs ▸ trimStart_suffix s
    exact ((suffix_of_afterParameters? h).trans (List.suffix_cons '<' body)).trans hbody
  · rename_i body hs
    have hbody : '=' :: body <:+ s := hs ▸ trimStart_suffix s
    rw [← Option.some.inj h]
    exact (List.suffix_cons '=' body).trans hbody
  · cases h

lemma of_here? (h : here? s = some (name, rest)) : (∃ w : Word, name = w.chars) ∧ rest <:+ s := by
  unfold here? at h
  obtain ⟨s₁, hs₁, h⟩ := Option.bind_eq_some_iff.mp h
  obtain ⟨s₂, hs₂, h⟩ := Option.bind_eq_some_iff.mp h
  obtain ⟨s₃, hs₃, h⟩ := Option.bind_eq_some_iff.mp h
  obtain ⟨s₄, hs₄, h⟩ := Option.bind_eq_some_iff.mp h
  simp only at h
  split at h
  · cases h
  · rename_i hname
    obtain ⟨w, hw⟩ := exists_word_of_takeWhile hname
    obtain ⟨body, hbody, h⟩ := Option.bind_eq_some_iff.mp h
    obtain ⟨rfl, rfl⟩ := Prod.mk.inj (Option.some.inj h)
    refine ⟨⟨w, hw⟩, (suffix_of_afterName? hbody).trans ((List.dropWhile_suffix _).trans ?_)⟩
    exact (suffix_of_afterBlanks? hs₄).trans ((suffix_of_isPrefixOf? hs₃).trans
      ((suffix_of_afterBlanks? hs₂).trans (suffix_of_isPrefixOf? hs₁)))

lemma of_find? (h : find? s = some (name, rest)) : (∃ w : Word, name = w.chars) ∧ rest <:+ s := by
  induction s with
  | nil => cases h
  | cons c s ih =>
    rw [find?] at h
    split at h
    · rename_i header hheader
      rw [Option.some.inj h] at hheader
      exact of_here? hheader
    · obtain ⟨hname, hrest⟩ := ih h
      exact ⟨hname, hrest.trans (List.suffix_cons c s)⟩

end Finding

end TypeLineage.Header
