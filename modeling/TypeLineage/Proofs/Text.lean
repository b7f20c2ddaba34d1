import Mathlib.Data.List.Basic
import Mathlib.Data.List.Infix
import Mathlib.Data.List.TakeWhile
import Mathlib.Tactic.Common
import TypeLineage.Text.Blank
import TypeLineage.Text.Find
import TypeLineage.Text.Word

/-!
# Blanks, words and lines

Laws of trimming, of reading a word, of cutting a text into lines and of looking for a text in
another one.
-/

namespace TypeLineage.Text

section Blanks

variable {s t blanks : List Char}

/-- The blanks that are no ASCII characters. -/
def wideBlanks : List Nat :=
  [0x85, 0xA0, 0x1680, 0x2028, 0x2029, 0x202F, 0x205F, 0x3000] ++ List.range' 0x2000 11

lemma wideBlanks_not_word : ∀ n ∈ wideBlanks, inRanges n wordRanges = false := by
  decide +kernel

lemma not_isBlank_of_isWord {c : Char} (hw : isWord c = true) : isBlank c = false := by
  by_contra hb
  simp only [isBlank, Bool.not_eq_false, Bool.or_eq_true, Bool.and_eq_true, decide_eq_true_eq,
    beq_iff_eq] at hb
  rw [isWord] at hw
  by_cases hlow : c.toNat < 128
  · have halphanum : c.isAlphanum = (decide (c.val ≥ 'A'.val ∧ c.val ≤ 'Z'.val) ||
        (c.val ≥ 'a'.val && c.val ≤ 'z'.val) || (c.val ≥ '0'.val && c.val ≤ '9'.val)) := rfl
    rw [if_pos hlow, halphanum] at hw
    simp only [Bool.or_eq_true, Bool.and_eq_true, decide_eq_true_eq, beq_iff_eq, ge_iff_le,
      UInt32.le_iff_toNat_le] at hw
    have hval : c.toNat = c.val.toNat := rfl
    rcases hw with hw | rfl
    · simp at hw
      omega
    · simp at hb
  · rw [if_neg hlow] at hw
    have hmem : c.toNat ∈ wideBlanks := by
      simp only [wideBlanks, List.mem_append, List.mem_cons, List.not_mem_nil, or_false,
        List.mem_range'_1]
      omega
    rw [wideBlanks_not_word _ hmem] at hw
    exact absurd hw (by decide)

lemma trimStart_append_blanks (hb : ∀ c ∈ blanks, isBlank c = true) :
    trimStart (blanks ++ s) = trimStart s :=
  List.dropWhile_append_of_pos hb

lemma isBlank_of_mem_space : ∀ c ∈ [' '], isBlank c = true :=
  List.all_eq_true.mp (by decide)

lemma trimStart_space (s : List Char) : trimStart (' ' :: s) = trimStart s :=
  List.dropWhile_cons_of_pos (by decide)

lemma trimStart_eq_self (hs : ∀ c ∈ s.head?, isBlank c = false) : trimStart s = s := by
  cases s with
  | nil => rfl
  | cons c s => simp [trimStart, hs c (by simp)]

lemma trimEnd_eq_self (hs : ∀ c ∈ s.getLast?, isBlank c = false) : trimEnd s = s := by
  have hr : trimStart s.reverse = s.reverse := trimStart_eq_self (by simpa using hs)
  rw [trimEnd, ← trimStart, hr, List.reverse_reverse]

lemma trimEnd_append_cons {c : Char} (hc : isBlank c = false) (s rest : List Char) :
    trimEnd (s ++ c :: rest) = s ++ c :: trimEnd rest := by
  rw [trimEnd, List.reverse_append, List.reverse_cons, List.append_assoc, List.singleton_append,
    List.dropWhile_append, trimEnd]
  split
  · rename_i hempty
    rw [List.isEmpty_iff.mp hempty, List.dropWhile_cons_of_neg (by simp [hc])]
    simp
  · simp

lemma trimStart_eq_nil_iff : trimStart s = [] ↔ ∀ c ∈ s, isBlank c = true :=
  List.dropWhile_eq_nil_iff

lemma trimStart_append (hs : trimStart s ≠ []) (t : List Char) :
    trimStart (s ++ t) = trimStart s ++ t := by
  rw [trimStart, List.dropWhile_append, ← trimStart, if_neg (by simpa using hs)]

lemma trimStart_append_cons {c : Char} (hc : isBlank c = false) (s rest : List Char) :
    trimStart (s ++ c :: rest) = trimStart s ++ c :: rest := by
  by_cases hs : trimStart s = []
  · rw [trimStart_append_blanks (trimStart_eq_nil_iff.mp hs), hs,
      trimStart_eq_self (by simpa using hc), List.nil_append]
  · exact trimStart_append hs _

lemma trimEnd_append_blanks (hb : ∀ c ∈ blanks, isBlank c = true) :
    trimEnd (s ++ blanks) = trimEnd s := by
  have hr : ∀ c ∈ blanks.reverse, isBlank c = true := fun c hc => hb c (List.mem_reverse.mp hc)
  rw [trimEnd, List.reverse_append, List.dropWhile_append_of_pos hr, trimEnd]

lemma trim_eq_nil (hs : ∀ c ∈ s, isBlank c = true) : trim s = [] := by
  rw [trim, trimStart_eq_nil_iff.mpr hs]
  rfl

lemma trim_append_blanks (hb : ∀ c ∈ blanks, isBlank c = true) : trim (s ++ blanks) = trim s := by
  by_cases hs : trimStart s = []
  · have hblank := trimStart_eq_nil_iff.mp hs
    rw [trim_eq_nil hblank, trim_eq_nil]
    intro c hc
    rcases List.mem_append.mp hc with hc | hc
    · exact hblank c hc
    · exact hb c hc
  · rw [trim, trimStart_append hs, trimEnd_append_blanks hb, trim]

lemma trim_append_cons {c : Char} (hc : isBlank c = false) (s rest : List Char) :
    trim (s ++ c :: rest) = trimStart s ++ c :: trimEnd rest := by
  rw [trim, trimStart_append_cons hc, trimEnd_append_cons hc]

/-- A text that neither begins nor ends with a blank. -/
structure Trimmed (s : List Char) : Prop where
  head : ∀ c ∈ s.head?, isBlank c = false
  last : ∀ c ∈ s.getLast?, isBlank c = false

lemma Trimmed.trim_eq (hs : Trimmed s) : trim s = s := by
  rw [trim, trimStart_eq_self hs.head, trimEnd_eq_self hs.last]

lemma trimStart_head (s : List Char) : ∀ c ∈ (trimStart s).head?, isBlank c = false := by
  intro c hc
  have hhead := List.head?_dropWhile_not isBlank s
  rwa [← trimStart, Option.mem_def.mp hc] at hhead

lemma trimStart_suffix (s : List Char) : trimStart s <:+ s :=
  List.dropWhile_suffix _

lemma trimEnd_prefix (s : List Char) : trimEnd s <+: s := by
  rw [← List.reverse_suffix, trimEnd, List.reverse_reverse]
  exact List.dropWhile_suffix _

lemma exists_append_trim (s : List Char) : ∃ a b, s = a ++ (trim s ++ b) ∧
    (∀ c ∈ a, isBlank c = true) ∧ ∀ c ∈ b, isBlank c = true := by
  refine ⟨s.takeWhile isBlank, ((trimStart s).reverse.takeWhile isBlank).reverse, ?_, ?_, ?_⟩
  · rw [trim, trimEnd, ← List.reverse_append, List.takeWhile_append_dropWhile,
      List.reverse_reverse, trimStart, List.takeWhile_append_dropWhile]
  · exact fun c hc => List.mem_takeWhile_imp hc
  · exact fun c hc => List.mem_takeWhile_imp (List.mem_reverse.mp hc)

lemma trimmed_trim (s : List Char) : Trimmed (trim s) where
  head c hc := by
    obtain ⟨t, ht⟩ := trimEnd_prefix (trimStart s)
    refine trimStart_head s c ?_
    rw [trim] at hc
    rw [← ht, List.head?_append, Option.mem_def.mp hc]
    rfl
  last c hc := by
    rw [trim, trimEnd, List.getLast?_reverse] at hc
    exact trimStart_head _ c hc

lemma Trimmed.around (hs : Trimmed s) (ht : Trimmed t) (hs₀ : s ≠ []) (ht₀ : t ≠ [])
    (middle : List Char) : Trimmed (s ++ (middle ++ t)) where
  head c hc := hs.head c (by rwa [List.head?_append_of_ne_nil _ hs₀] at hc)
  last c hc := by
    rw [← List.append_assoc, List.getLast?_append_of_ne_nil _ ht₀] at hc
    exact ht.last c hc

lemma Trimmed.singleton {c : Char} (hc : isBlank c = false) : Trimmed [c] :=
  ⟨by simpa using hc, by simpa using hc⟩

end Blanks

section Words

/-- Letters, numbers and underscores, at least one. -/
structure Word where
  chars : List Char
  ne_nil : chars ≠ []
  isWord : ∀ c ∈ chars, isWord c = true

namespace Word

variable (w : Word) {rest : List Char}

lemma trimmed : Trimmed w.chars where
  head c hc := not_isBlank_of_isWord (w.isWord c (List.mem_of_mem_head? hc))
  last c hc := not_isBlank_of_isWord (w.isWord c (List.mem_of_mem_getLast? hc))

lemma not_mem {c : Char} (hc : Text.isWord c = false) : c ∉ w.chars := by
  intro hmem
  simp [w.isWord c hmem] at hc

lemma isEmpty_eq : w.chars.isEmpty = false := by
  simpa using w.ne_nil

variable (hrest : ∀ c ∈ rest.head?, Text.isWord c = false)

include hrest

lemma takeWhile_append : (w.chars ++ rest).takeWhile Text.isWord = w.chars := by
  rw [List.takeWhile_append_of_pos w.isWord]
  cases rest with
  | nil => simp
  | cons c rest => simp [hrest c (by simp)]

lemma dropWhile_append : (w.chars ++ rest).dropWhile Text.isWord = rest := by
  rw [List.dropWhile_append_of_pos w.isWord]
  cases rest with
  | nil => rfl
  | cons c rest => simp [hrest c (by simp)]

end Word

lemma exists_word_of_takeWhile {s : List Char} (h : ¬ (s.takeWhile isWord).isEmpty = true) :
    ∃ w : Word, s.takeWhile isWord = w.chars :=
  ⟨⟨s.takeWhile isWord, by simpa using h, fun _ hc => List.mem_takeWhile_imp hc⟩, rfl⟩

end Words

section Lines

section Pieces

variable {separator : Char} {s piece : List Char} {later : List (List Char)}

lemma cut_cons (c : Char) (hs : cut separator s = piece :: later) : cut separator (c :: s) =
    if c = separator then [] :: piece :: later else (c :: piece) :: later := by
  rw [cut, List.foldr_cons, ← cut, hs]

lemma exists_cut_eq_cons (separator : Char) (s : List Char) :
    ∃ piece later, cut separator s = piece :: later := by
  induction s with
  | nil => exact ⟨[], [], rfl⟩
  | cons c s ih =>
    obtain ⟨piece, later, hcut⟩ := ih
    rw [cut_cons c hcut]
    split
    · exact ⟨_, _, rfl⟩
    · exact ⟨_, _, rfl⟩

lemma cut_eq_splitOn (separator : Char) (s : List Char) :
    cut separator s = s.splitOn separator := by
  induction s with
  | nil => rfl
  | cons c s ih =>
    obtain ⟨piece, later, hcut⟩ := exists_cut_eq_cons separator s
    rw [List.splitOn_cons_eq_if_modifyHead, ← ih, cut_cons c hcut, hcut]
    simp

lemma separator_not_mem_of_mem_cut (h : piece ∈ cut separator s) : separator ∉ piece := by
  induction s generalizing piece with
  | nil =>
    rw [List.mem_singleton.mp h]
    exact List.not_mem_nil
  | cons c s ih =>
    obtain ⟨first, later, hcut⟩ := exists_cut_eq_cons separator s
    rw [hcut] at ih
    rw [cut_cons c hcut] at h
    split at h
    · rcases List.mem_cons.mp h with rfl | h
      · exact List.not_mem_nil
      · exact ih h
    · rename_i hc
      rcases List.mem_cons.mp h with rfl | h
      · rw [List.mem_cons, not_or]
        exact ⟨Ne.symm hc, ih List.mem_cons_self⟩
      · exact ih (List.mem_cons_of_mem _ h)

end Pieces

theorem lines_unlines {ls : List (List Char)} (hne : ls ≠ []) (hls : ∀ l ∈ ls, '\n' ∉ l) :
    lines (unlines ls) = ls := by
  rw [lines, cut_eq_splitOn]
  exact List.splitOn_intercalate '\n' hls hne

theorem unlines_lines (s : List Char) : unlines (lines s) = s := by
  rw [lines, cut_eq_splitOn]
  exact List.intercalate_splitOn '\n'

lemma unlines_append_left (s l : List Char) (ls : List (List Char)) :
    unlines ((s ++ l) :: ls) = s ++ unlines (l :: ls) := by
  cases ls with
  | nil => simp [unlines]
  | cons k ls => simp [unlines, List.intercalate_cons_cons]

lemma unlines_cons (l : List Char) {ls : List (List Char)} (hls : ls ≠ []) :
    unlines (l :: ls) = l ++ '\n' :: unlines ls := by
  rw [unlines, List.intercalate_cons_of_ne_nil hls, List.append_assoc]
  rfl

lemma unlines_suffix_append (before ls : List (List Char)) :
    unlines ls <:+ unlines (before ++ ls) := by
  induction before with
  | nil => exact List.suffix_rfl
  | cons l before ih =>
    by_cases hnil : before ++ ls = []
    · rw [(List.append_eq_nil_iff.mp hnil).2]
      exact List.nil_suffix
    · rw [List.cons_append, unlines_cons l hnil]
      exact ih.trans ⟨l ++ ['\n'], by simp⟩

lemma unlines_prefix_append (ls after : List (List Char)) :
    unlines ls <+: unlines (ls ++ after) := by
  induction ls with
  | nil => exact List.nil_prefix
  | cons l ls ih =>
    cases ls with
    | nil =>
      have hstart := unlines_append_left l [] after
      rw [List.append_nil] at hstart
      rw [List.singleton_append, hstart, unlines, List.intercalate_singleton]
      exact List.prefix_append _ _
    | cons k ls =>
      rw [List.cons_append, unlines_cons l (by simp), unlines_cons l (by simp)]
      exact (List.prefix_append_right_inj l).mpr (List.cons_prefix_cons.mpr ⟨rfl, ih⟩)

lemma infix_of_mem_lines {s l : List Char} (h : l ∈ lines s) : l <:+: s := by
  obtain ⟨before, after, heq⟩ := List.append_of_mem h
  have hline : l <+: unlines (l :: after) := by
    have hprefix := unlines_prefix_append [l] after
    rwa [unlines, List.intercalate_singleton] at hprefix
  rw [← unlines_lines s, heq]
  exact hline.isInfix.trans (unlines_suffix_append before (l :: after)).isInfix

lemma unlines_append_right (ls : List (List Char)) (l s : List Char) :
    unlines (ls ++ [l ++ s]) = unlines (ls ++ [l]) ++ s := by
  induction ls with
  | nil => simp [unlines]
  | cons k ls ih =>
    rw [unlines, unlines] at ih ⊢
    rw [List.cons_append, List.cons_append, List.intercalate_cons_of_ne_nil (by simp),
      List.intercalate_cons_of_ne_nil (by simp), ih]
    simp

lemma lines_append (s t : List Char) : lines (s ++ '\n' :: t) = lines s ++ lines t := by
  simp only [lines, cut_eq_splitOn]
  exact List.splitOn_append_cons_self s t

end Lines

section Occurrence

variable {needle a b : List Char}

lemma occursIn_iff : occursIn needle a = true ↔ needle <:+: a := by
  induction a with
  | nil => simp [occursIn]
  | cons c a ih =>
    rw [occursIn, Bool.or_eq_true, List.isPrefixOf_iff_prefix, ih, List.infix_cons_iff]

lemma prefix_of_prefix_append_cons {c : Char} (hc : c ∉ needle) (hp : needle <+: a ++ c :: b) :
    needle <+: a := by
  induction a generalizing needle with
  | nil =>
    cases needle with
    | nil => exact List.nil_prefix
    | cons d needle =>
      rw [List.nil_append, List.cons_prefix_cons] at hp
      exact absurd (by simp [hp.1]) hc
  | cons d a ih =>
    cases needle with
    | nil => exact List.nil_prefix
    | cons e needle =>
      rw [List.cons_append, List.cons_prefix_cons] at hp
      rw [List.cons_prefix_cons]
      exact ⟨hp.1, ih (fun h => hc (List.mem_cons_of_mem _ h)) hp.2⟩

lemma not_infix_append_cons {c : Char} (hc : c ∉ needle) (ha : ¬ needle <:+: a)
    (hb : ¬ needle <:+: b) : ¬ needle <:+: a ++ c :: b := by
  induction a with
  | nil =>
    rw [List.nil_append, List.infix_cons_iff]
    rintro (hp | hi)
    · exact ha (prefix_of_prefix_append_cons (a := []) hc hp).isInfix
    · exact hb hi
  | cons d a ih =>
    rw [List.cons_append, List.infix_cons_iff]
    rintro (hp | hi)
    · rw [← List.cons_append] at hp
      exact ha (prefix_of_prefix_append_cons hc hp).isInfix
    · exact ih (fun h => ha (List.infix_cons h)) hi

/-- A text whose first character does not come again in it cannot begin in front of another text and
end inside it, if that text begins with it too. -/
lemma prefix_of_prefix_append_self {c : Char} {needle a b : List Char} (hc : c ∉ needle)
    (ha : a ≠ []) (hp : c :: needle <+: a ++ (c :: needle ++ b)) : c :: needle <+: a := by
  obtain ⟨d, a, rfl⟩ := List.exists_cons_of_ne_nil ha
  rw [List.cons_append, List.cons_prefix_cons] at hp
  rw [List.cons_prefix_cons]
  exact ⟨hp.1, prefix_of_prefix_append_cons hc hp.2⟩

end Occurrence

end TypeLineage.Text
