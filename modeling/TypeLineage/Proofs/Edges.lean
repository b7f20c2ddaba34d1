import Mathlib.Data.List.Basic
import Mathlib.Tactic.Common
import TypeLineage.Proofs.Header
import TypeLineage.Proofs.Lines

/-!
# Blanks at the edges of lines

Blanks in front of a line and behind it make no difference to the header that is found in it.
-/

namespace TypeLineage

namespace Header

open Text

/-- What is read from a text is not changed by blanks behind it, which are left over then. -/
def Steady (read : List Char → Option (List Char × List Char)) : Prop :=
  ∀ s b, (∀ c ∈ b, isBlank c = true) → read (s ++ b) = (read s).map fun h => (h.1, h.2 ++ b)

/-- The part of a header from its name on. -/
def named? (s : List Char) : Option (List Char × List Char) :=
  if (s.takeWhile isWord).isEmpty then none
  else (afterName? (s.dropWhile isWord)).bind fun rest => some (s.takeWhile isWord, rest)

def typed? (s : List Char) : Option (List Char × List Char) :=
  ("type".toList.isPrefixOf? s).bind fun s => (afterBlanks? s).bind named?

lemma here?_eq (s : List Char) :
    here? s = ("export".toList.isPrefixOf? s).bind fun s => (afterBlanks? s).bind typed? := rfl

section Blanks

variable {s b p : List Char} {read : List Char → Option (List Char × List Char)}

lemma isPrefixOf?_append_blanks (hp : ∀ c ∈ p, isBlank c = false)
    (hb : ∀ c ∈ b, isBlank c = true) :
    p.isPrefixOf? (s ++ b) = (p.isPrefixOf? s).map (· ++ b) := by
  induction p generalizing s with
  | nil => rfl
  | cons d p ih =>
    simp only [List.mem_cons, forall_eq_or_imp] at hp
    cases s with
    | nil =>
      cases b with
      | nil => rfl
      | cons c b =>
        have hne : (d == c) = false := by
          rw [beq_eq_false_iff_ne]
          rintro rfl
          have hblank := hb d List.mem_cons_self
          rw [hp.1] at hblank
          cases hblank
        simp [List.isPrefixOf?, hne]
    | cons c s =>
      rw [List.cons_append, List.isPrefixOf?, List.isPrefixOf?]
      split
      · exact ih hp.2
      · rfl

lemma afterEquals?_append_blanks (hb : ∀ c ∈ b, isBlank c = true) :
    afterEquals? (s ++ b) = (afterEquals? s).map (· ++ b) := by
  unfold afterEquals?
  by_cases hs : trimStart s = []
  · rw [trimStart_append_blanks (trimStart_eq_nil_iff.mp hs), trimStart_eq_nil_iff.mpr hb, hs]
    rfl
  · rw [trimStart_append hs]
    obtain ⟨c, rest, hrest⟩ := List.exists_cons_of_ne_nil hs
    rw [hrest, List.cons_append]
    by_cases hc : c = '='
    · subst hc
      rfl
    · simp [hc]

lemma afterParameters?_append_blanks (hb : ∀ c ∈ b, isBlank c = true) :
    afterParameters? (s ++ b) = (afterParameters? s).map (· ++ b) := by
  induction s with
  | nil =>
    have hclose : '>' ∉ b := fun hmem => by
      have hblank := hb _ hmem
      revert hblank
      decide
    clear hb
    show afterParameters? b = none
    induction b with
    | nil => rfl
    | cons c b ih =>
      simp only [List.mem_cons, not_or] at hclose
      rw [afterParameters?, if_neg (Ne.symm hclose.1), ih hclose.2, ite_self]
  | cons c s ih =>
    rw [List.cons_append, afterParameters?, afterParameters?]
    by_cases hnewline : c = '\n'
    · rw [if_pos hnewline, if_pos hnewline]
      rfl
    · rw [if_neg hnewline, if_neg hnewline]
      by_cases hclose : c = '>'
      · rw [if_pos hclose, if_pos hclose, afterEquals?_append_blanks hb]
        cases afterEquals? s with
        | none => exact ih
        | some body => rfl
      · rw [if_neg hclose, if_neg hclose, ih]

lemma afterName?_append_blanks (hb : ∀ c ∈ b, isBlank c = true) :
    afterName? (s ++ b) = (afterName? s).map (· ++ b) := by
  unfold afterName?
  by_cases hs : trimStart s = []
  · rw [trimStart_append_blanks (trimStart_eq_nil_iff.mp hs), trimStart_eq_nil_iff.mpr hb, hs]
    rfl
  · rw [trimStart_append hs]
    obtain ⟨c, rest, hrest⟩ := List.exists_cons_of_ne_nil hs
    rw [hrest, List.cons_append]
    by_cases hopen : c = '<'
    · subst hopen
      exact afterParameters?_append_blanks hb
    · by_cases hc : c = '='
      · subst hc
        rfl
      · simp [hopen, hc]

lemma steady_named : Steady named? := by
  intro s b hb
  have hword : ∀ c ∈ b.head?, isWord c = false := by
    intro c hc
    by_contra hw
    have hblank := not_isBlank_of_isWord (by simpa using hw)
    rw [hb c (List.mem_of_mem_head? hc)] at hblank
    cases hblank
  have htake : b.takeWhile isWord = [] := by
    cases b with
    | nil => rfl
    | cons c b => rw [List.takeWhile_cons_of_neg (by simp [hword c (by simp)])]
  have hdrop : b.dropWhile isWord = b := by
    cases b with
    | nil => rfl
    | cons c b => rw [List.dropWhile_cons_of_neg (by simp [hword c (by simp)])]
  have htakes : (s ++ b).takeWhile isWord = s.takeWhile isWord := by
    rw [List.takeWhile_append, htake, List.append_nil]
    split
    · rename_i hlength
      exact ((List.takeWhile_prefix isWord).eq_of_length hlength).symm
    · rfl
  have hdrops : (s ++ b).dropWhile isWord = s.dropWhile isWord ++ b := by
    rw [List.dropWhile_append, hdrop]
    split
    · rename_i hempty
      rw [List.isEmpty_iff.mp hempty]
      rfl
    · rfl
  unfold named?
  rw [htakes, hdrops, afterName?_append_blanks hb]
  split
  · rfl
  · cases afterName? (s.dropWhile isWord) <;> rfl

lemma Steady.behind (hread : Steady read) (hp : ∀ c ∈ p, isBlank c = false) :
    Steady fun s => (p.isPrefixOf? s).bind read := by
  intro s b hb
  simp only [isPrefixOf?_append_blanks hp hb]
  cases p.isPrefixOf? s with
  | none => rfl
  | some rest => exact hread rest b hb

lemma Steady.of_blanks (hread : Steady read) (hnil : read [] = none) :
    Steady fun s => (afterBlanks? s).bind read := by
  intro s b hb
  cases s with
  | nil =>
    cases b with
    | nil => rfl
    | cons c b =>
      have hrest : trimStart b = [] :=
        trimStart_eq_nil_iff.mpr fun d hd => hb d (List.mem_cons_of_mem _ hd)
      simp [afterBlanks?, hb c List.mem_cons_self, hrest, hnil]
  | cons c s =>
    simp only [List.cons_append, afterBlanks?]
    cases isBlank c with
    | false => rfl
    | true =>
      simp only [if_true, Option.bind_some]
      by_cases hs : trimStart s = []
      · rw [trimStart_append_blanks (trimStart_eq_nil_iff.mp hs), trimStart_eq_nil_iff.mpr hb, hs,
          hnil]
        rfl
      · rw [trimStart_append hs]
        exact hread _ b hb

lemma steady_here : Steady here? := by
  have htype : ∀ c ∈ "type".toList, isBlank c = false :=
    fun c hc => not_isBlank_of_isWord (isWord_of_mem_type c hc)
  have hexport : ∀ c ∈ "export".toList, isBlank c = false :=
    fun c hc => not_isBlank_of_isWord (isWord_of_mem_export c hc)
  have htyped : Steady typed? := (steady_named.of_blanks rfl).behind htype
  exact (htyped.of_blanks rfl).behind hexport

lemma here?_of_blank {c : Char} (hc : isBlank c = true) : here? (c :: s) = none := by
  apply here?_eq_none
  intro hp
  obtain rfl : 'e' = c := (List.cons_prefix_cons.mp hp).1
  cases hc

lemma find?_blanks_append (hb : ∀ c ∈ b, isBlank c = true) (s : List Char) :
    find? (b ++ s) = find? s := by
  induction b with
  | nil => rfl
  | cons c b ih =>
    simp only [List.mem_cons, forall_eq_or_imp] at hb
    rw [List.cons_append, find?, here?_of_blank hb.1]
    exact ih hb.2

lemma find?_blanks (hb : ∀ c ∈ b, isBlank c = true) : find? b = none := by
  rw [← List.append_nil b, find?_blanks_append hb]
  rfl

lemma steady_find : Steady find? := by
  intro s b hb
  induction s with
  | nil => exact find?_blanks hb
  | cons c s ih =>
    have hhere := steady_here (c :: s) b hb
    rw [List.cons_append] at hhere ⊢
    rw [find?, find?, hhere, ih]
    cases here? (c :: s) <;> rfl

theorem find?_of_trim_eq {l k : List Char} (h : trim l = trim k) :
    (find? l = none ∧ find? k = none) ∨ ∃ name first first',
      find? l = some (name, first) ∧ find? k = some (name, first') ∧ trim first = trim first' := by
  obtain ⟨a, b, hl, ha, hb⟩ := exists_append_trim l
  obtain ⟨a', b', hk, ha', hb'⟩ := exists_append_trim k
  have hfindl : find? l = (find? (trim l)).map fun h => (h.1, h.2 ++ b) := by
    conv_lhs => rw [hl]
    rw [find?_blanks_append ha, steady_find _ _ hb]
  have hfindk : find? k = (find? (trim l)).map fun h => (h.1, h.2 ++ b') := by
    conv_lhs => rw [hk, ← h]
    rw [find?_blanks_append ha', steady_find _ _ hb']
  cases hfind : find? (trim l) with
  | none =>
    rw [hfind] at hfindl hfindk
    exact .inl ⟨hfindl, hfindk⟩
  | some header =>
    rw [hfind] at hfindl hfindk
    refine .inr ⟨header.1, _, _, hfindl, hfindk, ?_⟩
    rw [trim_append_blanks hb, trim_append_blanks hb']

end Blanks

end Header

namespace Text

section Edges

variable {s t a b a' b' : List Char} {c : Char}

/-- The characters that are no blanks. -/
def solid (s : List Char) : List Char :=
  s.filter fun c => !isBlank c

lemma solid_eq_nil_iff : solid s = [] ↔ ∀ c ∈ s, isBlank c = true := by
  simp [solid]

lemma mem_solid_iff (hc : isBlank c = false) : c ∈ solid s ↔ c ∈ s := by
  simp [solid, hc]

lemma solid_append (s t : List Char) : solid (s ++ t) = solid s ++ solid t :=
  List.filter_append ..

lemma solid_trim (s : List Char) : solid (trim s) = solid s := by
  obtain ⟨a, b, hs, ha, hb⟩ := exists_append_trim s
  conv_rhs => rw [hs]
  rw [solid_append, solid_append, solid_eq_nil_iff.mpr ha, solid_eq_nil_iff.mpr hb,
    List.nil_append, List.append_nil]

lemma solid_unlines (ls : List (List Char)) : solid (unlines ls) = (ls.map solid).flatten := by
  induction ls with
  | nil => rfl
  | cons l ls ih =>
    by_cases hls : ls = []
    · subst hls
      simp [unlines]
    · have hnewline : solid ('\n' :: unlines ls) = solid (unlines ls) := rfl
      rw [unlines_cons l hls, solid_append, hnewline, ih, List.map_cons, List.flatten_cons]

lemma trim_trimStart (s : List Char) : trim (trimStart s) = trim s := by
  rw [trim, trimStart_eq_self (trimStart_head s), trim]

lemma trim_trimEnd (s : List Char) : trim (trimEnd s) = trim s := by
  have hs : s = trimEnd s ++ (s.reverse.takeWhile isBlank).reverse := by
    rw [trimEnd, ← List.reverse_append, List.takeWhile_append_dropWhile, List.reverse_reverse]
  have hblank : ∀ c ∈ (s.reverse.takeWhile isBlank).reverse, isBlank c = true :=
    fun c hc => List.mem_takeWhile_imp (List.mem_reverse.mp hc)
  conv_rhs => rw [hs]
  rw [trim_append_blanks hblank]

lemma trimEnd_trimEnd (s : List Char) : trimEnd (trimEnd s) = trimEnd s := by
  apply trimEnd_eq_self
  intro c hc
  rw [trimEnd, List.getLast?_reverse] at hc
  exact trimStart_head _ c hc

/-- Line by line the texts are alike between their blanks. -/
def SameLines (s t : List Char) : Prop :=
  (lines s).map trim = (lines t).map trim

namespace SameLines

lemma symm (h : SameLines s t) : SameLines t s := Eq.symm h

lemma solid_eq (h : SameLines s t) : solid s = solid t := by
  have hsolid : ∀ s : List Char, solid s = ((lines s).map trim |>.map solid).flatten := by
    intro s
    conv_lhs => rw [← unlines_lines s]
    rw [solid_unlines, List.map_map]
    congr 1
    exact List.map_congr_left fun l _ => (solid_trim l).symm
  rw [hsolid, hsolid t, h]

lemma mem_iff (h : SameLines s t) (hc : isBlank c = false) : c ∈ s ↔ c ∈ t := by
  rw [← mem_solid_iff hc, h.solid_eq, mem_solid_iff hc]

lemma blanks (h : SameLines s t) (hs : ∀ c ∈ s, isBlank c = true) : ∀ c ∈ t, isBlank c = true := by
  rw [← solid_eq_nil_iff, ← h.solid_eq]
  exact solid_eq_nil_iff.mpr hs

lemma of_concat (hc : isBlank c = false) (h : SameLines (a ++ [c]) (a' ++ [c])) :
    SameLines a a' := by
  have hnewline : '\n' ∉ [c] := by
    rw [List.mem_singleton]
    rintro rfl
    cases hc
  obtain ⟨above, p, ha⟩ := exists_lines_eq_concat a
  obtain ⟨above', p', ha'⟩ := exists_lines_eq_concat a'
  rw [SameLines, lines_concat_of ha hnewline, lines_concat_of ha' hnewline, List.map_append,
    List.map_append] at h
  obtain ⟨habove, hlast⟩ := List.append_inj' h rfl
  have hp : trimStart p ++ [c] = trimStart p' ++ [c] := by
    simpa [trim_append_cons hc, trimEnd] using hlast
  rw [SameLines, ha, ha', List.map_append, List.map_append, habove, List.map_singleton,
    List.map_singleton, ← trim_trimStart p, List.append_cancel_right hp, trim_trimStart]

lemma of_cons (hc : isBlank c = false) (h : SameLines (c :: b) (c :: b')) : SameLines b b' := by
  have hne : c ≠ '\n' := by
    rintro rfl
    cases hc
  obtain ⟨q, below, hb⟩ := exists_lines_eq_cons b
  obtain ⟨q', below', hb'⟩ := exists_lines_eq_cons b'
  rw [SameLines, lines_cons hne hb, lines_cons hne hb', List.map_cons, List.map_cons] at h
  obtain ⟨hfirst, hbelow⟩ := List.cons.inj h
  have hq : trimEnd q = trimEnd q' := by
    have htrim := fun q : List Char => trim_append_cons hc [] q
    simp only [List.nil_append] at htrim
    rw [htrim, htrim] at hfirst
    exact List.append_cancel_left hfirst |> List.cons.inj |>.2
  rw [SameLines, hb, hb', List.map_cons, List.map_cons, hbelow, ← trim_trimEnd q, hq, trim_trimEnd]

theorem exists_of_append_cons (hc : isBlank c = false) (h : SameLines (a ++ c :: b) t) :
    ∃ a' b', t = a' ++ c :: b' ∧ SameLines (a ++ [c]) (a' ++ [c]) ∧
      SameLines (c :: b) (c :: b') := by
  have hne : c ≠ '\n' := by
    rintro rfl
    cases hc
  have hnewline : '\n' ∉ [c] := by simpa using Ne.symm hne
  obtain ⟨above, p, ha⟩ := exists_lines_eq_concat a
  obtain ⟨q, below, hb⟩ := exists_lines_eq_cons b
  have hcb := lines_cons hne hb
  rw [SameLines, lines_append_of ha hcb, List.map_append, List.map_cons] at h
  -- The line of the character in the other text, and the blanks at its edges.
  obtain ⟨above', rest, hrest, habove, hmap⟩ := List.map_eq_append_iff.mp h.symm
  obtain ⟨l, below', rfl, hl, hbelow⟩ := List.map_eq_cons_iff.mp hmap
  obtain ⟨x, y, hxy, hx, hy⟩ := exists_append_trim l
  rw [hl, trim_append_cons hc] at hxy
  have hline : l = (x ++ trimStart p) ++ c :: (trimEnd q ++ y) := by
    rw [hxy]
    simp
  have hmem : ∀ k ∈ above' ++ l :: below', '\n' ∉ k := by
    rw [← hrest]
    exact fun k hk => newline_not_mem_of_mem_lines hk
  have hmeml := hmem l (by simp)
  simp only [hline, List.mem_append, List.mem_cons, not_or] at hmeml
  obtain ⟨⟨hnx, hnp⟩, hnc, hnq, hny⟩ := hmeml
  have hlast : unlines (above' ++ [x ++ trimStart p]) ++ [c] =
      unlines (above' ++ [(x ++ trimStart p) ++ [c]]) := (unlines_append_right _ _ _).symm
  have hfirst : c :: unlines ((trimEnd q ++ y) :: below') =
      unlines ((c :: (trimEnd q ++ y)) :: below') :=
    (unlines_append_left [c] (trimEnd q ++ y) below').symm
  refine ⟨unlines (above' ++ [x ++ trimStart p]), unlines ((trimEnd q ++ y) :: below'), ?_, ?_, ?_⟩
  · rw [hfirst, ← unlines_append_cons, ← hline, ← hrest, unlines_lines]
  · have hne : above' ++ [(x ++ trimStart p) ++ [c]] ≠ [] := by simp
    have hlines := lines_unlines hne <| by
      intro k hk
      rcases List.mem_append.mp hk with hk | hk
      · exact hmem k (List.mem_append_left _ hk)
      · rw [List.mem_singleton.mp hk]
        simp [hnx, hnp, hnc]
    rw [SameLines, lines_concat_of ha hnewline, hlast, hlines, List.map_append, List.map_append,
      habove, List.map_singleton, List.map_singleton, trim_append_cons hc, trim_append_cons hc,
      trimStart_append_blanks hx, trimStart_eq_self (trimStart_head p)]
  · have hlines := lines_unlines (List.cons_ne_nil (c :: (trimEnd q ++ y)) below') <| by
      intro k hk
      rcases List.mem_cons.mp hk with rfl | hk
      · simp [hnc, hnq, hny]
      · exact hmem k (by simp [hk])
    have htrim := fun q : List Char => trim_append_cons hc [] q
    simp only [List.nil_append] at htrim
    rw [SameLines, hcb, hfirst, hlines, List.map_cons, List.map_cons, hbelow, htrim, htrim,
      trimEnd_append_blanks hy, trimEnd_trimEnd]

end SameLines

end Edges

end Text

end TypeLineage
