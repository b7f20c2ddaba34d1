import Mathlib.Data.List.Basic
import Mathlib.Data.List.Infix
import Mathlib.Tactic.Common
import TypeLineage.Proofs.Indentation
import TypeLineage.Proofs.Lines

/-!
# The pieces of a body

A body read as a whole: its comment lines outside of braces, its pieces between the newlines and
semicolons outside of braces, and a piece brought to one line. Whether something stands outside of
braces is told by the number of braces that the text in front of it opens and closes.
-/

namespace TypeLineage.Member

open Text

/-- How many more braces a text opens than it closes. -/
def level (s : List Char) : Int :=
  (s.count '{' : Int) - s.count '}'

/-- The elements of a list, each with the level that it begins at. -/
def leveled {α : Type} (gain : α → Int) : Int → List α → List (Int × α)
  | _, [] => []
  | n, x :: xs => (n, x) :: leveled gain (n + gain x) xs

def isOuterComment (mark : Int × List Char) : Bool :=
  mark.1 == 0 && "//".toList.isPrefixOf (trimStart mark.2)

def isSeparator (mark : Int × Char) : Bool :=
  mark.1 == 0 && (mark.2 == '\n' || mark.2 == ';')

/-- The lines but for the comment lines outside of braces. -/
def withoutComments (n : Int) (ls : List (List Char)) : List (List Char) :=
  ((leveled level n ls).filter (!isOuterComment ·)).map Prod.snd

/-- The text between separators. -/
def pieces (n : Int) (s : List Char) : List (List Char) :=
  ((leveled (fun c => level [c]) n s).splitOnP isSeparator).map (·.map Prod.snd)

/-- The text without its separators. -/
def unseparated (n : Int) (s : List Char) : List Char :=
  ((leveled (fun c => level [c]) n s).filter (!isSeparator ·)).map Prod.snd

/-- The lines of a piece with one space between neighbours. -/
def joined (piece : List Char) : List Char :=
  [' '].intercalate ((lines piece).map trim)

def tidy (piece : List Char) : List Char :=
  trim (joined piece)

lemma map_snd_leveled {α : Type} (gain : α → Int) (n : Int) (xs : List α) :
    (leveled gain n xs).map Prod.snd = xs := by
  induction xs generalizing n with
  | nil => rfl
  | cons x xs ih => rw [leveled, List.map_cons, ih]

section Level

variable {kind : Char → Prop} {n m k : Nat} {c : Char} {s t : List Char} {ls : List (List Char)}

@[simp] lemma level_nil : level [] = 0 :=
  rfl

@[simp] lemma level_append (s t : List Char) : level (s ++ t) = level s + level t := by
  simp only [level, List.count_append]
  omega

lemma level_cons (c : Char) (s : List Char) : level (c :: s) = level [c] + level s :=
  level_append [c] s

lemma level_of_braceless (hopen : '{' ∉ s) (hclose : '}' ∉ s) : level s = 0 := by
  rw [level, List.count_eq_zero.mpr hopen, List.count_eq_zero.mpr hclose]
  rfl

lemma level_singleton (hopen : c ≠ '{') (hclose : c ≠ '}') : level [c] = 0 :=
  level_of_braceless (by simpa using Ne.symm hopen) (by simpa using Ne.symm hclose)

lemma level_of_blanks (hs : ∀ c ∈ s, isBlank c = true) : level s = 0 :=
  level_of_braceless (fun hmem => absurd (hs _ hmem) (by decide))
    fun hmem => absurd (hs _ hmem) (by decide)

lemma level_trim (s : List Char) : level (trim s) = level s := by
  obtain ⟨a, b, hs, ha, hb⟩ := exists_append_trim s
  conv_rhs => rw [hs]
  rw [level_append, level_append, level_of_blanks ha, level_of_blanks hb, Int.zero_add, Int.add_zero]

lemma add_level_of_levels (h : Levels kind n s m) : (n : Int) + level s = m := by
  induction h with
  | nil => simp
  | opening _ ih =>
    have hstep : level ['{'] = 1 := rfl
    rw [level_cons, hstep]
    omega
  | closing _ ih =>
    have hstep : level ['}'] = -1 := rfl
    rw [level_cons, hstep]
    omega
  | char hopen hclose _ _ ih =>
    rw [level_cons, level_singleton hopen hclose]
    omega

lemma exists_levels (h : ∀ p, p <+: s → 0 ≤ (n : Int) + level p) :
    ∃ m, Levels (fun _ => True) n s m := by
  induction s generalizing n with
  | nil => exact ⟨n, .nil⟩
  | cons c s ih =>
    have hone := h [c] (List.cons_prefix_cons.mpr ⟨rfl, List.nil_prefix⟩)
    obtain ⟨k, hk⟩ := Int.eq_ofNat_of_zero_le hone
    have hlater : ∀ p, p <+: s → 0 ≤ (k : Int) + level p := by
      intro p hp
      have hmore := h (c :: p) (List.cons_prefix_cons.mpr ⟨rfl, hp⟩)
      rw [level_cons] at hmore
      omega
    obtain ⟨m, hm⟩ := ih hlater
    refine ⟨m, ?_⟩
    by_cases hopen : c = '{'
    · subst hopen
      have hstep : level ['{'] = 1 := rfl
      obtain rfl : k = n + 1 := by omega
      exact .opening hm
    · by_cases hclose : c = '}'
      · subst hclose
        have hstep : level ['}'] = -1 := rfl
        obtain rfl : n = k + 1 := by omega
        exact .closing hm
      · rw [level_singleton hopen hclose] at hk
        obtain rfl : n = k := by omega
        exact .char hopen hclose (fun _ => trivial) hm

lemma solid_flatten (ls : List (List Char)) : solid ls.flatten = (ls.map solid).flatten :=
  List.filter_flatten

lemma levels_unlines_iff :
    Levels (fun _ => True) n (unlines ls) m ↔ Levels (fun _ => True) n ls.flatten m := by
  rw [← levels_solid_iff, solid_unlines, ← solid_flatten, levels_solid_iff]

end Level

section Cuts

variable {n : Int} {c : Char} {s : List Char}

@[simp] lemma pieces_nil (n : Int) : pieces n [] = [[]] :=
  rfl

lemma pieces_ne_nil (n : Int) (s : List Char) : pieces n s ≠ [] := by
  rw [pieces, ne_eq, List.map_eq_nil_iff]
  exact List.splitOnP_ne_nil _ _

lemma isSeparator_iff : isSeparator (n, c) = true ↔ n = 0 ∧ (c = '\n' ∨ c = ';') := by
  simp [isSeparator]

lemma level_of_isSeparator (h : isSeparator (n, c) = true) : level [c] = 0 := by
  obtain rfl | rfl := (isSeparator_iff.mp h).2 <;> rfl

lemma pieces_cons_of_separator (h : isSeparator (n, c) = true) (s : List Char) :
    pieces n (c :: s) = [] :: pieces n s := by
  rw [pieces, leveled, List.splitOnP_cons_eq_if_modifyHead, if_pos h, level_of_isSeparator h,
    Int.add_zero]
  rfl

lemma pieces_cons_of_not_separator (h : isSeparator (n, c) = false) (s : List Char) :
    pieces n (c :: s) = (pieces (n + level [c]) s).modifyHead (c :: ·) := by
  rw [pieces, leveled, List.splitOnP_cons_eq_if_modifyHead, if_neg (by simp [h]), pieces]
  cases List.splitOnP isSeparator (leveled (fun c => level [c]) (n + level [c]) s) with
  | nil => rfl
  | cons piece later => rfl

lemma isSeparator_of_blank (hc : isBlank c = true) (hnewline : c ≠ '\n') :
    isSeparator (n, c) = false := by
  have hsemicolon : c ≠ ';' := by
    rintro rfl
    exact absurd hc (by decide)
  simp [isSeparator, hnewline, hsemicolon]

lemma pieces_blanks_append {b : List Char} (hb : ∀ c ∈ b, isBlank c = true) (hnewline : '\n' ∉ b)
    (n : Int) (s : List Char) : pieces n (b ++ s) = (pieces n s).modifyHead (b ++ ·) := by
  induction b with
  | nil =>
    rw [List.nil_append]
    cases pieces n s <;> rfl
  | cons c b ih =>
    rw [List.forall_mem_cons] at hb
    rw [List.mem_cons, not_or] at hnewline
    have hlevel : level [c] = 0 := level_of_blanks (by simpa using hb.1)
    rw [List.cons_append, pieces_cons_of_not_separator (isSeparator_of_blank hb.1 (Ne.symm hnewline.1)),
      hlevel, Int.add_zero, ih hb.2 hnewline.2, List.modifyHead_modifyHead]
    rfl

lemma unseparated_cons (n : Int) (c : Char) (s : List Char) : unseparated n (c :: s) =
    if isSeparator (n, c) then unseparated (n + level [c]) s
    else c :: unseparated (n + level [c]) s := by
  rw [unseparated, leveled, List.filter_cons]
  cases isSeparator (n, c) <;> rfl

lemma flatten_pieces (n : Int) (s : List Char) : (pieces n s).flatten = unseparated n s := by
  induction s generalizing n with
  | nil => rfl
  | cons c s ih =>
    rw [unseparated_cons]
    cases hc : isSeparator (n, c) with
    | true =>
      rw [pieces_cons_of_separator hc, if_pos rfl, ← ih, level_of_isSeparator hc, Int.add_zero]
      rfl
    | false =>
      obtain ⟨piece, later, hs⟩ := List.exists_cons_of_ne_nil (pieces_ne_nil (n + level [c]) s)
      rw [pieces_cons_of_not_separator hc, if_neg (by decide), ← ih, hs]
      rfl

lemma levels_of_pieces {n m : Nat} (h : Levels (fun _ => True) n s m) {front back : List (List Char)}
    {piece : List Char} (hs : pieces n s = front ++ piece :: back) :
    Levels (fun _ => True) (if front = [] then n else 0) piece (if back = [] then m else 0) := by
  induction s generalizing n front piece with
  | nil =>
    cases h
    rw [pieces_nil] at hs
    obtain ⟨rfl, hs⟩ | ⟨_, rfl, hs⟩ := List.cons_eq_append_iff.mp hs
    · obtain ⟨rfl, rfl⟩ := List.cons.inj hs
      exact .nil
    · simp at hs
  | cons c s ih =>
    rw [← List.singleton_append] at h
    obtain ⟨k, hc, h⟩ := h.exists_of_append
    have hk : (n : Int) + level [c] = k := add_level_of_levels hc
    cases hsep : isSeparator ((n : Int), c) with
    | true =>
      obtain rfl : n = 0 := by simpa using (isSeparator_iff.mp hsep).1
      rw [level_of_isSeparator hsep] at hk
      obtain rfl : k = 0 := by omega
      rw [pieces_cons_of_separator hsep] at hs
      obtain ⟨rfl, hfirst⟩ | ⟨later, rfl, hlater⟩ := List.cons_eq_append_iff.mp hs
      · obtain ⟨rfl, rfl⟩ := List.cons.inj hfirst
        rw [if_pos rfl, if_neg (pieces_ne_nil _ s)]
        exact .nil
      · have hpiece := ih h hlater
        rw [ite_self] at hpiece
        rwa [if_neg (List.cons_ne_nil _ _)]
    | false =>
      obtain ⟨first, rest, hrest⟩ := List.exists_cons_of_ne_nil (pieces_ne_nil k s)
      rw [pieces_cons_of_not_separator hsep, hk, hrest, List.modifyHead_cons] at hs
      obtain ⟨rfl, hfirst⟩ | ⟨later, rfl, hlater⟩ := List.cons_eq_append_iff.mp hs
      · obtain ⟨rfl, rfl⟩ := List.cons.inj hfirst
        have hpiece := ih h (show pieces k s = [] ++ first :: back from hrest)
        rw [if_pos rfl] at hpiece ⊢
        exact hc.append hpiece
      · have hmore : pieces k s = (first :: later) ++ piece :: back := by
          rw [hrest, hlater]
          rfl
        have hpiece := ih h hmore
        rwa [if_neg (List.cons_ne_nil _ _)] at hpiece ⊢

lemma levels_of_mem_dropLast {m : Nat} (h : Levels (fun _ => True) 0 s m) {piece : List Char}
    (hmem : piece ∈ (pieces 0 s).dropLast) : Levels (fun _ => True) 0 piece 0 := by
  obtain ⟨front, back, hsplit⟩ := List.append_of_mem hmem
  have hpieces : pieces 0 s =
      front ++ piece :: (back ++ [(pieces 0 s).getLast (pieces_ne_nil 0 s)]) := by
    conv_lhs => rw [← List.dropLast_append_getLast (pieces_ne_nil 0 s), hsplit]
    simp
  have hpiece := levels_of_pieces h hpieces
  rwa [ite_self, if_neg (by simp)] at hpiece

lemma levels_of_mem_pieces (h : Levels (fun _ => True) 0 s 0) {piece : List Char}
    (hmem : piece ∈ pieces 0 s) : Levels (fun _ => True) 0 piece 0 := by
  obtain ⟨front, back, hpieces⟩ := List.append_of_mem hmem
  have hpiece := levels_of_pieces h hpieces
  rwa [ite_self, ite_self] at hpiece

end Cuts

section OneLine

variable {s t l : List Char}

/-- The text with a space for each newline. -/
def flat (s : List Char) : List Char :=
  s.map fun c => if c = '\n' then ' ' else c

lemma flat_of_newline_not_mem (h : '\n' ∉ s) : flat s = s := by
  have hid : ∀ c ∈ s, (if c = '\n' then ' ' else c) = id c := by
    intro c hc
    rw [if_neg]
    · rfl
    · rintro rfl
      exact h hc
  rw [flat, List.map_congr_left hid, List.map_id]

lemma flat_append_newline (h : '\n' ∉ l) (s : List Char) :
    flat (l ++ '\n' :: s) = l ++ ' ' :: flat s := by
  rw [flat, List.map_append, ← flat, flat_of_newline_not_mem h]
  rfl

lemma joined_of_newline_not_mem (h : '\n' ∉ l) : joined l = trim l := by
  rw [joined, lines_eq_singleton h, List.map_singleton, List.intercalate_singleton]

lemma joined_append_newline (h : '\n' ∉ l) (s : List Char) :
    joined (l ++ '\n' :: s) = trim l ++ ' ' :: joined s := by
  obtain ⟨q, below, hs⟩ := exists_lines_eq_cons s
  rw [joined, lines_append_newline h, List.map_cons,
    List.intercalate_cons_of_ne_nil (by simp [hs]), List.append_assoc]
  rfl

lemma trimEnd_append_congr (h : trimEnd s = trimEnd t) (a : List Char) :
    trimEnd (a ++ s) = trimEnd (a ++ t) := by
  have hend : ∀ s, trimEnd (a ++ s) = trimEnd (a ++ trimEnd s) := by
    intro s
    have hs : s = trimEnd s ++ (s.reverse.takeWhile isBlank).reverse := by
      rw [trimEnd, ← List.reverse_append, List.takeWhile_append_dropWhile, List.reverse_reverse]
    have hblank : ∀ c ∈ (s.reverse.takeWhile isBlank).reverse, isBlank c = true :=
      fun c hc => List.mem_takeWhile_imp (List.mem_reverse.mp hc)
    conv_lhs => rw [hs]
    rw [← List.append_assoc, trimEnd_append_blanks hblank]
  rw [hend s, h, ← hend t]

lemma trim_congr (h : trimEnd s = trimEnd t) : trim s = trim t := by
  rw [← trim_trimEnd s, h, trim_trimEnd]

lemma trim_blanks_append {b : List Char} (hb : ∀ c ∈ b, isBlank c = true) (s : List Char) :
    trim (b ++ s) = trim s := by
  rw [trim, trimStart_append_blanks hb, trim]

lemma exists_blanks_append_trim (hlast : ∀ c ∈ s.getLast?, isBlank c = false) :
    ∃ a, s = a ++ trim s ∧ ∀ c ∈ a, isBlank c = true := by
  obtain ⟨a, b, hs, ha, hb⟩ := exists_append_trim s
  have hnil : b = [] := by
    by_contra hne
    obtain ⟨c, hc⟩ := Option.ne_none_iff_exists'.mp (mt List.getLast?_eq_none_iff.mp hne)
    have hend : s.getLast? = some c := by
      rw [hs, ← List.append_assoc, List.getLast?_append_of_ne_nil _ hne, hc]
    have hblank := hb c (List.mem_of_getLast? hc)
    rw [hlast c hend] at hblank
    cases hblank
  rw [hnil, List.append_nil] at hs
  exact ⟨a, hs, ha⟩

end OneLine

section Tidying

variable {text : List Char} {c : Char}

lemma not_mem_trim (h : c ∉ text) : c ∉ trim text := by
  obtain ⟨a, b, heq, -, -⟩ := exists_append_trim text
  rw [heq, List.mem_append, List.mem_append, not_or, not_or] at h
  exact h.2.1

lemma newline_not_mem_of_trimmed_lines {l : List Char} (hl : l ∈ (lines text).map trim) :
    '\n' ∉ l := by
  obtain ⟨raw, hraw, rfl⟩ := List.mem_map.mp hl
  exact not_mem_trim (newline_not_mem_of_mem_lines hraw)

lemma solid_flat (s : List Char) : solid (flat s) = solid s := by
  induction s with
  | nil => rfl
  | cons c s ih =>
    have hc : solid [if c = '\n' then ' ' else c] = solid [c] := by
      by_cases hnewline : c = '\n'
      · rw [if_pos hnewline, hnewline]
        rfl
      · rw [if_neg hnewline]
    have hcons := solid_append [if c = '\n' then ' ' else c] (flat s)
    rw [hc, ih, ← solid_append] at hcons
    exact hcons

lemma newline_not_mem_flat (s : List Char) : '\n' ∉ flat s := by
  rw [flat, List.mem_map]
  rintro ⟨c, -, hc⟩
  split at hc
  · exact absurd hc (by decide)
  · contradiction

lemma intercalate_space_eq_flat {ls : List (List Char)} (hls : ∀ l ∈ ls, '\n' ∉ l) :
    [' '].intercalate ls = flat (unlines ls) := by
  induction ls with
  | nil => rfl
  | cons l ls ih =>
    obtain ⟨hl, hls⟩ := List.forall_mem_cons.mp hls
    by_cases hnil : ls = []
    · rw [hnil, unlines, List.intercalate_singleton, List.intercalate_singleton,
        flat_of_newline_not_mem hl]
    · rw [List.intercalate_cons_of_ne_nil hnil, unlines_cons l hnil, flat_append_newline hl, ih hls,
        List.append_assoc]
      rfl

lemma joined_eq_flat (piece : List Char) :
    joined piece = flat (unlines ((lines piece).map trim)) :=
  intercalate_space_eq_flat fun _ hl => newline_not_mem_of_trimmed_lines hl

lemma solid_tidy (piece : List Char) : solid (tidy piece) = solid piece := by
  have htrim : solid ∘ trim = solid := funext solid_trim
  rw [tidy, solid_trim, joined_eq_flat, solid_flat, solid_unlines, List.map_map, htrim, ← solid_unlines,
    unlines_lines]

lemma newline_not_mem_tidy (piece : List Char) : '\n' ∉ tidy piece := by
  rw [tidy, joined_eq_flat]
  exact not_mem_trim (newline_not_mem_flat _)

lemma balanced_tidy {piece : List Char} (h : Levels (fun _ => True) 0 piece 0) :
    Balanced (tidy piece) := by
  rw [← levels_solid_iff, ← solid_tidy, levels_solid_iff] at h
  exact h.nested

end Tidying

section Comments

variable {ls : List (List Char)} {n m : Nat}

lemma withoutComments_cons (n : Int) (l : List Char) (ls : List (List Char)) :
    withoutComments n (l :: ls) =
      if isOuterComment (n, l) then withoutComments (n + level l) ls
      else l :: withoutComments (n + level l) ls := by
  rw [withoutComments, leveled, List.filter_cons]
  cases isOuterComment (n, l) <;> rfl

lemma mem_of_mem_withoutComments {n : Int} {l : List Char} (hl : l ∈ withoutComments n ls) :
    l ∈ ls := by
  rw [← map_snd_leveled level n ls]
  exact (List.filter_sublist.map _).subset hl

/-- The lines that are left out have no braces, so the rest is at the same level. -/
lemma levels_withoutComments
    (hcomments : ∀ mark ∈ leveled level n ls, isOuterComment mark = true →
      '{' ∉ mark.2 ∧ '}' ∉ mark.2)
    (hlevels : Levels (fun _ => True) n ls.flatten m) :
    Levels (fun _ => True) n (withoutComments n ls).flatten m := by
  induction ls generalizing n with
  | nil => exact hlevels
  | cons l ls ih =>
    obtain ⟨k, hl, hrest⟩ := Levels.exists_of_append hlevels
    have hk : (n : Int) + level l = k := add_level_of_levels hl
    rw [leveled, hk, List.forall_mem_cons] at hcomments
    have hlater := ih hcomments.2 hrest
    rw [withoutComments_cons, hk]
    split
    · rename_i hcomment
      obtain ⟨hopen, hclose⟩ := hcomments.1 hcomment
      obtain rfl := hl.eq_of_braceless hopen hclose
      exact hlater
    · exact hl.append hlater

end Comments

end TypeLineage.Member
