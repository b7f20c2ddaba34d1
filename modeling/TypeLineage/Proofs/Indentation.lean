import Mathlib.Data.List.Basic
import Mathlib.Tactic.Common
import TypeLineage.Declaration.Scan
import TypeLineage.Proofs.Edges
import TypeLineage.Proofs.Levels
import TypeLineage.Proofs.NormalForm
import TypeLineage.Proofs.Scan

/-!
# Indentation and line ends

Texts that are alike line by line, between the blanks at the edges of their lines, have the same
declarations. So neither indentation nor the kind of line ends makes a difference.
-/

namespace TypeLineage

open Text

namespace Text.SameLines

variable {s t u v : List Char}

lemma trimStart (h : SameLines s t) : SameLines (trimStart s) (trimStart t) := by
  by_cases hs : Text.trimStart s = []
  · have hblank := h.blanks (trimStart_eq_nil_iff.mp hs)
    rw [hs, trimStart_eq_nil_iff.mpr hblank]
    exact Eq.refl _
  · obtain ⟨c, rest, hrest⟩ := List.exists_cons_of_ne_nil hs
    have hc : isBlank c = false := trimStart_head s c (by rw [hrest]; rfl)
    have hsplit : s = s.takeWhile isBlank ++ c :: rest := by
      rw [← hrest, Text.trimStart, List.takeWhile_append_dropWhile]
    rw [hsplit] at h
    obtain ⟨a, b, rfl, ha, hb⟩ := h.exists_of_append_cons hc
    have hblank := (ha.of_concat hc).blanks fun d hd => List.mem_takeWhile_imp hd
    rw [hrest, trimStart_append_cons hc, trimStart_eq_nil_iff.mpr hblank]
    exact hb

lemma exists_last (hs : ¬ ∀ c ∈ s, isBlank c = true) :
    ∃ a c b, s = a ++ c :: b ∧ isBlank c = false ∧ ∀ d ∈ b, isBlank d = true := by
  induction s with
  | nil => exact absurd (fun c hc => absurd hc List.not_mem_nil) hs
  | cons d s ih =>
    by_cases hrest : ∀ c ∈ s, isBlank c = true
    · have hd : isBlank d = false := by
        by_contra hd
        refine hs fun c hc => ?_
        rcases List.mem_cons.mp hc with rfl | hc
        · simpa using hd
        · exact hrest c hc
      exact ⟨[], d, s, rfl, hd, hrest⟩
    · obtain ⟨a, c, b, rfl, hc, hb⟩ := ih hrest
      exact ⟨d :: a, c, b, rfl, hc, hb⟩

lemma trimEnd_append_solid {a b : List Char} {c : Char} (hc : isBlank c = false)
    (hb : ∀ d ∈ b, isBlank d = true) : Text.trimEnd (a ++ c :: b) = a ++ [c] := by
  have hempty := trimEnd_append_blanks (s := []) hb
  rw [trimEnd_append_cons hc]
  rw [List.nil_append] at hempty
  rw [hempty]
  rfl

lemma trimEnd (h : SameLines s t) : SameLines (trimEnd s) (trimEnd t) := by
  by_cases hs : ∀ c ∈ s, isBlank c = true
  · have hempty : ∀ {s : List Char}, (∀ c ∈ s, isBlank c = true) → Text.trimEnd s = [] := by
      intro s hs
      have hnil := trimEnd_append_blanks (s := []) hs
      rwa [List.nil_append] at hnil
    rw [hempty hs, hempty (h.blanks hs)]
    exact Eq.refl _
  · obtain ⟨a, c, b, rfl, hc, hb⟩ := exists_last hs
    obtain ⟨a', b', rfl, ha, hbs⟩ := h.exists_of_append_cons hc
    rw [trimEnd_append_solid hc hb, trimEnd_append_solid hc ((hbs.of_cons hc).blanks hb)]
    exact ha

lemma trim (h : SameLines s t) : SameLines (trim s) (trim t) :=
  h.trimStart.trimEnd

lemma exists_of_concat {c : Char} (hc : isBlank c = false) (hv : Trimmed v)
    (h : SameLines (u ++ [c]) v) : ∃ u', v = u' ++ [c] ∧ SameLines u u' := by
  obtain ⟨u', b, rfl, hu, hb⟩ := h.exists_of_append_cons hc
  have hblank : ∀ d ∈ b, isBlank d = true := (hb.of_cons hc).blanks (by simp)
  have hnil : b = [] := by
    rcases List.eq_nil_or_concat b with hnil | ⟨b', d, rfl⟩
    · exact hnil
    · have hlast := hv.last d (by simp [List.getLast?_cons])
      rw [hblank d (by simp)] at hlast
      cases hlast
  subst hnil
  exact ⟨u', rfl, hu.of_concat hc⟩

lemma getLast?_eq {c : Char} (hc : isBlank c = false) (hv : Trimmed v) (h : SameLines u v)
    (hlast : u.getLast? = some c) : v.getLast? = some c ∧ SameLines u.dropLast v.dropLast := by
  obtain ⟨u', rfl⟩ := List.getLast?_eq_some_iff.mp hlast
  obtain ⟨v', rfl, hsame⟩ := exists_of_concat hc hv h
  simpa using hsame

lemma clean (h : SameLines s t) : SameLines (Declaration.clean s) (Declaration.clean t) := by
  have hsemicolon : isBlank ';' = false := by decide
  have htrim := h.trim
  unfold Declaration.clean
  by_cases hs : (Text.trim s).getLast? = some ';'
  · obtain ⟨ht, hsame⟩ := htrim.getLast?_eq hsemicolon (trimmed_trim t) hs
    simp only [hs, ht, if_true]
    exact hsame.trim
  · have ht : (Text.trim t).getLast? ≠ some ';' := fun ht =>
      hs (htrim.symm.getLast?_eq hsemicolon (trimmed_trim s) ht).1
    simp only [hs, ht, if_false]
    exact htrim

end Text.SameLines

lemma Text.SameLines.eq_of_trimmed {s t : List Char} (h : SameLines s t) (hs : Trimmed s)
    (ht : Trimmed t) (hline : '\n' ∉ s) : s = t := by
  rw [SameLines, lines_eq_singleton hline, List.map_singleton, hs.trim_eq] at h
  obtain ⟨l, hl, htrim⟩ := List.map_eq_singleton_iff.mp h.symm
  have hunlines := unlines_lines t
  rw [hl, unlines, List.intercalate_singleton] at hunlines
  rw [← htrim, hunlines, ht.trim_eq]

section Parents

variable {s t : List Char}

lemma Text.SameLines.parent?_eq_some (h : SameLines s t) (ht : Trimmed t) {name : List Char}
    (hname : Declaration.parent? s = some name) : Declaration.parent? t = some name := by
  have hamp : isBlank '&' = false := by decide
  obtain ⟨w, blanks, rest, rfl, rfl, hb⟩ := Declaration.exists_of_parent? hname
  -- The last character of the name, and then the ampersand, stand in the other text too.
  obtain ⟨cs, c, hw⟩ : ∃ cs c, w.chars = cs ++ [c] :=
    ⟨_, _, (List.dropLast_append_getLast w.ne_nil).symm⟩
  have hc : isBlank c = false := w.trimmed.last c (by simp [hw])
  rw [hw, List.append_assoc, List.singleton_append] at h
  obtain ⟨x, y, rfl, hx, hy⟩ := h.exists_of_append_cons hc
  obtain ⟨blanks', rest', rfl, hblanks, -⟩ := (hy.of_cons hc).exists_of_append_cons hamp
  have hb' := (hblanks.of_concat hamp).blanks hb
  have hxc : Trimmed (x ++ [c]) := by
    refine ⟨fun d hd => ht.head d ?_, fun d hd => ?_⟩
    · rw [List.append_cons, List.head?_append_of_ne_nil _ (by simp)]
      exact hd
    · obtain rfl : c = d := by simpa using hd
      exact hc
  rw [← hw] at hx
  rw [List.append_cons, ← hx.eq_of_trimmed w.trimmed hxc (w.not_mem (by decide))]
  exact Declaration.parent?_append w hb' rest'

lemma Text.SameLines.parent?_eq (h : SameLines s t) (hs : Trimmed s) (ht : Trimmed t) :
    Declaration.parent? s = Declaration.parent? t := by
  apply Option.ext
  intro name
  exact ⟨h.parent?_eq_some ht, h.symm.parent?_eq_some hs⟩

end Parents

section Fields

variable {s t body : List Char} {n m : Nat}

lemma levels_solid_iff :
    Levels (fun _ => True) n (solid s) m ↔ Levels (fun _ => True) n s m := by
  induction s generalizing n with
  | nil => rfl
  | cons c s ih =>
    by_cases hc : isBlank c = true
    · have hopen : c ≠ '{' := by
        rintro rfl
        cases hc
      have hclose : c ≠ '}' := by
        rintro rfl
        cases hc
      have hskip : solid (c :: s) = solid s := by simp [solid, hc]
      rw [hskip, ih]
      refine ⟨fun h => .char hopen hclose (fun _ => trivial) h, fun h => ?_⟩
      cases h with
      | opening => exact absurd rfl hopen
      | closing => exact absurd rfl hclose
      | char _ _ _ h => exact h
    · have hkeep : solid (c :: s) = c :: solid s := by simp [solid, hc]
      rw [hkeep]
      constructor
      · intro h
        cases h with
        | opening h => exact .opening (ih.mp h)
        | closing h => exact .closing (ih.mp h)
        | char hopen hclose hkind h => exact .char hopen hclose hkind (ih.mp h)
      · intro h
        cases h with
        | opening h => exact .opening (ih.mpr h)
        | closing h => exact .closing (ih.mpr h)
        | char hopen hclose hkind h => exact .char hopen hclose hkind (ih.mpr h)

lemma Text.SameLines.levels (h : SameLines s t) (hs : Levels (fun _ => True) n s m) :
    Levels (fun _ => True) n t m := by
  rw [← levels_solid_iff, ← h.solid_eq, levels_solid_iff]
  exact hs

lemma Text.SameLines.exists_interior? (h : SameLines s t)
    (hbody : Braces.interior? s = some body) :
    ∃ body', Braces.interior? t = some body' ∧ SameLines body body' := by
  have hopen : isBlank '{' = false := by decide
  have hclose : isBlank '}' = false := by decide
  obtain ⟨front, rest, rfl, hfront, hlevels⟩ := exists_of_interior? hbody
  obtain ⟨front', u, rfl, hfronts, hu⟩ := h.exists_of_append_cons hopen
  obtain ⟨body', rest', rfl, hbodies, -⟩ := (hu.of_cons hopen).exists_of_append_cons hclose
  have hsame : SameLines body body' := hbodies.of_concat hclose
  have hfront' : '{' ∉ front' := by
    rw [← (hfronts.of_concat hopen).mem_iff hopen]
    exact hfront
  exact ⟨body', Braces.interior?_eq hfront' (hsame.levels hlevels).nested _, hsame⟩

lemma cutting_line_trim (state : Member.Cutting) (raw : List Char) :
    state.line (trim raw) = state.line raw := by
  rw [Member.Cutting.line, Member.Cutting.line, (trimmed_trim raw).trim_eq]

lemma Text.SameLines.candidates_eq (h : SameLines s t) :
    Member.candidates s = Member.candidates t := by
  have hfold : ∀ s : List Char, Member.candidates s =
      (((lines s).map Text.trim).foldl Member.Cutting.line ⟨[], [], 0⟩).flush.finished.reverse := by
    intro s
    rw [Member.candidates, List.foldl_map]
    simp only [cutting_line_trim]
  rw [hfold, hfold t, h]

lemma Text.SameLines.fields_eq (h : SameLines s t) : Member.fields s = Member.fields t := by
  unfold Member.fields
  cases hs : Braces.interior? s with
  | some body =>
    obtain ⟨body', ht, hbody⟩ := h.exists_interior? hs
    rw [ht]
    simp only [hbody.candidates_eq]
  | none =>
    cases ht : Braces.interior? t with
    | none => rfl
    | some body =>
      obtain ⟨body', hs', -⟩ := h.symm.exists_interior? ht
      rw [hs] at hs'
      cases hs'

end Fields

namespace Declaration

section Scan

variable {l k first first' : List Char} {ls ks : List (List Char)} {depth : Int} {entered : Bool}
  {kept kept' : List (List Char)} {used : Nat}

lemma trimmed_clean (text : List Char) : Trimmed (clean text) := by
  unfold clean
  simp only
  split
  · exact trimmed_trim _
  · exact trimmed_trim _

lemma ofText_of_sameLines {text text' : List Char} (h : SameLines text text') (name : List Char)
    (number : Nat) (file : String) :
    ofText name text number file = ofText name text' number file := by
  unfold ofText
  simp only [h.clean.parent?_eq (trimmed_clean _) (trimmed_clean _), h.clean.fields_eq]

lemma countBraces_trim (depth : Int) (entered : Bool) (l : List Char) :
    countBraces depth entered (trim l) = countBraces depth entered l := by
  have hbraces : ∀ b : List Char, (∀ c ∈ b, isBlank c = true) → ∀ depth entered,
      countBraces depth entered b = some (depth, entered) := by
    intro b hb
    refine countBraces_braceless (fun hmem => ?_) fun hmem => ?_
    · exact absurd (hb _ hmem) (by decide)
    · exact absurd (hb _ hmem) (by decide)
  obtain ⟨a, b, hl, ha, hb⟩ := exists_append_trim l
  conv_rhs => rw [hl]
  rw [countBraces_append, hbraces a ha, Option.bind_some, countBraces_append]
  cases countBraces depth entered (trim l) with
  | none => rfl
  | some state => exact (hbraces b hb _ _).symm

lemma countBraces_of_trim_eq (h : trim l = trim k) (depth : Int) (entered : Bool) :
    countBraces depth entered l = countBraces depth entered k := by
  rw [← countBraces_trim, h, countBraces_trim]

lemma occurs_of_trim_eq (h : trim l = trim k) : Header.occurs l = Header.occurs k := by
  unfold Header.occurs
  rcases Header.find?_of_trim_eq h with ⟨hl, hk⟩ | ⟨name, first, first', hl, hk, -⟩
  · rw [hl, hk]
  · rw [hl, hk]
    rfl

lemma gather_of_trim_eq (h : ls.map trim = ks.map trim) :
    (gather depth entered kept used ls).text.isSome =
        (gather depth entered kept' used ks).text.isSome ∧
      (gather depth entered kept used ls).used = (gather depth entered kept' used ks).used := by
  induction ls generalizing ks depth entered kept kept' used with
  | nil =>
    obtain rfl : ks = [] := by simpa using h.symm
    exact ⟨rfl, rfl⟩
  | cons l ls ih =>
    obtain ⟨k, ks, rfl, hk, hks⟩ := List.map_eq_cons_iff.mp h.symm
    rw [gather, gather, occurs_of_trim_eq hk, countBraces_of_trim_eq hk]
    split
    · exact ⟨rfl, rfl⟩
    · cases countBraces depth entered l with
      | none => exact ⟨rfl, rfl⟩
      | some state => exact ih hks.symm

lemma extent_of_trim_eq (hfirst : trim first = trim first') (h : ls.map trim = ks.map trim) :
    (extent first ls).text.isSome = (extent first' ks).text.isSome ∧
      (extent first ls).used = (extent first' ks).used := by
  rw [extent, extent, countBraces_of_trim_eq hfirst]
  cases countBraces 0 false first' with
  | none => exact ⟨rfl, rfl⟩
  | some state => exact gather_of_trim_eq h

lemma sameLines_of_extent (hfirst : trim first = trim first') (h : ls.map trim = ks.map trim)
    (hls : ∀ l ∈ first :: ls, '\n' ∉ l) (hks : ∀ k ∈ first' :: ks, '\n' ∉ k) {text text' : List Char}
    (htext : (extent first ls).text = some text) (htext' : (extent first' ks).text = some text') :
    SameLines text text' := by
  have hused := (extent_of_trim_eq hfirst h).2
  obtain ⟨taken, more, rfl, rfl, hlength, -⟩ := exists_taken_of_extent htext
  obtain ⟨taken', more', rfl, rfl, hlength', -⟩ := exists_taken_of_extent htext'
  rw [hlength, hlength', Nat.add_right_cancel_iff] at hused
  rw [List.map_append, List.map_append] at h
  have htaken := (List.append_inj h (by simpa using hused)).1
  have hlines := lines_unlines (List.cons_ne_nil first taken) fun l hl => hls l (by
    rw [← List.cons_append]
    exact List.mem_append_left _ hl)
  have hlines' := lines_unlines (List.cons_ne_nil first' taken') fun l hl => hks l (by
    rw [← List.cons_append]
    exact List.mem_append_left _ hl)
  rw [SameLines, hlines, hlines', List.map_cons, List.map_cons, hfirst, htaken]

/-- The scan makes the same of lines that are alike between their blanks. -/
theorem findingsFrom_of_trim_eq (h : ls.map trim = ks.map trim) (hls : ∀ l ∈ ls, '\n' ∉ l)
    (hks : ∀ k ∈ ks, '\n' ∉ k) (file : String) (number skip : Nat) :
    findingsFrom file number skip ls = findingsFrom file number skip ks := by
  induction ls generalizing ks number skip with
  | nil =>
    obtain rfl : ks = [] := by simpa using h.symm
    rfl
  | cons l ls ih =>
    obtain ⟨k, ks, rfl, hk, hrest⟩ := List.map_eq_cons_iff.mp h.symm
    have hrests := ih hrest.symm (fun l hl => hls l (List.mem_cons_of_mem _ hl))
      fun k hk => hks k (List.mem_cons_of_mem _ hk)
    cases skip with
    | succ skip => exact hrests _ _
    | zero =>
      rcases Header.find?_of_trim_eq hk.symm with ⟨hfl, hfk⟩ | ⟨name, first, first', hfl, hfk, hfirst⟩
      · simp only [findingsFrom, hfl, hfk, hrests]
      · have hnewline : '\n' ∉ first := fun hmem =>
          hls l List.mem_cons_self ((Header.of_find? hfl).2.subset hmem)
        have hnewline' : '\n' ∉ first' := fun hmem =>
          hks k List.mem_cons_self ((Header.of_find? hfk).2.subset hmem)
        obtain ⟨hsome, hused⟩ := extent_of_trim_eq hfirst hrest.symm
        simp only [findingsFrom, hfl, hfk, hused, hrests]
        congr 1
        cases htext : (extent first ls).text with
        | none =>
          rw [htext, Option.isSome_none, eq_comm, Option.isSome_eq_false_iff,
            Option.isNone_iff_eq_none] at hsome
          rw [hsome]
        | some text =>
          rw [htext, Option.isSome_some, eq_comm, Option.isSome_iff_exists] at hsome
          obtain ⟨text', htext'⟩ := hsome
          have hsame := sameLines_of_extent hfirst hrest.symm
            (by simpa [hnewline] using fun l hl => hls l (List.mem_cons_of_mem _ hl))
            (by simpa [hnewline'] using fun k hk => hks k (List.mem_cons_of_mem _ hk)) htext htext'
          rw [htext']
          simp only [ofText_of_sameLines hsame]

end Scan

/-- The text with a carriage return in front of each line feed. -/
def withReturns (s : List Char) : List Char :=
  ['\r', '\n'].intercalate (lines s)

lemma sameLines_intercalate {ls : List (List Char)} (hls : ∀ l ∈ ls, '\n' ∉ l) :
    SameLines (['\r', '\n'].intercalate ls) (unlines ls) := by
  induction ls with
  | nil => exact Eq.refl _
  | cons l ls ih =>
    have hrest := ih fun k hk => hls k (List.mem_cons_of_mem _ hk)
    cases ls with
    | nil => simp [unlines, SameLines]
    | cons k ls =>
      have hl : '\n' ∉ l := hls l List.mem_cons_self
      have hreturn : '\n' ∉ l ++ ['\r'] := by simp [hl]
      have htrim : trim (l ++ ['\r']) = trim l := trim_append_blanks (List.all_eq_true.mp (by decide))
      have hwith : ['\r', '\n'].intercalate (l :: k :: ls) =
          (l ++ ['\r']) ++ '\n' :: ['\r', '\n'].intercalate (k :: ls) := by
        rw [List.intercalate_cons_cons]
        simp
      rw [SameLines] at hrest ⊢
      rw [hwith, unlines_cons l (List.cons_ne_nil k ls), lines_append, lines_append,
        lines_eq_singleton hl, lines_eq_singleton hreturn, List.map_append, List.map_append, hrest,
        List.map_singleton, List.map_singleton, htrim]

/-- Texts that are alike line by line, between the blanks at the edges of the lines, have the same
declarations. In particular carriage returns at the ends of lines make no difference. -/
theorem parse_of_sameLines (file : String) :
    (∀ s t : List Char, SameLines s t → parse s file = parse t file) ∧
      ∀ s : List Char, parse (withReturns s) file = parse s file := by
  have hsame : ∀ s t : List Char, SameLines s t → parse s file = parse t file := by
    intro s t h
    have hfindings : findings s file = findings t file :=
      findingsFrom_of_trim_eq h (fun l hl => newline_not_mem_of_mem_lines hl)
        (fun k hk => newline_not_mem_of_mem_lines hk) file 1 0
    rw [parse, parse, hfindings]
  refine ⟨hsame, fun s => hsame _ _ ?_⟩
  have hlines := sameLines_intercalate fun l (hl : l ∈ lines s) => newline_not_mem_of_mem_lines hl
  rwa [unlines_lines] at hlines

/-- A member over several lines, indented with spaces. -/
def spaced : List Char :=
  " export type A =\n  B & \x7b\n    b: \x7b\n      c: d;\n    \x7d;\n  \x7d;".toList

/-- The same lines with tabs and carriage returns. -/
def tabbed : List Char :=
  "export type A =\r\n\tB & \x7b\r\nb: \x7b\r\n\t\tc: d;\r\n\x7d;\r\n\x7d;\r".toList

theorem parse_of_sameLines_tabbed :
    SameLines spaced tabbed ∧ parse spaced "" = parse tabbed "" := by
  have hsame : SameLines spaced tabbed := by
    unfold SameLines
    decide +kernel
  exact ⟨hsame, (parse_of_sameLines "").1 spaced tabbed hsame⟩

end Declaration

end TypeLineage
