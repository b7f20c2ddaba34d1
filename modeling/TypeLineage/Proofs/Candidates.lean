import Mathlib.Data.List.Basic
import Mathlib.Data.List.Infix
import Mathlib.Data.List.TakeWhile
import Mathlib.Tactic.Common
import TypeLineage.Declaration.Member
import TypeLineage.Proofs.Levels

/-!
# Candidates

The candidates that a body with paired braces is cut into. The depth that the cutting counts is the
number of braces that are open, as long as no line that it passes over has a brace; so each candidate
is a nested text.
-/

namespace TypeLineage

namespace Text

/-- No brace stands behind two slashes on one line. -/
def CommentsBraceless (text : List Char) : Prop :=
  ∀ comment, '\n' ∉ comment → '/' :: '/' :: comment <:+: text → '{' ∉ comment ∧ '}' ∉ comment

lemma CommentsBraceless.of_infix {s t : List Char} (h : CommentsBraceless t) (hs : s <:+: t) :
    CommentsBraceless s :=
  fun comment hnewline hcomment => h comment hnewline (hcomment.trans hs)

/-- The line is no comment line, or it has no brace. -/
def BracelessComment (line : List Char) : Prop :=
  "//".toList <+: trimStart line → '{' ∉ line ∧ '}' ∉ line

lemma CommentsBraceless.bracelessComment {line : List Char} (h : CommentsBraceless line)
    (hline : '\n' ∉ line) : BracelessComment line := by
  rintro ⟨comment, hcomment⟩
  have hsplit : line = line.takeWhile isBlank ++ '/' :: '/' :: comment := by
    conv_lhs => rw [← List.takeWhile_append_dropWhile (p := isBlank) (l := line)]
    rw [← trimStart, ← hcomment]
    rfl
  have hbraceless := h comment (fun hmem => hline (by rw [hsplit]; simp [hmem]))
    ⟨line.takeWhile isBlank, [], by rw [List.append_nil, ← hsplit]⟩
  have hblank : ∀ c, isBlank c = false → c ∉ line.takeWhile isBlank :=
    fun c hc hmem => by simp [List.mem_takeWhile_imp hmem] at hc
  rw [hsplit]
  simp [hblank _ (by decide : isBlank '{' = false), hblank _ (by decide : isBlank '}' = false),
    hbraceless]

/-- Looks behind all slashes, up to the end of their line. -/
def commentsBraceless : List Char → Bool
  | '/' :: '/' :: rest =>
    (rest.takeWhile (· ≠ '\n')).all (fun c => c ≠ '{' && c ≠ '}') && commentsBraceless ('/' :: rest)
  | _ :: rest => commentsBraceless rest
  | [] => true

lemma commentsBraceless_slashes {rest : List Char} : CommentsBraceless ('/' :: '/' :: rest) ↔
    (∀ c ∈ rest.takeWhile (· ≠ '\n'), c ≠ '{' ∧ c ≠ '}') ∧ CommentsBraceless ('/' :: rest) := by
  constructor
  · intro h
    refine ⟨fun c hc => ?_, h.of_infix (List.suffix_cons _ _).isInfix⟩
    have hnewline : '\n' ∉ rest.takeWhile (· ≠ '\n') := by
      intro hmem
      simpa using List.mem_takeWhile_imp hmem
    have hline : '/' :: '/' :: rest.takeWhile (· ≠ '\n') <+: '/' :: '/' :: rest := by
      simp only [List.cons_prefix_cons, true_and]
      exact List.takeWhile_prefix _
    obtain ⟨hopen, hclose⟩ := h _ hnewline hline.isInfix
    exact ⟨fun heq => hopen (heq ▸ hc), fun heq => hclose (heq ▸ hc)⟩
  · rintro ⟨hline, hrest⟩ comment hnewline hcomment
    rcases List.infix_cons_iff.mp hcomment with hfront | hcomment
    · simp only [List.cons_prefix_cons, true_and] at hfront
      obtain ⟨later, rfl⟩ := hfront
      have hne : ∀ d ∈ comment, decide (d ≠ '\n') = true := by
        intro d hd
        simpa using fun heq : d = '\n' => hnewline (heq ▸ hd)
      rw [List.takeWhile_append_of_pos hne] at hline
      have hall := fun c hc => hline c (List.mem_append_left _ hc)
      exact ⟨fun hmem => (hall _ hmem).1 rfl, fun hmem => (hall _ hmem).2 rfl⟩
    · exact hrest comment hnewline hcomment

lemma commentsBraceless_iff {text : List Char} :
    commentsBraceless text = true ↔ CommentsBraceless text := by
  fun_induction commentsBraceless text with
  | case1 rest ih => simp [commentsBraceless_slashes, ih]
  | case2 c rest hslashes ih =>
    rw [ih]
    refine ⟨fun h comment hnewline hcomment => ?_, fun h => h.of_infix (List.suffix_cons _ _).isInfix⟩
    rcases List.infix_cons_iff.mp hcomment with ⟨later, hfront⟩ | hcomment
    · simp only [List.cons_append, List.cons.injEq] at hfront
      exact absurd hfront.2.symm (hslashes _ hfront.1.symm)
    · exact h comment hnewline hcomment
  | case3 =>
    refine iff_of_true rfl fun comment _ hcomment => ?_
    cases List.infix_nil.mp hcomment

instance (text : List Char) : Decidable (CommentsBraceless text) :=
  decidable_of_iff _ commentsBraceless_iff

end Text

namespace Member

open Text

/-- A piece of a body that can be a member: it is trimmed, on one line, with paired braces and no
semicolon outside of them. -/
structure IsCandidate (s : List Char) : Prop where
  ne_nil : s ≠ []
  trimmed : Trimmed s
  nested : Nested (· ≠ ';') s
  newline_not_mem : '\n' ∉ s

namespace Cutting

/-- What is cut off are candidates, and the depth is the number of braces that the next one has
opened. -/
structure Sound (s : Cutting) (level : Nat) : Prop where
  depth : s.depth = level
  pending : Levels (· ≠ ';') 0 s.pending.reverse level
  newline : '\n' ∉ s.pending
  finished : ∀ c ∈ s.finished, IsCandidate c

variable {s : Cutting} {n m : Nat} {c : Char} {text raw : List Char}

lemma Sound.flush (h : s.Sound 0) : s.flush.Sound 0 := by
  refine ⟨h.depth, .nil, List.not_mem_nil, fun candidate hc => ?_⟩
  rw [Cutting.flush] at hc
  simp only at hc
  split at hc
  · exact h.finished candidate hc
  · rename_i hne
    rcases List.mem_cons.mp hc with rfl | hc
    · refine ⟨by simpa using hne, trimmed_trim _, h.pending.trimmed.nested, fun hmem => ?_⟩
      obtain ⟨a, b, hpending, -, -⟩ := exists_append_trim s.pending.reverse
      apply h.newline
      rw [← List.mem_reverse, hpending]
      simp [hmem]
    · exact h.finished candidate hc

lemma Sound.push (h : s.Sound n) (hc : c ≠ '\n') (hlevels : Levels (· ≠ ';') n [c] m)
    (depth : Int) (hdepth : depth = m) : Sound { s.push c with depth := depth } m := by
  refine ⟨hdepth, ?_, ?_, h.finished⟩
  · rw [Cutting.push]
    simp only [List.reverse_cons]
    exact h.pending.append hlevels
  · rw [Cutting.push]
    simp only [List.mem_cons, not_or]
    exact ⟨Ne.symm hc, h.newline⟩

lemma Sound.char (h : s.Sound n) (hc : c ≠ '\n') (hlevels : Levels (fun _ => True) n [c] m) :
    (s.char c).Sound m := by
  rw [Cutting.char]
  cases hlevels with
  | opening hrest =>
    cases hrest
    rw [if_pos rfl]
    exact h.push hc (.opening .nil) _ (by rw [h.depth]; rfl)
  | closing hrest =>
    cases hrest
    rw [if_neg (by decide), if_pos rfl]
    exact h.push hc (.closing .nil) _ (by rw [h.depth]; simp)
  | char hopen hclose _ hrest =>
    cases hrest
    rw [if_neg hopen, if_neg hclose]
    split
    · rename_i hcut
      have hn : n = 0 := by
        have hdepth := h.depth
        rw [hcut.2] at hdepth
        omega
      subst hn
      exact h.flush
    · rename_i hcut
      refine h.push hc (.char hopen hclose (fun hn => ?_) .nil) _ h.depth
      rintro rfl
      exact hcut ⟨rfl, by rw [h.depth, hn]; rfl⟩

lemma Sound.foldl_char (h : s.Sound n) (htext : '\n' ∉ text)
    (hlevels : Levels (fun _ => True) n text m) : (text.foldl Cutting.char s).Sound m := by
  induction text generalizing s n with
  | nil =>
    cases hlevels
    exact h
  | cons c text ih =>
    rw [← List.singleton_append] at hlevels
    obtain ⟨k, hc, hrest⟩ := hlevels.exists_of_append
    rw [List.mem_cons, not_or] at htext
    exact ih (h.char (Ne.symm htext.1) hc) htext.2 hrest

lemma eq_of_isFiller (hfiller : isFiller (trim raw) = true) (hcomment : BracelessComment raw)
    (hlevels : Levels (fun _ => True) n raw m) : n = m := by
  rw [isFiller, Bool.or_eq_true, List.isEmpty_iff, List.isPrefixOf_iff_prefix] at hfiller
  rcases hfiller with hempty | hslashes
  · have htrimmed := hlevels.trimmed
    rw [hempty] at htrimmed
    cases htrimmed
    rfl
  · obtain ⟨hopen, hclose⟩ := hcomment (hslashes.trans <| trimEnd_prefix _)
    exact hlevels.eq_of_braceless hopen hclose

lemma Sound.line (h : s.Sound n) (hraw : '\n' ∉ raw) (hcomment : BracelessComment raw)
    (hlevels : Levels (fun _ => True) n raw m) : (s.line raw).Sound m := by
  have htrim : '\n' ∉ trim raw := by
    obtain ⟨a, b, heq, -, -⟩ := exists_append_trim raw
    intro hmem
    exact hraw (by rw [heq]; simp [hmem])
  rw [Cutting.line]
  split
  · rename_i hfiller
    rw [← eq_of_isFiller hfiller.2 hcomment hlevels]
    exact h
  -- The level is never below zero here, so the depth is only forgotten where it is zero.
  · have hfold := h.foldl_char htrim hlevels.trimmed
    simp only
    split
    · rename_i hdepth
      have hm : m = 0 := by
        rw [hfold.depth] at hdepth
        omega
      subst hm
      exact ⟨rfl, hfold.flush.pending, hfold.flush.newline, hfold.flush.finished⟩
    · rename_i hdepth
      have hblank : Levels (· ≠ ';') m [' '] m :=
        .char (by decide) (by decide) (fun _ => by decide) .nil
      exact hfold.push (by decide) hblank _ hfold.depth

lemma Sound.foldl_line {ls : List (List Char)} (h : s.Sound n) (hnewline : ∀ l ∈ ls, '\n' ∉ l)
    (hcomments : ∀ l ∈ ls, BracelessComment l)
    (hlevels : Levels (fun _ => True) n (unlines ls) m) : (ls.foldl Cutting.line s).Sound m := by
  induction ls generalizing s n with
  | nil =>
    cases hlevels
    exact h
  | cons l ls ih =>
    have hl {k : Nat} (hfirst : Levels (fun _ => True) n l k) : (s.line l).Sound k :=
      h.line (hnewline l List.mem_cons_self) (hcomments l List.mem_cons_self) hfirst
    cases ls with
    | nil =>
      rw [unlines, List.intercalate_singleton] at hlevels
      exact hl hlevels
    | cons k ls =>
      rw [unlines_cons l (List.cons_ne_nil k ls)] at hlevels
      obtain ⟨n', hfirst, hlevels⟩ := hlevels.exists_of_append
      rw [← List.singleton_append] at hlevels
      obtain ⟨n'', hend, hrest⟩ := hlevels.exists_of_append
      obtain rfl := hend.eq_of_braceless (by decide) (by decide)
      exact ih (hl hfirst) (fun l hl => hnewline l (List.mem_cons_of_mem _ hl))
        (fun l hl => hcomments l (List.mem_cons_of_mem _ hl)) hrest

lemma flush_blanks {a b : List Char} (ha : ∀ c ∈ a, isBlank c = true)
    (hb : ∀ c ∈ b, isBlank c = true) :
    Cutting.flush { s with pending := b ++ (s.pending ++ a) } = s.flush := by
  have hfront : ∀ c ∈ a.reverse, isBlank c = true := fun c hc => ha c (List.mem_reverse.mp hc)
  have hback : ∀ c ∈ b.reverse, isBlank c = true := fun c hc => hb c (List.mem_reverse.mp hc)
  have htrim : trim (b ++ (s.pending ++ a)).reverse = trim s.pending.reverse := by
    rw [List.reverse_append, List.reverse_append, trim_append_blanks hback, trim,
      trimStart_append_blanks hfront, trim]
  rw [Cutting.flush, Cutting.flush]
  simp only [htrim]

lemma foldl_char_of_blanks {b : List Char} (hb : ∀ c ∈ b, isBlank c = true) (s : Cutting) :
    b.foldl Cutting.char s = { s with pending := b.reverse ++ s.pending } := by
  induction b generalizing s with
  | nil => rfl
  | cons c b ih =>
    rw [List.forall_mem_cons] at hb
    have hne : ∀ d, isBlank d = false → c ≠ d := by
      rintro d hd rfl
      rw [hb.1] at hd
      cases hd
    have hchar : s.char c = s.push c := by
      rw [Cutting.char, if_neg (hne _ (by decide)), if_neg (hne _ (by decide)),
        if_neg fun h => hne _ (by decide) h.1]
    rw [List.foldl_cons, hchar, ih hb.2, Cutting.push]
    simp

lemma exists_foldl_char_blanks {a : List Char} (ha : ∀ c ∈ a, isBlank c = true) (s : Cutting)
    (text : List Char) : ∃ a', (∀ c ∈ a', isBlank c = true) ∧
      text.foldl Cutting.char { s with pending := s.pending ++ a } =
        { text.foldl Cutting.char s with pending := (text.foldl Cutting.char s).pending ++ a' } := by
  induction text generalizing s with
  | nil => exact ⟨a, ha, rfl⟩
  | cons c text ih =>
    rw [List.foldl_cons, List.foldl_cons]
    by_cases hopen : c = '{'
    · have hchar : ∀ s : Cutting, s.char c = { s.push c with depth := s.depth + 1 } :=
        fun s => by rw [Cutting.char, if_pos hopen]
      rw [hchar, hchar]
      exact ih { s.push c with depth := s.depth + 1 }
    · by_cases hclose : c = '}'
      · have hchar : ∀ s : Cutting, s.char c = { s.push c with depth := s.depth - 1 } :=
          fun s => by rw [Cutting.char, if_neg hopen, if_pos hclose]
        rw [hchar, hchar]
        exact ih { s.push c with depth := s.depth - 1 }
      · by_cases hcut : c = ';' ∧ s.depth = 0
        · have hflush := flush_blanks (s := s) ha (b := []) (by simp)
          rw [List.nil_append] at hflush
          refine ⟨[], by simp, ?_⟩
          rw [Cutting.char, Cutting.char, if_neg hopen, if_neg hopen, if_neg hclose, if_neg hclose,
            if_pos hcut, if_pos hcut, hflush, List.append_nil]
        · rw [Cutting.char, Cutting.char, if_neg hopen, if_neg hopen, if_neg hclose,
            if_neg hclose, if_neg hcut, if_neg hcut]
          exact ih (s.push c)

theorem line_eq_flush (finished : List (List Char)) (hcomment : ¬ "//".toList <+: trimStart raw)
    (hdepth : (raw.foldl Cutting.char ⟨finished, [], 0⟩).depth = 0) :
    Cutting.line ⟨finished, [], 0⟩ raw = (raw.foldl Cutting.char ⟨finished, [], 0⟩).flush := by
  obtain ⟨a, b, hraw, ha, hb⟩ := exists_append_trim raw
  have hreverse : ∀ c ∈ a.reverse, isBlank c = true := fun c hc => ha c (List.mem_reverse.mp hc)
  obtain ⟨a', ha', hcore⟩ := exists_foldl_char_blanks hreverse ⟨finished, [], 0⟩ (trim raw)
  generalize hend : (trim raw).foldl Cutting.char ⟨finished, [], 0⟩ = last at hcore
  have hfold : raw.foldl Cutting.char ⟨finished, [], 0⟩ =
      { last with pending := b.reverse ++ (last.pending ++ a') } := by
    conv_lhs => rw [hraw]
    rw [List.foldl_append, List.foldl_append, foldl_char_of_blanks ha, foldl_char_of_blanks hb,
      List.append_nil]
    rw [List.nil_append] at hcore
    rw [hcore]
  have hreverse' : ∀ c ∈ b.reverse, isBlank c = true := fun c hc => hb c (List.mem_reverse.mp hc)
  have hlast : last.depth = 0 := by rwa [hfold] at hdepth
  rw [hfold, flush_blanks ha' hreverse']
  by_cases hfiller : isFiller (trim raw) = true
  · rw [isFiller, Bool.or_eq_true, List.isEmpty_iff, List.isPrefixOf_iff_prefix] at hfiller
    have hempty : trim raw = [] :=
      hfiller.resolve_right fun h => hcomment (h.trans <| trimEnd_prefix _)
    rw [Cutting.line, hempty, if_pos ⟨rfl, rfl⟩, ← hend, hempty]
    rfl
  · rw [Cutting.line, if_neg fun h => hfiller h.2, hend]
    simp only [hlast, Int.le_refl, if_true]
    rw [← hlast]
    rfl

end Cutting

lemma IsCandidate.foldl_char_open {indent candidate : List Char} (hc : IsCandidate candidate)
    (hindent : ∀ c ∈ indent, isBlank c = true) (finished : List (List Char)) :
    (indent ++ candidate).foldl Cutting.char ⟨finished, [], 0⟩ =
      ⟨finished, candidate.reverse ++ indent.reverse, 0⟩ := by
  rw [List.foldl_append, Cutting.foldl_char_of_blanks hindent,
    hc.nested.foldl_char finished _ (Int.le_refl 0) fun _ _ h => h, List.append_nil]

lemma IsCandidate.foldl_char {indent candidate : List Char} (hc : IsCandidate candidate)
    (hindent : ∀ c ∈ indent, isBlank c = true) (finished : List (List Char)) :
    (indent ++ (candidate ++ [';'])).foldl Cutting.char ⟨finished, [], 0⟩ =
      ⟨candidate :: finished, [], 0⟩ := by
  have hflush : Cutting.flush ⟨finished, candidate.reverse ++ indent.reverse, 0⟩ =
      ⟨candidate :: finished, [], 0⟩ := by
    have hreverse : ∀ c ∈ indent.reverse, isBlank c = true :=
      fun c hc => hindent c (List.mem_reverse.mp hc)
    have hblanks := Cutting.flush_blanks (s := ⟨finished, candidate.reverse, 0⟩) hreverse (b := [])
      (by simp)
    rw [List.nil_append] at hblanks
    rw [hblanks, Cutting.flush]
    simp [hc.trimmed.trim_eq, hc.ne_nil]
  rw [← List.append_assoc, List.foldl_append, hc.foldl_char_open hindent]
  exact hflush

theorem IsCandidate.cutting_line {indent candidate : List Char} (hc : IsCandidate candidate)
    (hindent : ∀ c ∈ indent, isBlank c = true)
    (hcomment : "//".toList.isPrefixOf (candidate ++ [';']) = false) (finished : List (List Char)) :
    Cutting.line ⟨finished, [], 0⟩ (indent ++ (candidate ++ [';'])) =
      ⟨candidate :: finished, [], 0⟩ := by
  have hfold := hc.foldl_char hindent finished
  have htrim : trimStart (indent ++ (candidate ++ [';'])) = candidate ++ [';'] := by
    rw [trimStart_append_blanks hindent]
    apply trimStart_eq_self
    rw [List.head?_append_of_ne_nil _ hc.ne_nil]
    exact hc.trimmed.head
  rw [Cutting.line_eq_flush, hfold]
  · rfl
  · rw [htrim, ← List.isPrefixOf_iff_prefix, hcomment]
    simp
  · rw [hfold]

/-- A body whose lines each add some candidates is cut into these candidates. -/
theorem candidates_of_rows {α : Type} {text : α → List Char} {candidates' : α → List (List Char)}
    {ls : List α} (hnewline : ∀ l ∈ ls, '\n' ∉ text l)
    (hline : ∀ l ∈ ls, ∀ finished, Cutting.line ⟨finished, [], 0⟩ (text l) =
      ⟨(candidates' l).reverse ++ finished, [], 0⟩) :
    candidates (unlines (ls.map text)) = ls.flatMap candidates' := by
  have hfold : ∀ finished, (ls.map text).foldl Cutting.line ⟨finished, [], 0⟩ =
      ⟨(ls.flatMap candidates').reverse ++ finished, [], 0⟩ := by
    clear hnewline
    induction ls with
    | nil => exact fun _ => rfl
    | cons l ls ih =>
      intro finished
      rw [List.map_cons, List.foldl_cons, hline l List.mem_cons_self,
        ih fun k hk => hline k (List.mem_cons_of_mem _ hk)]
      simp
  by_cases hempty : ls = []
  · subst hempty
    rfl
  · have hlines : lines (unlines (ls.map text)) = ls.map text := by
      refine lines_unlines (by simpa using hempty) fun line hmem => ?_
      obtain ⟨l, hl, rfl⟩ := List.mem_map.mp hmem
      exact hnewline l hl
    rw [candidates, hlines, hfold]
    simp [Cutting.flush, trim, trimStart, trimEnd]

theorem candidates_of_lines {α : Type} {text : α → List Char} {candidate? : α → Option (List Char)}
    {ls : List α} (hnewline : ∀ l ∈ ls, '\n' ∉ text l)
    (hline : ∀ l ∈ ls, ∀ finished, Cutting.line ⟨finished, [], 0⟩ (text l) =
      ⟨(candidate? l).toList ++ finished, [], 0⟩) :
    candidates (unlines ([] :: (ls.map text ++ [[]]))) = ls.filterMap candidate? := by
  -- The rests of the first and of the last line add nothing.
  have hrows := @candidates_of_rows (Option α) (fun l => (l.map text).getD [])
    (fun l => (l.bind candidate?).toList) (none :: (ls.map some ++ [none]))
    (by
      intro l hl
      rcases l with _ | l
      · exact List.not_mem_nil
      · exact hnewline l (by simpa using hl))
    (by
      intro l hl finished
      rcases l with _ | l
      · rfl
      · have hone := hline l (by simpa using hl) finished
        simp only [Option.map_some, Option.getD_some, Option.bind_some, hone]
        cases candidate? l <;> rfl)
  have htext : (none :: (ls.map some ++ [none])).map (fun l : Option α => (l.map text).getD []) =
      [] :: (ls.map text ++ [[]]) := by simp
  have hcandidates : (none :: (ls.map some ++ [none])).flatMap
      (fun l => (l.bind candidate?).toList) = ls.filterMap candidate? := by
    simp [List.flatMap_append, List.flatMap_map, List.filterMap_eq_flatMap_toList]
  rw [← htext, hrows, hcandidates]

/-- A body with paired braces, none of them in a comment, is cut into candidates. -/
theorem isCandidate_of_mem_candidates {body candidate : List Char}
    (hbody : Levels (fun _ => True) 0 body 0) (hcomments : CommentsBraceless body)
    (hc : candidate ∈ candidates body) : IsCandidate candidate := by
  have hstart : (⟨[], [], 0⟩ : Cutting).Sound 0 := ⟨rfl, .nil, List.not_mem_nil, by simp⟩
  have hlines : ((lines body).foldl Cutting.line ⟨[], [], 0⟩).Sound 0 := by
    refine hstart.foldl_line (fun l hl => separator_not_mem_of_mem_cut hl) (fun l hl => ?_) ?_
    · exact (hcomments.of_infix (infix_of_mem_lines hl)).bracelessComment
        (separator_not_mem_of_mem_cut hl)
    rw [unlines_lines]
    exact hbody
  rw [candidates, List.mem_reverse] at hc
  exact hlines.flush.finished candidate hc

end Member

end TypeLineage
