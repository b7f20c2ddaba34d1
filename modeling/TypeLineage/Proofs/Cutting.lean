import Mathlib.Data.List.Basic
import Mathlib.Data.List.Infix
import Mathlib.Tactic.Common
import TypeLineage.Proofs.Pieces
import TypeLineage.Proofs.Remarks
import TypeLineage.Proofs.Slots

/-!
# From lines to pieces

The cutting goes line by line: it trims a line before it reads it, passes over blank lines and comment
lines outside of braces, and keeps the text of a member over the lines of its braces. What it cuts off
are the pieces of the body as a whole, each brought to one line.

Two steps lead there. The cutting gives the pieces of the trimmed lines with spaces for their newlines,
and these come out like the tidied pieces of the lines as they are.
-/

namespace TypeLineage.Member

open Text

section Alignment

variable {n : Int} {a b t p q s s' : List Char} {c : Char}

/-- A piece from the start of a line on, and the same piece of the trimmed lines. -/
def FromStart (p q : List Char) : Prop :=
  trimEnd (joined p) = trimEnd (flat q)

/-- A piece from within a line on, and the same piece of the trimmed lines. The line goes on with a text
and ends with blanks. -/
inductive FromWithin (t b : List Char) : List Char → List Char → Prop where
  | inLine {u b' : List Char} (hu : u <+: t) (hb' : b' <+: b) : FromWithin t b (u ++ b') u
  | beyond {p q : List Char} (h : FromStart p q) :
      FromWithin t b (t ++ (b ++ '\n' :: p)) (t ++ '\n' :: q)

/-- The pieces of two texts, the second with trimmed lines, come out alike. -/
def Alike (n : Int) (s s' : List Char) : Prop :=
  ∃ p ps q qs, pieces n s = p :: ps ∧ pieces n s' = q :: qs ∧ FromStart p q ∧
    ps.map tidy = qs.map (trim ∘ flat)

namespace FromWithin

lemma cons (c : Char) (h : FromWithin t b p q) : FromWithin (c :: t) b (c :: p) (c :: q) := by
  cases h with
  | inLine hu hb' => exact .inLine (List.cons_prefix_cons.mpr ⟨rfl, hu⟩) hb'
  | beyond h => exact .beyond h

variable (hb : ∀ c ∈ b, isBlank c = true) (hbn : '\n' ∉ b) (htn : '\n' ∉ t)

include hb hbn htn

lemma tidy_eq (h : FromWithin t b p q) (hlast : ∀ c ∈ t.getLast?, isBlank c = false) :
    tidy p = trim (flat q) := by
  cases h with
  | @inLine u b' hu hb' =>
    have hu' : '\n' ∉ q := fun hmem => htn (hu.subset hmem)
    have hmem : '\n' ∉ q ++ b' := by
      rw [List.mem_append, not_or]
      exact ⟨hu', fun hmem => hbn (hb'.subset hmem)⟩
    rw [tidy, joined_of_newline_not_mem hmem, trim_append_blanks fun c hc => hb c (hb'.subset hc),
      (trimmed_trim q).trim_eq, flat_of_newline_not_mem hu']
  | @beyond p q h =>
    obtain ⟨a, ht, ha⟩ := exists_blanks_append_trim hlast
    have hline : '\n' ∉ t ++ b := by
      rw [List.mem_append, not_or]
      exact ⟨htn, hbn⟩
    rw [tidy, ← List.append_assoc, joined_append_newline hline, flat_append_newline htn,
      trim_append_blanks hb]
    conv_rhs => rw [ht, List.append_assoc, trim_blanks_append ha]
    exact trim_congr (trimEnd_append_congr (trimEnd_append_congr h [' ']) _)

lemma fromStart (h : FromWithin t b p q) (ht : Trimmed t) (ha : ∀ c ∈ a, isBlank c = true)
    (han : '\n' ∉ a) : FromStart (a ++ p) q := by
  cases h with
  | @inLine u b' hu hb' =>
    have hu' : '\n' ∉ q := fun hmem => htn (hu.subset hmem)
    have hhead : ∀ c ∈ q.head?, isBlank c = false := by
      intro c hc
      obtain ⟨rest, rfl⟩ := hu
      apply ht.head
      rw [List.head?_append, Option.mem_def.mp hc]
      rfl
    have hmem : '\n' ∉ a ++ (q ++ b') := by
      rw [List.mem_append, List.mem_append, not_or, not_or]
      exact ⟨han, hu', fun hmem => hbn (hb'.subset hmem)⟩
    rw [FromStart, joined_of_newline_not_mem hmem, trim_blanks_append ha,
      trim_append_blanks fun c hc => hb c (hb'.subset hc), flat_of_newline_not_mem hu', trim,
      trimStart_eq_self hhead, trimEnd_trimEnd]
  | @beyond p q h =>
    have hline : '\n' ∉ a ++ (t ++ b) := by
      rw [List.mem_append, List.mem_append, not_or, not_or]
      exact ⟨han, htn, hbn⟩
    have hassoc : a ++ (t ++ (b ++ '\n' :: p)) = (a ++ (t ++ b)) ++ '\n' :: p := by simp
    rw [FromStart, hassoc, joined_append_newline hline, flat_append_newline htn,
      trim_blanks_append ha, trim_append_blanks hb, ht.trim_eq]
    exact trimEnd_append_congr (trimEnd_append_congr h [' ']) t

end FromWithin

lemma tidy_eq_of_fromStart (h : FromStart p q) : tidy p = trim (flat q) :=
  trim_congr h

lemma exists_fromWithin (hb : ∀ c ∈ b, isBlank c = true) (hbn : '\n' ∉ b) (htn : '\n' ∉ t)
    (hlast : ∀ c ∈ t.getLast?, isBlank c = false)
    (hrest : (s = [] ∧ s' = []) ∨
      ∃ r r', s = '\n' :: r ∧ s' = '\n' :: r' ∧ Alike (n + level t) r r') :
    ∃ p ps q qs, pieces n (t ++ (b ++ s)) = p :: ps ∧ pieces n (t ++ s') = q :: qs ∧
      FromWithin t b p q ∧ ps.map tidy = qs.map (trim ∘ flat) := by
  -- The induction is on the rest of the line. A semicolon in it ends a piece, and the next piece begins
  -- within the line, so its first line is only trimmed at the end.
  induction t generalizing n with
  | nil =>
    rw [List.nil_append, List.nil_append, pieces_blanks_append hb hbn]
    obtain ⟨rfl, rfl⟩ | ⟨r, r', rfl, rfl, p, ps, q, qs, hp, hq, hstart, hlater⟩ := hrest
    · exact ⟨b ++ [], [], [], [], rfl, rfl,
        by simpa using .inLine List.prefix_rfl List.prefix_rfl, rfl⟩
    · rw [level_nil, Int.add_zero] at hp hq
      cases hsep : isSeparator (n, '\n') with
      | true =>
        rw [pieces_cons_of_separator hsep, pieces_cons_of_separator hsep, hp, hq]
        refine ⟨b ++ [], p :: ps, [], q :: qs, rfl, rfl, ?_, ?_⟩
        · simpa using .inLine List.prefix_rfl List.prefix_rfl
        · rw [List.map_cons, List.map_cons, hlater, tidy_eq_of_fromStart hstart]
          rfl
      | false =>
        have hlevel : level ['\n'] = 0 := rfl
        rw [pieces_cons_of_not_separator hsep, pieces_cons_of_not_separator hsep, hlevel, Int.add_zero,
          hp, hq]
        exact ⟨_, ps, _, qs, rfl, rfl, .beyond hstart, hlater⟩
  | cons c t ih =>
    rw [List.mem_cons, not_or] at htn
    have hlast' : ∀ c ∈ t.getLast?, isBlank c = false := by
      intro d hd
      apply hlast
      rw [← List.singleton_append, List.getLast?_append, Option.mem_def.mp hd]
      rfl
    rw [level_cons, ← Int.add_assoc] at hrest
    obtain ⟨p, ps, q, qs, hp, hq, hwithin, hlater⟩ := ih htn.2 hlast' hrest
    rw [List.cons_append, List.cons_append]
    cases hsep : isSeparator (n, c) with
    | true =>
      rw [level_of_isSeparator hsep, Int.add_zero] at hp hq
      rw [pieces_cons_of_separator hsep, pieces_cons_of_separator hsep, hp, hq]
      refine ⟨[], p :: ps, [], q :: qs, rfl, rfl, .inLine List.nil_prefix List.nil_prefix, ?_⟩
      rw [List.map_cons, List.map_cons, hlater, hwithin.tidy_eq hb hbn htn.2 hlast']
      rfl
    | false =>
      rw [pieces_cons_of_not_separator hsep, pieces_cons_of_not_separator hsep, hp, hq]
      exact ⟨_, ps, _, qs, rfl, rfl, hwithin.cons c, hlater⟩

lemma alike_unlines {ls : List (List Char)} (hls : ∀ l ∈ ls, '\n' ∉ l) (n : Int) :
    Alike n (unlines ls) (unlines (ls.map trim)) := by
  induction ls generalizing n with
  | nil => exact ⟨[], [], [], [], rfl, rfl, rfl, rfl⟩
  | cons l ls ih =>
    obtain ⟨hl, hls⟩ := List.forall_mem_cons.mp hls
    obtain ⟨a, b, hsplit, ha, hb⟩ := exists_append_trim l
    have hmem : '\n' ∉ a ++ (trim l ++ b) := hsplit ▸ hl
    rw [List.mem_append, List.mem_append, not_or, not_or] at hmem
    obtain ⟨s, s', hs, hs', hrest⟩ : ∃ s s', unlines (l :: ls) = l ++ s ∧
        unlines ((l :: ls).map trim) = trim l ++ s' ∧ ((s = [] ∧ s' = []) ∨
          ∃ r r', s = '\n' :: r ∧ s' = '\n' :: r' ∧ Alike (n + level (trim l)) r r') := by
      by_cases hnil : ls = []
      · subst hnil
        exact ⟨[], [], by simp [unlines], by simp [unlines], .inl ⟨rfl, rfl⟩⟩
      · exact ⟨_, _, unlines_cons l hnil, unlines_cons (trim l) (by simpa using hnil),
          .inr ⟨_, _, rfl, rfl, ih hls _⟩⟩
    obtain ⟨p, ps, q, qs, hp, hq, hwithin, hlater⟩ :=
      exists_fromWithin hb hmem.2.2 hmem.2.1 (trimmed_trim l).last hrest
    refine ⟨a ++ p, ps, q, qs, ?_, by rw [hs', hq],
      hwithin.fromStart hb hmem.2.2 hmem.2.1 (trimmed_trim l) ha hmem.1, hlater⟩
    have hwhole : unlines (l :: ls) = a ++ (trim l ++ (b ++ s)) := by
      rw [hs]
      conv_lhs => rw [hsplit]
      simp
    rw [hwhole, pieces_blanks_append ha hmem.1, hp, List.modifyHead_cons]

lemma map_tidy_pieces {ls : List (List Char)} (hls : ∀ l ∈ ls, '\n' ∉ l) (n : Int) :
    (pieces n (unlines (ls.map trim))).map (trim ∘ flat) = (pieces n (unlines ls)).map tidy := by
  obtain ⟨p, ps, q, qs, hp, hq, hstart, hlater⟩ := alike_unlines hls n
  rw [hp, hq, List.map_cons, List.map_cons, hlater, tidy_eq_of_fromStart hstart]
  rfl

end Alignment

namespace Cutting

variable {state : Cutting} {c : Char} {raw s text : List Char}

/-- What is cut off in the end where nothing but the text follows. -/
def outcome (state : Cutting) (s : List Char) : List (List Char) :=
  (nonblank (((pieces state.depth s).map flat).modifyHead (state.pending.reverse ++ ·))).reverse ++
    state.finished

lemma outcome_nil (state : Cutting) : state.outcome [] = state.flush.finished := by
  obtain ⟨finished, pending, depth⟩ := state
  rw [flush_mk, outcome]
  simp [flat]

lemma outcome_start (s : List Char) :
    Cutting.outcome ⟨[], [], 0⟩ s = (nonblank ((pieces 0 s).map flat)).reverse := by
  obtain ⟨p, ps, hp⟩ := List.exists_cons_of_ne_nil (pieces_ne_nil 0 s)
  rw [outcome, hp, List.append_nil]
  rfl

lemma outcome_flush (hc : isSeparator (state.depth, c) = true) (s : List Char) :
    state.flush.outcome s = state.outcome (c :: s) := by
  obtain ⟨finished, pending, depth⟩ := state
  obtain ⟨p, ps, hp⟩ := List.exists_cons_of_ne_nil (pieces_ne_nil depth s)
  rw [flush_mk, outcome, outcome, pieces_cons_of_separator hc, hp]
  simp [flat, nonblank_cons pending.reverse (_ :: _)]

lemma outcome_push (hc : isSeparator (state.depth, c) = false) (s : List Char) :
    outcome { state.push (if c = '\n' then ' ' else c) with depth := state.depth + level [c] } s =
      state.outcome (c :: s) := by
  obtain ⟨p, ps, hp⟩ := List.exists_cons_of_ne_nil (pieces_ne_nil (state.depth + level [c]) s)
  rw [outcome, outcome, pieces_cons_of_not_separator hc, hp, Cutting.push]
  simp [flat]

lemma char_eq (hc : c ≠ '\n') : state.char c =
    if isSeparator (state.depth, c) then state.flush
    else { state.push c with depth := state.depth + level [c] } := by
  rw [Cutting.char]
  by_cases hopen : c = '{'
  · subst hopen
    rw [if_pos rfl, if_neg (by simp [isSeparator])]
    rfl
  · by_cases hclose : c = '}'
    · subst hclose
      rw [if_neg hopen, if_pos rfl, if_neg (by simp [isSeparator])]
      rfl
    · rw [if_neg hopen, if_neg hclose, level_singleton hopen hclose, Int.add_zero]
      simp only [isSeparator_iff, hc, false_or, and_comm]
      rfl

lemma outcome_char (hc : c ≠ '\n') (s : List Char) :
    (state.char c).outcome s = state.outcome (c :: s) := by
  rw [char_eq hc]
  split
  · rename_i hsep
    exact outcome_flush hsep s
  · rename_i hsep
    have hpush := outcome_push (Bool.eq_false_iff.mpr hsep) s
    rwa [if_neg hc] at hpush

lemma outcome_foldl_char (htext : '\n' ∉ text) (s : List Char) :
    (text.foldl Cutting.char state).outcome s = state.outcome (text ++ s) := by
  induction text generalizing state with
  | nil => rfl
  | cons c text ih =>
    rw [List.mem_cons, not_or] at htext
    rw [List.foldl_cons, ih htext.2, outcome_char (Ne.symm htext.1)]
    rfl

lemma depth_foldl_char (htext : '\n' ∉ text) :
    (text.foldl Cutting.char state).depth = state.depth + level text := by
  induction text generalizing state with
  | nil => simp
  | cons c text ih =>
    rw [List.mem_cons, not_or] at htext
    rw [List.foldl_cons, ih htext.2, char_eq (Ne.symm htext.1), level_cons c text,
      ← Int.add_assoc]
    split
    · rename_i hsep
      rw [level_of_isSeparator hsep, Int.add_zero]
      rfl
    · rfl

lemma outcome_endLine (hdepth : 0 ≤ state.depth) (s : List Char) :
    state.endLine.outcome s = state.outcome ('\n' :: s) := by
  cases hsep : isSeparator (state.depth, '\n') with
  | true =>
    rw [endLine_of_depth (isSeparator_iff.mp hsep).1, outcome_flush hsep]
  | false =>
    have hpush := outcome_push hsep s
    have hlevel : level ['\n'] = 0 := rfl
    have hne : ¬ state.depth ≤ 0 := by
      intro hle
      have hzero : state.depth = 0 := by omega
      simp [isSeparator, hzero] at hsep
    rw [if_pos rfl, hlevel, Int.add_zero] at hpush
    rw [endLine, if_neg hne]
    exact hpush

lemma finished_flush_endLine (state : Cutting) :
    state.endLine.flush.finished = state.flush.finished := by
  rw [endLine]
  split
  · simp [Cutting.flush, trim, trimStart, trimEnd]
  · have hspace := flush_blanks (s := state) (a := []) (b := [' ']) (by simp) isBlank_of_mem_space
    rw [List.append_nil] at hspace
    exact congrArg Cutting.finished hspace

lemma depth_endLine (hdepth : 0 ≤ state.depth) : state.endLine.depth = state.depth := by
  rw [endLine]
  split
  · exact Int.le_antisymm hdepth (by assumption)
  · rfl

lemma pending_endLine (hdepth : state.depth = 0) : state.endLine.pending = [] := by
  rw [endLine_of_depth hdepth]
  rfl

lemma slashes_prefix_trim_iff : "//".toList <+: trim raw ↔ "//".toList <+: trimStart raw :=
  ⟨fun h => h.trans ( trimEnd_prefix _), @prefix_trimEnd ['/'] _ '/' (by decide)⟩

lemma line_of_isOuterComment (h : isOuterComment (state.depth, raw) = true) :
    state.line raw = state := by
  rw [isOuterComment, Bool.and_eq_true, beq_iff_eq, List.isPrefixOf_iff_prefix,
    ← slashes_prefix_trim_iff, ← List.isPrefixOf_iff_prefix] at h
  rw [Cutting.line, isFiller, if_pos ⟨h.1, by rw [h.2, Bool.or_true]⟩]

lemma line_of_not_isOuterComment (h : isOuterComment (state.depth, raw) = false)
    (hpending : state.depth = 0 → state.pending = []) :
    state.line raw = ((trim raw).foldl Cutting.char state).endLine := by
  by_cases hfiller : isFiller (trim raw) = true
  · by_cases hdepth : state.depth = 0
    · have hempty : trim raw = [] := by
        rw [isFiller, Bool.or_eq_true, List.isEmpty_iff] at hfiller
        refine hfiller.resolve_right fun hslashes => ?_
        rw [List.isPrefixOf_iff_prefix, slashes_prefix_trim_iff,
          ← List.isPrefixOf_iff_prefix] at hslashes
        rw [isOuterComment, hdepth, hslashes] at h
        simp at h
      obtain ⟨finished, pending, depth⟩ := state
      obtain rfl : pending = [] := hpending hdepth
      rw [Cutting.line, if_pos ⟨hdepth, hfiller⟩, hempty, List.foldl_nil, endLine_of_depth hdepth,
        flush_mk]
      rfl
    · rw [Cutting.line, if_neg fun hboth => hdepth hboth.1]
      rfl
  · exact line_of_not_isFiller state (by simpa using hfiller)

/-- The cutting is always where the whole text without its comment lines has got to. -/
lemma finished_foldl_line {ls : List (List Char)} {n m : Nat} (hdepth : state.depth = n)
    (hpending : state.depth = 0 → state.pending = []) (hls : ∀ l ∈ ls, '\n' ∉ l)
    (hcomments : ∀ mark ∈ leveled level n ls, isOuterComment mark = true →
      '{' ∉ mark.2 ∧ '}' ∉ mark.2)
    (hlevels : Levels (fun _ => True) n ls.flatten m) :
    (ls.foldl Cutting.line state).flush.finished =
      state.outcome (unlines ((withoutComments n ls).map trim)) := by
  induction ls generalizing state n with
  | nil => exact (outcome_nil state).symm
  | cons l ls ih =>
    obtain ⟨k, hl, hrest⟩ := Levels.exists_of_append hlevels
    have hk : (n : Int) + level l = k := add_level_of_levels hl
    rw [leveled, hk, List.forall_mem_cons] at hcomments
    rw [List.forall_mem_cons] at hls
    rw [withoutComments_cons, hk, List.foldl_cons]
    split
    · rename_i hcomment
      obtain ⟨hopen, hclose⟩ := hcomments.1 hcomment
      rw [level_of_braceless hopen hclose, Int.add_zero] at hk
      have hsame : state.line l = state := line_of_isOuterComment (by rwa [hdepth])
      rw [hsame, ih (hdepth.trans hk) hpending hls.2 hcomments.2 hrest]
    · rename_i hcomment
      have htrim : '\n' ∉ trim l := not_mem_trim hls.1
      have hread : state.line l = ((trim l).foldl Cutting.char state).endLine :=
        line_of_not_isOuterComment (by rwa [hdepth, ← Bool.not_eq_true]) hpending
      have hreached : ((trim l).foldl Cutting.char state).depth = k := by
        rw [depth_foldl_char htrim, level_trim, hdepth, hk]
      have hnonneg : 0 ≤ ((trim l).foldl Cutting.char state).depth := by omega
      have hdepth' : (state.line l).depth = k := by
        rw [hread, depth_endLine hnonneg, hreached]
      have hpending' : (state.line l).depth = 0 → (state.line l).pending = [] := by
        intro hzero
        rw [hread, depth_endLine hnonneg] at hzero
        rw [hread, pending_endLine hzero]
      rw [ih hdepth' hpending' hls.2 hcomments.2 hrest, hread, List.map_cons]
      -- A newline follows the line unless no line is left, and then its end is the end of the text.
      by_cases hnil : withoutComments k ls = []
      · rw [hnil, List.map_nil, unlines, List.intercalate_nil, unlines, List.intercalate_singleton,
          outcome_nil, finished_flush_endLine, ← outcome_nil, outcome_foldl_char htrim,
          List.append_nil]
      · rw [unlines_cons _ (by simpa using hnil), outcome_endLine hnonneg, outcome_foldl_char htrim]

end Cutting

section Candidates

variable {body : List Char}

lemma solid_filter_ne_nil (ls : List (List Char)) :
    solid (ls.filter (· ≠ [])).flatten = solid ls.flatten := by
  induction ls with
  | nil => rfl
  | cons l ls ih =>
    rw [List.filter_cons]
    split
    · rw [List.flatten_cons, List.flatten_cons, solid_append, solid_append, ih]
    · rename_i hl
      obtain rfl : l = [] := by simpa using hl
      exact ih

lemma mem_dropLast_of_filter {α : Type} {p : α → Bool} {xs : List α} {x : α}
    (hx : x ∈ (xs.filter p).dropLast) : x ∈ xs.dropLast := by
  induction xs using List.reverseRecOn with
  | nil => exact hx
  | append_singleton xs y =>
    rw [List.dropLast_concat]
    rw [List.filter_append] at hx
    cases hy : p y with
    | true =>
      rw [List.filter_singleton, hy, cond_true, List.dropLast_concat] at hx
      exact List.mem_of_mem_filter hx
    | false =>
      rw [List.filter_singleton, hy, cond_false, List.append_nil] at hx
      exact List.mem_of_mem_filter (List.dropLast_subset _ hx)

lemma candidates_eq {m : Nat}
    (hcomments : ∀ mark ∈ leveled level 0 (lines body), isOuterComment mark = true →
      '{' ∉ mark.2 ∧ '}' ∉ mark.2)
    (hbody : Levels (fun _ => True) 0 (lines body).flatten m) :
    candidates body =
      ((pieces 0 (unlines (withoutComments 0 (lines body)))).map tidy).filter (· ≠ []) := by
  have hrun := @Cutting.finished_foldl_line ⟨[], [], 0⟩ (lines body) 0 m rfl (fun _ => rfl)
    (fun l hl => newline_not_mem_of_mem_lines hl) hcomments hbody
  have hkept : ∀ l ∈ withoutComments 0 (lines body), '\n' ∉ l :=
    fun l hl => newline_not_mem_of_mem_lines (mem_of_mem_withoutComments hl)
  rw [candidates, hrun, Cutting.outcome_start, List.reverse_reverse, nonblank, List.map_map,
    ← map_tidy_pieces hkept]
  rfl

/-- The candidates of a body are its pieces without the comment lines outside of braces, tidied and
without the empty ones. So the text of the members is in them once and in order, each is one trimmed
line that is not empty, and none but the last can have braces that are not paired. -/
theorem candidates_eq_pieces (hlevel : ∀ p, p <+: body → 0 ≤ level p)
    (hcomments : ∀ mark ∈ leveled level 0 (lines body), isOuterComment mark = true →
      '{' ∉ mark.2 ∧ '}' ∉ mark.2) :
    let text := unlines (withoutComments 0 (lines body))
    candidates body = ((pieces 0 text).map tidy).filter (· ≠ []) ∧
      solid (candidates body).flatten = solid (unseparated 0 text) ∧
      (∀ candidate ∈ candidates body, candidate ≠ [] ∧ Trimmed candidate ∧ '\n' ∉ candidate) ∧
      (∀ candidate ∈ (candidates body).dropLast, Balanced candidate) ∧
      (level body = 0 → ∀ candidate ∈ candidates body, Balanced candidate) := by
  intro text
  obtain ⟨m, hbody⟩ := @exists_levels 0 body (by simpa using hlevel)
  have hm : level body = m := by simpa using add_level_of_levels hbody
  rw [← unlines_lines body, levels_unlines_iff] at hbody
  have heq := candidates_eq hcomments hbody
  have hlevels : Levels (fun _ => True) 0 text m :=
    levels_unlines_iff.mpr (levels_withoutComments hcomments hbody)
  refine ⟨heq, ?_, ?_, ?_, ?_⟩
  · rw [heq, solid_filter_ne_nil, ← flatten_pieces, solid_flatten, solid_flatten, List.map_map]
    exact congrArg List.flatten (List.map_congr_left fun piece _ => solid_tidy piece)
  · intro candidate hc
    rw [heq, List.mem_filter, List.mem_map] at hc
    obtain ⟨⟨piece, -, rfl⟩, hne⟩ := hc
    exact ⟨by simpa using hne, trimmed_trim _, newline_not_mem_tidy piece⟩
  · intro candidate hc
    rw [heq] at hc
    have hmem := mem_dropLast_of_filter hc
    rw [← List.map_dropLast, List.mem_map] at hmem
    obtain ⟨piece, hpiece, rfl⟩ := hmem
    exact balanced_tidy (levels_of_mem_dropLast hlevels hpiece)
  · intro hzero candidate hc
    obtain rfl : m = 0 := by omega
    rw [heq, List.mem_filter, List.mem_map] at hc
    obtain ⟨⟨piece, hpiece, rfl⟩, -⟩ := hc
    exact balanced_tidy (levels_of_mem_pieces hlevels hpiece)

/-- Within braces neither a blank line, a comment line nor a semicolon ends the member. -/
theorem candidates_eq_pieces_nested :
    let body := "a: A; b: \x7b\n\n  // c;\n  d: D;\n\x7d\n // e; f\ng: G".toList
    (∀ p, p <+: body → 0 ≤ level p) ∧
      (∀ mark ∈ leveled level 0 (lines body), isOuterComment mark = true →
        '{' ∉ mark.2 ∧ '}' ∉ mark.2) ∧
      candidates body =
        ["a: A".toList, "b: \x7b  // c; d: D; \x7d".toList, "g: G".toList] := by
  intro body
  have hinits : ∀ p ∈ body.inits, 0 ≤ level p := by decide
  have hlevel : ∀ p, p <+: body → 0 ≤ level p := fun p hp => hinits p ((List.mem_inits _ _).mpr hp)
  have hcomments : ∀ mark ∈ leveled level 0 (lines body), isOuterComment mark = true →
      '{' ∉ mark.2 ∧ '}' ∉ mark.2 := by decide
  exact ⟨hlevel, hcomments, (candidates_eq_pieces hlevel hcomments).1.trans (by decide)⟩

end Candidates

end TypeLineage.Member
