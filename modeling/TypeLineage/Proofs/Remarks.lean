import Mathlib.Data.List.Basic
import Mathlib.Tactic.Common
import TypeLineage.Declaration.Member
import TypeLineage.Proofs.Candidates
import TypeLineage.Proofs.Keyed
import TypeLineage.Proofs.Lines

/-!
# Trailing comments

A comment behind the semicolon of a line. Outside of inner braces it is cut at its own semicolons like
the rest of the body, and only its first piece begins with the slashes. Within inner braces it is part
of the text of the member that the braces belong to.
-/

namespace TypeLineage.Member

open Text

/-- The text of a line comment without braces. -/
structure Remark where
  chars : List Char
  open_not_mem : '{' ∉ chars
  close_not_mem : '}' ∉ chars
  newline_not_mem : '\n' ∉ chars

/-- A body with a line that ends with a semicolon. -/
structure Marked where
  above : List (List Char)
  front : List Char
  below : List (List Char)
  newline_not_mem : ∀ l ∈ above ++ front :: below, '\n' ∉ l
  braceless : ∀ l ∈ above ++ below, BracelessComment l
  not_comment : ¬ "//".toList <+: trimStart front
  balanced : Balanced (unlines (above ++ (front ++ [';']) :: below))

namespace Cutting

variable {s s' : Cutting} {c : Char} {text raw : List Char}

/-- What the end of a line does. -/
def endLine (s : Cutting) : Cutting :=
  if s.depth ≤ 0 then { s.flush with depth := 0 } else s.push ' '

lemma endLine_of_depth (hs : s.depth = 0) : s.endLine = s.flush := by
  rw [endLine, if_pos (Int.le_of_eq hs), ← hs]
  rfl

lemma line_of_not_isFiller (s : Cutting) (hraw : isFiller (trim raw) = false) :
    s.line raw = ((trim raw).foldl Cutting.char s).endLine := by
  rw [Cutting.line, if_neg (by simp [hraw])]
  rfl

/-- A relation between cuttings of the same depth that each part of a step keeps. -/
structure Simulation (R : Cutting → Cutting → Prop) : Prop where
  depth_eq {s s' : Cutting} : R s s' → s.depth = s'.depth
  push {s s' : Cutting} (c : Char) : R s s' → R (s.push c) (s'.push c)
  flush {s s' : Cutting} : R s s' → R s.flush s'.flush
  withDepth {s s' : Cutting} (depth : Int) :
    R s s' → R { s with depth := depth } { s' with depth := depth }

section Simulations

variable {R : Cutting → Cutting → Prop} (hR : Simulation R) (h : R s s')

include hR h

lemma Simulation.char (c : Char) : R (s.char c) (s'.char c) := by
  rw [Cutting.char, Cutting.char, ← hR.depth_eq h]
  split
  · exact hR.withDepth _ (hR.push c h)
  · split
    · exact hR.withDepth _ (hR.push c h)
    · split
      · exact hR.flush h
      · exact hR.push c h

lemma Simulation.foldl_char (text : List Char) :
    R (text.foldl Cutting.char s) (text.foldl Cutting.char s') := by
  induction text generalizing s s' with
  | nil => exact h
  | cons c text ih => exact ih (hR.char h c)

lemma Simulation.endLine : R s.endLine s'.endLine := by
  rw [Cutting.endLine, Cutting.endLine, ← hR.depth_eq h]
  split
  · exact hR.withDepth 0 (hR.flush h)
  · exact hR.push ' ' h

lemma Simulation.line (raw : List Char) : R (s.line raw) (s'.line raw) := by
  rw [Cutting.line, Cutting.line, ← hR.depth_eq h]
  split
  · exact h
  · exact hR.endLine (hR.foldl_char h _)

lemma Simulation.foldl_line (ls : List (List Char)) :
    R (ls.foldl Cutting.line s) (ls.foldl Cutting.line s') := by
  induction ls generalizing s s' with
  | nil => exact h
  | cons l ls ih => exact ih (hR.line h l)

end Simulations

lemma flush_semicolon {front rest : List Char} (h : s.pending.reverse = front ++ ';' :: rest) :
    s.flush.finished = (trimStart front ++ ';' :: trimEnd rest) :: s.finished := by
  have htrim : trim s.pending.reverse = trimStart front ++ ';' :: trimEnd rest := by
    rw [h]
    exact trim_append_cons (by decide) _ _
  simp [Cutting.flush, htrim]

/-- The second cutting has cut off some more candidates before. -/
def Behind (earlier : List (List Char)) (s s' : Cutting) : Prop :=
  s' = { s with finished := s.finished ++ earlier }

lemma behind_simulation (earlier : List (List Char)) : Simulation (Behind earlier) where
  depth_eq := by
    rintro s s' rfl
    rfl
  push := by
    rintro s s' c rfl
    rfl
  flush := by
    rintro s s' rfl
    simp only [Behind, Cutting.flush]
    split <;> rfl
  withDepth := by
    rintro s s' depth rfl
    rfl

/-- The second cutting has a gap text in the candidate that begins with `front`, which either both have
still open or both have cut off. -/
inductive Apart (front gap : List Char) (earlier : List (List Char)) (s s' : Cutting) : Prop where
  | waiting (rest : List Char) (hs : s.pending.reverse = front ++ ';' :: rest)
      (hs' : s'.pending.reverse = front ++ ';' :: (gap ++ rest)) (hearlier : s.finished = earlier)
      (hearlier' : s'.finished = earlier) (hdepth : s.depth = s'.depth)
  | cutOff (rest : List Char) (later : List (List Char))
      (hs : s.finished = later ++ (trimStart front ++ ';' :: rest) :: earlier)
      (hs' : s'.finished = later ++ (trimStart front ++ ';' :: (gap ++ rest)) :: earlier)
      (hpending : s.pending = s'.pending) (hdepth : s.depth = s'.depth)

lemma apart_simulation (front : List Char) {gap : List Char} (earlier : List (List Char))
    (hgap : ∃ g d, gap = g ++ [d] ∧ isBlank d = false) : Simulation (Apart front gap earlier) where
  depth_eq h := by
    cases h <;> assumption
  push c h := by
    cases h with
    | waiting rest hs hs' hearlier hearlier' hdepth =>
      exact .waiting (rest ++ [c]) (by simp [Cutting.push, hs]) (by simp [Cutting.push, hs'])
        hearlier hearlier' hdepth
    | cutOff rest later hs hs' hpending hdepth =>
      exact .cutOff rest later hs hs' (by rw [Cutting.push, Cutting.push, hpending]) hdepth
  flush {s s'} h := by
    cases h with
    | waiting rest hs hs' hearlier hearlier' hdepth =>
      obtain ⟨g, d, rfl, hd⟩ := hgap
      have htrim : trimEnd (g ++ [d] ++ rest) = g ++ [d] ++ trimEnd rest := by
        rw [List.append_assoc, List.singleton_append, trimEnd_append_cons hd]
        simp
      refine .cutOff (trimEnd rest) [] ?_ ?_ rfl hdepth
      · rw [flush_semicolon hs, hearlier]
        rfl
      · rw [flush_semicolon hs', htrim, hearlier']
        rfl
    | cutOff rest later hs hs' hpending hdepth =>
      simp only [Cutting.flush, hpending]
      by_cases hnil : (trim s'.pending.reverse).isEmpty = true
      · rw [if_pos hnil, if_pos hnil]
        exact .cutOff rest later hs hs' rfl hdepth
      · rw [if_neg hnil, if_neg hnil]
        exact .cutOff rest (trim s'.pending.reverse :: later) (by simp [hs]) (by simp [hs']) rfl hdepth
  withDepth depth h := by
    cases h with
    | waiting rest hs hs' hearlier hearlier' _ => exact .waiting rest hs hs' hearlier hearlier' rfl
    | cutOff rest later hs hs' hpending _ => exact .cutOff rest later hs hs' hpending rfl

lemma foldl_char_depth (hopen : '{' ∉ text) (hclose : '}' ∉ text) :
    (text.foldl Cutting.char s).depth = s.depth := by
  induction text generalizing s with
  | nil => rfl
  | cons c text ih =>
    rw [List.mem_cons, not_or] at hopen hclose
    rw [List.foldl_cons, ih hopen.2 hclose.2, Cutting.char, if_neg (Ne.symm hopen.1),
      if_neg (Ne.symm hclose.1)]
    split <;> rfl

lemma foldl_char_of_depth (hopen : '{' ∉ text) (hclose : '}' ∉ text) (hs : s.depth ≠ 0) :
    text.foldl Cutting.char s = { s with pending := text.reverse ++ s.pending } := by
  induction text generalizing s with
  | nil => rfl
  | cons c text ih =>
    rw [List.mem_cons, not_or] at hopen hclose
    have hchar : s.char c = s.push c := by
      rw [Cutting.char, if_neg (Ne.symm hopen.1), if_neg (Ne.symm hclose.1), if_neg fun h => hs h.2]
    rw [List.foldl_cons, hchar, ih hopen.2 hclose.2 (s := s.push c) hs]
    simp [Cutting.push]

end Cutting

/-- The pieces that are not blank, trimmed. -/
def nonblank (pieces : List (List Char)) : List (List Char) :=
  (pieces.map trim).filter (· ≠ [])

lemma nonblank_cons (piece : List Char) (pieces : List (List Char)) :
    nonblank (piece :: pieces) = nonblank [piece] ++ nonblank pieces := by
  rw [← List.singleton_append, nonblank, List.map_append, List.filter_append]
  rfl

namespace Cutting

lemma flush_mk (finished : List (List Char)) (pending : List Char) (depth : Int) :
    Cutting.flush ⟨finished, pending, depth⟩ =
      ⟨(nonblank [pending.reverse]).reverse ++ finished, [], depth⟩ := by
  rw [Cutting.flush, nonblank]
  by_cases h : trim pending.reverse = [] <;> simp [h]

lemma flush_foldl_char {text : List Char} (hopen : '{' ∉ text) (hclose : '}' ∉ text)
    {piece : List Char} {later : List (List Char)} (hcut : cut ';' text = piece :: later)
    (finished : List (List Char)) (pending : List Char) :
    (text.foldl Cutting.char ⟨finished, pending, 0⟩).flush =
      ⟨(nonblank ((pending.reverse ++ piece) :: later)).reverse ++ finished, [], 0⟩ := by
  induction text generalizing piece later finished pending with
  | nil =>
    obtain ⟨rfl, rfl⟩ := List.cons.inj hcut
    rw [List.append_nil, List.foldl_nil, flush_mk]
  | cons c text ih =>
    rw [List.mem_cons, not_or] at hopen hclose
    obtain ⟨piece', later', hcut'⟩ := exists_cut_eq_cons ';' text
    rw [cut_cons c hcut'] at hcut
    rw [List.foldl_cons, Cutting.char, if_neg (Ne.symm hopen.1), if_neg (Ne.symm hclose.1)]
    by_cases hc : c = ';'
    · rw [if_pos hc] at hcut
      obtain ⟨rfl, rfl⟩ := List.cons.inj hcut
      rw [if_pos ⟨hc, rfl⟩, flush_mk finished pending 0, ih hopen.2 hclose.2 hcut', List.append_nil,
        nonblank_cons pending.reverse (piece' :: later')]
      simp
    · rw [if_neg hc] at hcut
      obtain ⟨rfl, rfl⟩ := List.cons.inj hcut
      rw [if_neg fun h => hc h.1, Cutting.push, ih hopen.2 hclose.2 hcut']
      simp

lemma not_mem_trimEnd (h : c ∉ text) : c ∉ trimEnd text :=
  fun hmem => h (( trimEnd_prefix text).subset hmem)

lemma exists_trimEnd_eq_concat (h : trimEnd text ≠ []) :
    ∃ t d, trimEnd text = t ++ [d] ∧ isBlank d = false := by
  have hhead := List.head?_dropWhile_not isBlank text.reverse
  rw [trimEnd] at h ⊢
  cases hdrop : text.reverse.dropWhile isBlank with
  | nil => simp [hdrop] at h
  | cons d t =>
    rw [hdrop] at hhead
    exact ⟨t.reverse, d, List.reverse_cons, by simpa using hhead⟩

lemma flush_foldl_char_trimEnd (s : Cutting) (text : List Char) :
    ((trimEnd text).foldl Cutting.char s).flush = (text.foldl Cutting.char s).flush := by
  have hsplit : text = trimEnd text ++ (text.reverse.takeWhile isBlank).reverse := by
    rw [trimEnd, ← List.reverse_append, List.takeWhile_append_dropWhile, List.reverse_reverse]
  have hblank : ∀ c ∈ text.reverse.takeWhile isBlank, isBlank c = true :=
    fun _ hc => List.mem_takeWhile_imp hc
  have hblank' : ∀ c ∈ (text.reverse.takeWhile isBlank).reverse, isBlank c = true :=
    fun c hc => hblank c (List.mem_reverse.mp hc)
  conv_rhs => rw [hsplit, List.foldl_append, foldl_char_of_blanks hblank', List.reverse_reverse]
  have hflush := flush_blanks (s := (trimEnd text).foldl Cutting.char s) (a := []) (by simp) hblank
  rw [List.append_nil] at hflush
  exact hflush.symm

lemma Sound.exists_line {ls : List (List Char)} {raw : List Char} {n m : Nat} (h : s.Sound n)
    (hnewline : ∀ l ∈ ls, '\n' ∉ l) (hcomments : ∀ l ∈ ls, BracelessComment l)
    (hlevels : Levels (fun _ => True) n (unlines (ls ++ [raw])) m) :
    ∃ k, (ls.foldl Cutting.line s).Sound k ∧ Levels (fun _ => True) k raw m := by
  induction ls generalizing s n with
  | nil =>
    rw [List.nil_append, unlines, List.intercalate_singleton] at hlevels
    exact ⟨n, h, hlevels⟩
  | cons l ls ih =>
    rw [List.cons_append, unlines_cons l (by simp)] at hlevels
    obtain ⟨n', hfirst, hlevels⟩ := hlevels.exists_of_append
    rw [← List.singleton_append] at hlevels
    obtain ⟨n'', hend, hrest⟩ := hlevels.exists_of_append
    obtain rfl := hend.eq_of_braceless (by decide) (by decide)
    rw [List.forall_mem_cons] at hnewline hcomments
    exact ih (h.line hnewline.1 hcomments.1 hfirst) hnewline.2 hcomments.2 hrest

lemma line_semicolon (s : Cutting) {front : List Char} (hfront : ¬ "//".toList <+: trimStart front)
    (tail : List Char) : s.line (front ++ ';' :: tail) =
      ((trimEnd tail).foldl Cutting.char (((trimStart front).foldl Cutting.char s).char ';')).endLine := by
  have htrim : trim (front ++ ';' :: tail) = trimStart front ++ ';' :: trimEnd tail :=
    trim_append_cons (by decide) _ _
  have hfiller : isFiller (trim (front ++ ';' :: tail)) = false := by
    rw [htrim, isFiller, Bool.or_eq_false_iff, ← Bool.not_eq_true, ← Bool.not_eq_true,
      List.isPrefixOf_iff_prefix]
    exact ⟨by simp, fun h => hfront (prefix_of_prefix_append_cons (by decide) h)⟩
  rw [line_of_not_isFiller s hfiller, htrim, List.foldl_append, List.foldl_cons]

end Cutting

lemma candidates_unlines {ls : List (List Char)} (hls : ls ≠ []) (hnewline : ∀ l ∈ ls, '\n' ∉ l) :
    candidates (unlines ls) = ((ls.foldl Cutting.line ⟨[], [], 0⟩).flush).finished.reverse := by
  rw [candidates, lines_unlines hls hnewline]

namespace Remark

variable (r : Remark)

/-- What is written behind a line. -/
def text : List Char :=
  " // ".toList ++ r.chars

/-- The fields that the pieces of a comment behind its semicolons are read as. -/
def fields : List Field :=
  ((cut ';' r.chars).tail.map trim).filterMap field?

lemma text_braceless : '{' ∉ r.text ∧ '}' ∉ r.text := by
  simp [text, r.open_not_mem, r.close_not_mem]

lemma newline_not_mem_text : '\n' ∉ r.text := by
  simp [text, r.newline_not_mem]

/-- The piece with the slashes is no field. -/
lemma filterMap_nonblank : (nonblank (cut ';' r.text)).filterMap field? = r.fields := by
  obtain ⟨piece, later, hcut⟩ := exists_cut_eq_cons ';' r.chars
  have htext : cut ';' r.text = (" // ".toList ++ piece) :: later := by
    have h₁ := cut_cons ' ' hcut
    have h₂ := cut_cons '/' h₁
    have h₃ := cut_cons '/' h₂
    exact cut_cons ' ' h₃
  have htrim : trim (" // ".toList ++ piece) = '/' :: trimEnd ('/' :: ' ' :: piece) :=
    trim_append_cons (by decide) [' '] _
  have hslashes : trimEnd ('/' :: ' ' :: piece) = '/' :: trimEnd (' ' :: piece) :=
    trimEnd_append_cons (by decide) [] _
  have hfirst : (nonblank [" // ".toList ++ piece]).filterMap field? = [] := by
    rw [nonblank, List.map_singleton, htrim, hslashes]
    rfl
  have hrest : ∀ pieces : List (List Char),
      (nonblank pieces).filterMap field? = (pieces.map trim).filterMap field? := by
    intro pieces
    rw [nonblank, List.filterMap_filter]
    refine List.filterMap_congr fun t _ => ?_
    by_cases ht : t = []
    · rw [ht]
      rfl
    · simp [ht]
  rw [htext, nonblank_cons, List.filterMap_append, hfirst, List.nil_append, hrest, fields, hcut,
    List.tail_cons]

lemma fields_eq_nil (h : ';' ∉ r.chars) : r.fields = [] := by
  have hcut : cut ';' r.chars = [r.chars] := by
    rw [cut_eq_splitOn]
    exact List.splitOn_eq_singleton h
  rw [fields, hcut]
  rfl

end Remark

namespace Marked

variable (b : Marked) (r : Remark) {tail : List Char}

/-- The body with something behind the semicolon. -/
def body (tail : List Char) : List Char :=
  unlines (b.above ++ (b.front ++ ';' :: tail) :: b.below)

/-- The body as far as the semicolon. -/
def upper : List Char :=
  unlines (b.above ++ [b.front ++ [';']])

/-- The lines below that of the semicolon. -/
def lower : List Char :=
  unlines b.below

/-- A definition that has the body between its first braces. -/
def definition (lead tail rest : List Char) : List Char :=
  lead ++ '{' :: (b.body tail ++ '}' :: rest)

/-- The semicolon stands outside of inner braces. -/
def IsOuter : Prop :=
  Balanced (unlines (b.above ++ [b.front]))

lemma body_eq (tail : List Char) : b.body tail = b.upper ++ (tail ++ unlines ([] :: b.below)) := by
  have h := unlines_append_cons b.above (b.front ++ [';'] ++ tail) [] b.below
  rw [unlines_append_right, List.append_nil] at h
  rw [body, upper, ← List.append_assoc, ← h]
  simp

lemma balanced_body (hopen : '{' ∉ tail) (hclose : '}' ∉ tail) : Balanced (b.body tail) := by
  have hbody : Levels (fun _ => True) 0 (b.body []) 0 := b.balanced.levels fun _ _ _ => trivial
  rw [body_eq] at hbody ⊢
  obtain ⟨m, hupper, hlower⟩ := hbody.exists_of_append
  have htail : Balanced tail := .of_braceless hopen hclose fun _ _ => trivial
  exact (hupper.append ((htail.levels fun _ _ _ => trivial).append hlower)).nested

/-- The cutting when it has read the lines above and the front of the line. -/
def reached : Cutting :=
  (trimStart b.front).foldl Cutting.char (b.above.foldl Cutting.line ⟨[], [], 0⟩)

lemma reached_sound {m : Nat} (h : Levels (fun _ => True) 0 (unlines (b.above ++ [b.front])) m) :
    b.reached.Sound m := by
  have hstart : (⟨[], [], 0⟩ : Cutting).Sound 0 := ⟨rfl, .nil, List.not_mem_nil, by simp⟩
  obtain ⟨k, habove, hfront⟩ := hstart.exists_line
    (fun l hl => b.newline_not_mem l (List.mem_append_left _ hl))
    (fun l hl => b.braceless l (List.mem_append_left _ hl)) h
  have hsplit : b.front = b.front.takeWhile isBlank ++ trimStart b.front :=
    List.takeWhile_append_dropWhile.symm
  rw [hsplit] at hfront
  obtain ⟨k', hblank, hfront⟩ := hfront.exists_of_append
  obtain rfl := hblank.eq_of_blanks fun _ hc => List.mem_takeWhile_imp hc
  exact habove.foldl_char
    (fun hmem => b.newline_not_mem b.front (by simp) ((trimStart_suffix _).subset hmem)) hfront

lemma newline_not_mem_line (hnewline : '\n' ∉ tail) :
    ∀ l ∈ b.above ++ (b.front ++ ';' :: tail) :: b.below, '\n' ∉ l := by
  intro l hl
  rcases List.mem_append.mp hl with hl | hl
  · exact b.newline_not_mem l (List.mem_append_left _ hl)
  · rcases List.mem_cons.mp hl with rfl | hl
    · have := b.newline_not_mem b.front (by simp)
      simp [this, hnewline]
    · exact b.newline_not_mem l (by simp [hl])

lemma candidates_lower (earlier : List (List Char)) :
    ((b.below.foldl Cutting.line ⟨earlier, [], 0⟩).flush).finished.reverse =
      earlier.reverse ++ candidates b.lower := by
  have hstart : Cutting.Behind earlier ⟨[], [], 0⟩ ⟨earlier, [], 0⟩ := rfl
  have hsim := Cutting.behind_simulation earlier
  have hbehind := hsim.flush (hsim.foldl_line hstart b.below)
  have hlower : candidates b.lower =
      ((b.below.foldl Cutting.line ⟨[], [], 0⟩).flush).finished.reverse := by
    by_cases hbelow : b.below = []
    · rw [lower, hbelow]
      rfl
    · exact candidates_unlines hbelow fun l hl => b.newline_not_mem l (by simp [hl])
  rw [hbehind, hlower, List.reverse_append]

lemma line_eq (tail : List Char) :
    (b.above.foldl Cutting.line ⟨[], [], 0⟩).line (b.front ++ ';' :: tail) =
      ((trimEnd tail).foldl Cutting.char (b.reached.char ';')).endLine :=
  Cutting.line_semicolon _ b.not_comment tail

lemma line_of_isOuter (h : b.IsOuter) (hopen : '{' ∉ tail) (hclose : '}' ∉ tail) :
    (b.above.foldl Cutting.line ⟨[], [], 0⟩).line (b.front ++ ';' :: tail) =
      ⟨(nonblank (cut ';' tail)).reverse ++ b.reached.flush.finished, [], 0⟩ := by
  have hdepth : b.reached.depth = 0 := (b.reached_sound (h.levels fun _ _ _ => trivial)).depth
  have hchar : b.reached.char ';' = ⟨b.reached.flush.finished, [], 0⟩ := by
    rw [Cutting.char, if_neg (by decide), if_neg (by decide), if_pos ⟨rfl, hdepth⟩, ← hdepth]
    rfl
  obtain ⟨piece, later, hcut⟩ := exists_cut_eq_cons ';' tail
  have hread : ((trimEnd tail).foldl Cutting.char (b.reached.char ';')).depth = 0 := by
    rw [Cutting.foldl_char_depth (Cutting.not_mem_trimEnd hopen) (Cutting.not_mem_trimEnd hclose),
      hchar]
  rw [line_eq, Cutting.endLine_of_depth hread, Cutting.flush_foldl_char_trimEnd, hchar,
    Cutting.flush_foldl_char hopen hclose hcut, hcut]
  rfl

lemma candidates_of_isOuter (h : b.IsOuter) (hopen : '{' ∉ tail) (hclose : '}' ∉ tail)
    (hnewline : '\n' ∉ tail) :
    candidates (b.body tail) =
      candidates b.upper ++ (nonblank (cut ';' tail) ++ candidates b.lower) := by
  have hupper : candidates b.upper = b.reached.flush.finished.reverse := by
    rw [upper, candidates_unlines (by simp), List.foldl_append, List.foldl_cons, List.foldl_nil,
      b.line_of_isOuter h List.not_mem_nil List.not_mem_nil]
    · rfl
    · intro l hl
      refine b.newline_not_mem_line List.not_mem_nil l ?_
      rw [List.mem_append, List.mem_singleton] at hl
      simpa using hl.imp_right .inl
  rw [body, candidates_unlines (by simp) (b.newline_not_mem_line hnewline), List.foldl_append,
    List.foldl_cons, b.line_of_isOuter h hopen hclose, candidates_lower, hupper]
  simp

/-- Within inner braces the comment is taken into the text of a candidate. -/
lemma candidates_of_not_isOuter (h : ¬ b.IsOuter) :
    ∃ before front back after, candidates (b.body []) = before ++ (front ++ ';' :: back) :: after ∧
      candidates (b.body r.text) =
        before ++ (front ++ ';' :: (trimEnd r.text ++ back)) :: after := by
  have hbody : Levels (fun _ => True) 0 (b.body []) 0 := b.balanced.levels fun _ _ _ => trivial
  rw [body, unlines_append_cons] at hbody
  obtain ⟨m, hfront, -⟩ := hbody.exists_of_append
  have hdepth : b.reached.depth ≠ 0 := by
    have hm : m ≠ 0 := by
      rintro rfl
      exact h hfront.nested
    rw [(b.reached_sound hfront).depth]
    exact_mod_cast hm
  have hchar : b.reached.char ';' = b.reached.push ';' := by
    rw [Cutting.char, if_neg (by decide), if_neg (by decide), if_neg fun h => hdepth h.2]
  have hne : trimEnd r.text ≠ [] := by
    rw [show trimEnd r.text = [' ', '/'] ++ '/' :: trimEnd (' ' :: r.chars) from
      trimEnd_append_cons (by decide) [' ', '/'] _]
    simp
  have hsim := Cutting.apart_simulation b.reached.pending.reverse b.reached.finished
    (Cutting.exists_trimEnd_eq_concat hne)
  have hread : Cutting.Apart b.reached.pending.reverse (trimEnd r.text) b.reached.finished
      (b.reached.char ';') ((trimEnd r.text).foldl Cutting.char (b.reached.char ';')) := by
    rw [hchar, Cutting.foldl_char_of_depth (s := b.reached.push ';')
      (Cutting.not_mem_trimEnd r.text_braceless.1) (Cutting.not_mem_trimEnd r.text_braceless.2) hdepth]
    exact .waiting [] (by simp [Cutting.push]) (by simp [Cutting.push]) rfl rfl rfl
  have hend := hsim.flush (hsim.foldl_line (hsim.endLine hread) b.below)
  have hbare := candidates_unlines (by simp) (b.newline_not_mem_line List.not_mem_nil)
  have htext := candidates_unlines (by simp) (b.newline_not_mem_line r.newline_not_mem_text)
  rw [List.foldl_append, List.foldl_cons, line_eq] at hbare htext
  rw [body, hbare, body, htext]
  cases hend with
  | waiting rest hs => simp [Cutting.flush] at hs
  | cutOff back later hs hs' =>
    refine ⟨b.reached.finished.reverse, trimStart b.reached.pending.reverse, back,
      later.reverse, ?_, ?_⟩
    · rw [show trimEnd [] = [] from rfl, List.foldl_nil, hs]
      simp
    · rw [hs']
      simp

lemma fields_definition {lead : List Char} (hlead : '{' ∉ lead) (hopen : '{' ∉ tail)
    (hclose : '}' ∉ tail) (rest : List Char) :
    fields (b.definition lead tail rest) =
      Keyed.ofList Field.name ((candidates (b.body tail)).filterMap field?) := by
  rw [fields, definition, Braces.interior?_eq hlead (b.balanced_body hopen hclose)]

end Marked

/-- A comment behind a semicolon outside of inner braces adds the fields that its pieces behind its own
semicolons are read as. They are not seen exactly if each is written over below or stands already
above. Within inner braces the comment is taken into the text of the member around it. -/
theorem fields_of_trailing_comment (b : Marked) (r : Remark) {lead : List Char}
    (hlead : '{' ∉ lead) (rest : List Char) :
    let bare := fields (b.definition lead [] rest)
    let remarked := fields (b.definition lead r.text rest)
    let above := (candidates b.upper).filterMap field?
    let below := (candidates b.lower).filterMap field?
    (b.IsOuter →
      bare = Keyed.ofList Field.name (above ++ below) ∧
      remarked = Keyed.ofList Field.name (above ++ (r.fields ++ below)) ∧
      (';' ∉ r.chars → remarked = bare) ∧
      ((∀ name, Keyed.get? Field.name name remarked = Keyed.get? Field.name name bare) ↔
        ∀ f ∈ Keyed.ofList Field.name r.fields,
          (∃ g ∈ below, g.name = f.name) ∨ f ∈ Keyed.ofList Field.name above)) ∧
    (¬ b.IsOuter → ∃ before front back after,
      bare = Keyed.ofList Field.name
        ((before ++ (front ++ ';' :: back) :: after).filterMap field?) ∧
      remarked = Keyed.ofList Field.name
        ((before ++ (front ++ ';' :: (trimEnd r.text ++ back)) :: after).filterMap field?)) := by
  intro bare remarked above below
  have hbare : bare = _ := b.fields_definition hlead List.not_mem_nil List.not_mem_nil rest
  have hremarked : remarked = _ :=
    b.fields_definition hlead r.text_braceless.1 r.text_braceless.2 rest
  constructor
  · intro hb
    rw [b.candidates_of_isOuter hb List.not_mem_nil List.not_mem_nil List.not_mem_nil,
      List.filterMap_append, List.filterMap_append] at hbare
    rw [b.candidates_of_isOuter hb r.text_braceless.1 r.text_braceless.2 r.newline_not_mem_text,
      List.filterMap_append, List.filterMap_append, r.filterMap_nonblank] at hremarked
    change bare = Keyed.ofList Field.name (above ++ below) at hbare
    refine ⟨hbare, hremarked, fun h => ?_, ?_⟩
    · rw [hremarked, hbare, r.fields_eq_nil h, List.nil_append]
    · rw [hremarked, hbare]
      exact Keyed.get?_ofList_insert_iff Field.name above r.fields below
  · intro hb
    obtain ⟨before, front, back, after, hfirst, hsecond⟩ := b.candidates_of_not_isOuter r hb
    exact ⟨before, front, back, after, by rw [hbare, hfirst], by rw [hremarked, hsecond]⟩

/-- One member on a line between its braces. -/
def single : Marked where
  above := [[]]
  front := "  a: string".toList
  below := [[]]
  newline_not_mem := by decide
  braceless := by simp [BracelessComment]
  not_comment := by decide
  balanced := .of_braceless (by decide) (by decide) fun _ _ => trivial

def quiet : Remark :=
  ⟨"first".toList, by decide, by decide, by decide⟩

def telling : Remark :=
  ⟨"first; b: number".toList, by decide, by decide, by decide⟩

theorem fields_of_trailing_comment_single :
    '{' ∉ "export type T = ".toList ∧ single.IsOuter ∧
    (let definition tail := single.definition "export type T = ".toList tail []
    fields (definition []) = [⟨"a", "string", false, .plain⟩] ∧
    fields (definition quiet.text) = fields (definition []) ∧
    fields (definition telling.text) =
      [⟨"a", "string", false, .plain⟩, ⟨"b", "number", false, .plain⟩]) := by
  have hlead : '{' ∉ "export type T = ".toList := by decide
  have houter : single.IsOuter := .of_braceless (by decide) (by decide) fun _ _ => trivial
  obtain ⟨-, -, hquiet, -⟩ := (fields_of_trailing_comment single quiet hlead []).1 houter
  obtain ⟨-, htelling, -, -⟩ := (fields_of_trailing_comment single telling hlead []).1 houter
  exact ⟨hlead, houter, by decide +kernel, hquiet (by decide), htelling.trans (by decide +kernel)⟩

end TypeLineage.Member
