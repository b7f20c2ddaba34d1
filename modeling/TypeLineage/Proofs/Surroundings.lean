import Mathlib.Data.List.Basic
import Mathlib.Tactic.Common
import TypeLineage.Proofs.Lines
import TypeLineage.Proofs.Remarks

/-!
# A member among others

A member begins at the start of a line or behind a semicolon, and ends at the end of a line or at a
semicolon. It is a candidate of its own: what stands before it and what stands behind it is cut as if
it was not there.
-/

namespace TypeLineage.Member

open Text

/-- A member can begin behind this part of a line. -/
def CanBegin (line : List Char) : Prop :=
  (∀ c ∈ line, isBlank c = true) ∨ ∃ front blanks, line = front ++ ';' :: blanks ∧
    ¬ "//".toList <+: trimStart front ∧ ∀ c ∈ blanks, isBlank c = true

/-- A member can end before this part of a line. -/
def CanEnd (line : List Char) : Prop :=
  (∀ c ∈ line, isBlank c = true) ∨ ∃ blanks rest, line = blanks ++ ';' :: rest ∧
    ∀ c ∈ blanks, isBlank c = true

/-- What stands around a member in a body: the lines above, the parts of its own line before and
behind it, and the lines below. -/
structure Surroundings where
  above : List (List Char)
  before : List Char
  behind : List Char
  below : List (List Char)
  newline_not_mem : ∀ l ∈ above ++ before :: behind :: below, '\n' ∉ l
  braceless : ∀ l ∈ above, BracelessComment l
  begins : CanBegin before
  ends : CanEnd behind
  upper_balanced : Balanced (unlines (above ++ [before]))
  lower_balanced : Balanced (unlines (behind :: below))

/-- A text on one line that begins with a word and has no semicolon outside of braces. -/
structure IsPiece (text : List Char) : Prop where
  ne_nil : text ≠ []
  head : ∀ c ∈ text.head?, isWord c = true
  nested : Nested (· ≠ ';') text
  newline_not_mem : '\n' ∉ text

namespace IsPiece

variable {text : List Char}

lemma exists_cons (h : IsPiece text) : ∃ c rest, text = c :: rest ∧ isWord c = true := by
  obtain ⟨c, rest, rfl⟩ := List.exists_cons_of_ne_nil h.ne_nil
  exact ⟨c, rest, rfl, h.head c rfl⟩

lemma trim_eq (h : IsPiece text) : trim text = trimEnd text := by
  rw [trim, trimStart_eq_self fun c hc => not_isBlank_of_isWord (h.head c hc)]

lemma isCandidate (h : IsPiece text) : IsCandidate (trim text) := by
  refine ⟨?_, trimmed_trim text, ?_, ?_⟩
  · obtain ⟨c, rest, rfl, hc⟩ := h.exists_cons
    rw [h.trim_eq, ← List.nil_append (c :: rest), trimEnd_append_cons (not_isBlank_of_isWord hc)]
    simp
  · exact (h.nested.levels fun _ _ hc => hc).trimmed.nested
  · rw [h.trim_eq]
    exact fun hmem => h.newline_not_mem (( trimEnd_prefix text).subset hmem)

lemma trimEnd_append (h : IsPiece text) (front tail : List Char) :
    trimEnd (front ++ (text ++ tail)) = front ++ trimEnd (text ++ tail) := by
  obtain ⟨c, rest, rfl, hc⟩ := h.exists_cons
  have hc' := not_isBlank_of_isWord hc
  have hself := trimEnd_append_cons hc' [] (rest ++ tail)
  rw [List.cons_append, trimEnd_append_cons hc' front]
  exact congrArg (front ++ ·) hself.symm

lemma isFiller_trimEnd (h : IsPiece text) (tail : List Char) :
    Cutting.isFiller (trimEnd (text ++ tail)) = false := by
  obtain ⟨c, rest, rfl, hc⟩ := h.exists_cons
  have hne : '/' ≠ c := by
    rintro rfl
    exact absurd hc (by decide)
  have htrim := trimEnd_append_cons (not_isBlank_of_isWord hc) [] (rest ++ tail)
  rw [List.nil_append] at htrim
  rw [List.cons_append, htrim]
  simp [Cutting.isFiller, List.isPrefixOf, hne]

end IsPiece

lemma trimEnd_eq_nil {blanks : List Char} (hblanks : ∀ c ∈ blanks, isBlank c = true) :
    trimEnd blanks = [] :=
  trimEnd_append_blanks (s := []) hblanks

namespace Cutting

variable {s : Cutting}

lemma pending_foldl_line (ls : List (List Char)) (hs : s.depth = 0 → s.pending = []) :
    (ls.foldl Cutting.line s).depth = 0 → (ls.foldl Cutting.line s).pending = [] := by
  induction ls generalizing s with
  | nil => exact hs
  | cons l ls ih =>
    apply ih
    rw [Cutting.line]
    split
    · exact hs
    · dsimp only
      split
      · exact fun _ => rfl
      · rename_i hdepth
        intro hzero
        exact absurd (Int.le_of_eq hzero) hdepth

lemma line_of_blank (s : Cutting) (hs : s.depth = 0) {raw : List Char}
    (hraw : ∀ c ∈ raw, isBlank c = true) : s.line raw = s := by
  rw [Cutting.line, trim_eq_nil hraw]
  exact if_pos ⟨hs, rfl⟩

lemma char_semicolon (hs : s.depth = 0) : s.char ';' = ⟨s.flush.finished, [], 0⟩ := by
  rw [Cutting.char, if_neg (by decide), if_neg (by decide), if_pos ⟨rfl, hs⟩, ← hs]
  rfl

lemma flush_foldl_piece {text indent blanks : List Char} (h : IsPiece text)
    (hindent : ∀ c ∈ indent, isBlank c = true) (hblanks : ∀ c ∈ blanks, isBlank c = true)
    (finished : List (List Char)) :
    ((indent ++ (text ++ blanks)).foldl Cutting.char ⟨finished, [], 0⟩).depth = 0 ∧
      ((indent ++ (text ++ blanks)).foldl Cutting.char ⟨finished, [], 0⟩).flush =
        ⟨trim text :: finished, [], 0⟩ := by
  have htext := h.nested.foldl_char finished indent.reverse (Int.le_refl 0) fun _ _ hc => hc
  have hread : (indent ++ (text ++ blanks)).foldl Cutting.char ⟨finished, [], 0⟩ =
      ⟨finished, (indent ++ (text ++ blanks)).reverse, 0⟩ := by
    rw [List.foldl_append, List.foldl_append, foldl_char_of_blanks hindent, List.append_nil, htext,
      foldl_char_of_blanks hblanks]
    simp
  have htrim : trim (indent ++ (text ++ blanks)) = trim text := by
    rw [← List.append_assoc, trim_append_blanks hblanks, trim, trimStart_append_blanks hindent, trim]
  rw [hread, flush_mk, List.reverse_reverse, nonblank, List.map_singleton, htrim]
  simp [h.isCandidate.ne_nil]

lemma behind_piece {text indent behind : List Char} (h : IsPiece text)
    (hindent : ∀ c ∈ indent, isBlank c = true) (hend : CanEnd behind)
    (finished : List (List Char)) :
    Behind (trim text :: finished) (Cutting.line ⟨[], [], 0⟩ behind)
      ((indent ++ trimEnd (text ++ behind)).foldl Cutting.char ⟨finished, [], 0⟩).endLine := by
  have hsim := behind_simulation (trim text :: finished)
  have hstart : Behind (trim text :: finished) ⟨[], [], 0⟩ ⟨trim text :: finished, [], 0⟩ := rfl
  rcases hend with hblank | ⟨blanks, rest, rfl, hblanks⟩
  · have hcandidate : IsPiece (trim text) := by
      refine ⟨h.isCandidate.ne_nil, fun c hc => h.head c ?_, h.isCandidate.nested,
        h.isCandidate.newline_not_mem⟩
      rw [h.trim_eq] at hc
      obtain ⟨t, ht⟩ := trimEnd_prefix text
      rw [← ht, List.head?_append, Option.mem_def.mp hc]
      rfl
    obtain ⟨hdepth, hflush⟩ :=
      @flush_foldl_piece _ indent [] hcandidate hindent (by simp) finished
    rw [List.append_nil, h.isCandidate.trimmed.trim_eq] at hflush
    rw [List.append_nil] at hdepth
    rw [trimEnd_append_blanks hblank, ← h.trim_eq, endLine_of_depth hdepth, hflush,
      line_of_blank _ rfl hblank]
    exact hstart
  · obtain ⟨hdepth, hflush⟩ := flush_foldl_piece h hindent hblanks finished
    have hlower : Cutting.line ⟨[], [], 0⟩ (blanks ++ ';' :: rest) =
        ((trimEnd rest).foldl Cutting.char ⟨[], [], 0⟩).endLine := by
      rw [line_semicolon _ _ rest, trimStart_eq_nil_iff.mpr hblanks]
      · rfl
      · rw [trimStart_eq_nil_iff.mpr hblanks]
        decide
    have htrim : indent ++ trimEnd (text ++ (blanks ++ ';' :: rest)) =
        indent ++ (text ++ blanks) ++ ';' :: trimEnd rest := by
      rw [← List.append_assoc text, trimEnd_append_cons (by decide), List.append_assoc indent]
    rw [hlower, htrim, List.foldl_append, List.foldl_cons, char_semicolon hdepth, hflush]
    exact hsim.endLine (hsim.foldl_char hstart _)

/-- A line is read up to a member behind `before`, where some candidates are cut off and nothing is
pending but blanks. -/
structure ReadyAfter (s : Cutting) (before : List Char) (finished : List (List Char)) : Prop where
  alone : (s.line before).flush.finished = finished
  followed : ∃ indent, (∀ c ∈ indent, isBlank c = true) ∧ ∀ text tail, IsPiece text →
    s.line (before ++ (text ++ tail)) =
      ((indent ++ trimEnd (text ++ tail)).foldl Cutting.char ⟨finished, [], 0⟩).endLine

lemma readyAfter_blanks (hs : s.depth = 0) (hpending : s.pending = []) {before : List Char}
    (hbefore : ∀ c ∈ before, isBlank c = true) : s.ReadyAfter before s.finished where
  alone := by
    rw [line_of_blank s hs hbefore, flush, hpending]
    rfl
  followed := by
    refine ⟨[], by simp, fun text tail htext => ?_⟩
    have htrim : trim (before ++ (text ++ tail)) = trimEnd (text ++ tail) := by
      obtain ⟨c, rest, rfl, hc⟩ := htext.exists_cons
      rw [trim, trimStart_append_blanks hbefore, trimStart_eq_self]
      intro d hd
      obtain rfl : c = d := by simpa using hd
      exact not_isBlank_of_isWord hc
    have heta : s = ⟨s.finished, [], 0⟩ := by rw [← hpending, ← hs]
    rw [line_of_not_isFiller _ (by rw [htrim]; exact htext.isFiller_trimEnd tail), htrim,
      List.nil_append, ← heta]

lemma readyAfter_semicolon {front blanks : List Char}
    (hfront : ((trimStart front).foldl Cutting.char s).depth = 0)
    (hcomment : ¬ "//".toList <+: trimStart front) (hblanks : ∀ c ∈ blanks, isBlank c = true) :
    s.ReadyAfter (front ++ ';' :: blanks)
      ((trimStart front).foldl Cutting.char s).flush.finished where
  alone := by
    rw [line_semicolon _ hcomment, char_semicolon hfront, trimEnd_eq_nil hblanks, List.foldl_nil,
      endLine_of_depth rfl]
    rfl
  followed := by
    refine ⟨blanks, hblanks, fun text tail htext => ?_⟩
    rw [List.append_assoc, List.cons_append, line_semicolon _ hcomment, char_semicolon hfront,
      htext.trimEnd_append blanks tail]

end Cutting

namespace Surroundings

variable (s : Surroundings) {text : List Char}

/-- What stands before the member. -/
def upper : List Char :=
  unlines (s.above ++ [s.before])

/-- What stands behind the member. -/
def lower : List Char :=
  unlines (s.behind :: s.below)

def body (text : List Char) : List Char :=
  s.upper ++ (text ++ s.lower)

/-- A definition that has the body between its first braces. -/
def definition (lead text rest : List Char) : List Char :=
  lead ++ '{' :: (s.body text ++ '}' :: rest)

lemma newline_not_mem_above : ∀ l ∈ s.above ++ [s.before], '\n' ∉ l := by
  intro l hl
  apply s.newline_not_mem
  rw [List.append_cons]
  exact List.mem_append_left _ hl

lemma newline_not_mem_below : ∀ l ∈ s.behind :: s.below, '\n' ∉ l := by
  intro l hl
  apply s.newline_not_mem
  rw [List.append_cons]
  exact List.mem_append_right _ hl

lemma lines_body (htext : '\n' ∉ text) :
    lines (s.body text) = s.above ++ (s.before ++ (text ++ s.behind)) :: s.below := by
  have hupper : lines s.upper = s.above ++ [s.before] := lines_unlines (by simp) s.newline_not_mem_above
  have hlower : lines s.lower = s.behind :: s.below := lines_unlines (by simp) s.newline_not_mem_below
  exact lines_append_of hupper (lines_append_of_newline_not_mem htext hlower)

lemma exists_readyAfter : ∃ finished,
    (s.above.foldl Cutting.line ⟨[], [], 0⟩).ReadyAfter s.before finished := by
  have hstart : (⟨[], [], 0⟩ : Cutting).Sound 0 := ⟨rfl, .nil, List.not_mem_nil, by simp⟩
  obtain ⟨k, habove, hbefore⟩ := hstart.exists_line
    (fun l hl => s.newline_not_mem_above l (List.mem_append_left _ hl)) s.braceless
    (s.upper_balanced.levels fun _ _ _ => trivial)
  rcases s.begins with hblank | ⟨front, blanks, heq, hcomment, hblanks⟩
  · obtain rfl := hbefore.eq_of_blanks hblank
    have hpending := Cutting.pending_foldl_line (s := ⟨[], [], 0⟩) s.above fun _ => rfl
    exact ⟨_, Cutting.readyAfter_blanks habove.depth (hpending habove.depth) hblank⟩
  · rw [heq] at hbefore ⊢
    obtain ⟨m, hfront, hrest⟩ := hbefore.exists_of_append
    have hsemicolon : ∀ c, isBlank c = false → c ≠ ';' → c ∉ ';' :: blanks := by
      intro c hc hne hmem
      rcases List.mem_cons.mp hmem with rfl | hmem
      · exact hne rfl
      · rw [hblanks c hmem] at hc
        cases hc
    obtain rfl := hrest.eq_of_braceless (hsemicolon _ (by decide) (by decide))
      (hsemicolon _ (by decide) (by decide))
    have hread : ((trimStart front).foldl Cutting.char
        (s.above.foldl Cutting.line ⟨[], [], 0⟩)).Sound 0 := by
      rw [← List.takeWhile_append_dropWhile (p := isBlank) (l := front), ← trimStart] at hfront
      obtain ⟨k', hindent, hfront⟩ := hfront.exists_of_append
      obtain rfl := hindent.eq_of_blanks fun _ hc => List.mem_takeWhile_imp hc
      refine habove.foldl_char (fun hmem => ?_) hfront
      apply s.newline_not_mem_above s.before (by simp)
      rw [heq]
      exact List.mem_append_left _ ((trimStart_suffix front).subset hmem)
    exact ⟨_, Cutting.readyAfter_semicolon hread.depth hcomment hblanks⟩

theorem candidates_body (htext : IsPiece text) :
    candidates (s.body text) = candidates s.upper ++ trim text :: candidates s.lower := by
  obtain ⟨finished, hready⟩ := s.exists_readyAfter
  obtain ⟨indent, hindent, hline⟩ := hready.followed
  have hupper : candidates s.upper = finished.reverse := by
    rw [upper, candidates_unlines (by simp) s.newline_not_mem_above, List.foldl_append,
      List.foldl_cons, List.foldl_nil, hready.alone]
  have hlower : candidates s.lower =
      ((s.below.foldl Cutting.line (Cutting.line ⟨[], [], 0⟩ s.behind)).flush).finished.reverse := by
    rw [lower, candidates_unlines (by simp) s.newline_not_mem_below, List.foldl_cons]
  have hsim := Cutting.behind_simulation (trim text :: finished)
  have hread := Cutting.behind_piece htext hindent s.ends finished
  have hend := hsim.flush (hsim.foldl_line hread s.below)
  rw [candidates, s.lines_body htext.newline_not_mem, List.foldl_append, List.foldl_cons,
    hline text s.behind htext, hend, hupper, hlower]
  simp

lemma body_balanced (htext : Balanced text) : Balanced (s.body text) :=
  s.upper_balanced.append (htext.append s.lower_balanced)

theorem fields_definition {lead : List Char} (hlead : '{' ∉ lead) (htext : IsPiece text)
    (rest : List Char) : fields (s.definition lead text rest) =
      Keyed.ofList Field.name ((candidates s.upper).filterMap field? ++
        ((field? (trim text)).toList ++ (candidates s.lower).filterMap field?)) := by
  rw [fields, definition, Braces.interior?_eq hlead (s.body_balanced htext.nested.balanced)]
  simp only [s.candidates_body htext, List.filterMap_append]
  cases h : field? (trim text) <;> simp [h]

end Surroundings

end TypeLineage.Member
