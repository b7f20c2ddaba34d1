import Mathlib.Data.List.Basic
import Mathlib.Data.List.Infix
import Mathlib.Tactic.Common
import TypeLineage.DefineCall
import TypeLineage.Proofs.Text

/-!
# Calls among other text

A text of calls with other text around them. Where no call begins in the other text, the scan finds the
calls and nothing else, each on the line of its keyword. The text in front of a call may end with a part
of what a call begins with, and a name may look like a call or go on over several lines.
-/

namespace TypeLineage.DefineCall

open Text

def keyword : List Char :=
  "define".toList

/-- A call up to the quote behind its name. -/
structure Call where
  gap : List Char
  indent : List Char
  opening : Char
  name : List Char
  closing : Char
  gap_blank : ∀ c ∈ gap, isBlank c = true
  indent_blank : ∀ c ∈ indent, isBlank c = true
  opening_quote : isQuote opening = true
  closing_quote : isQuote closing = true
  name_ne_nil : name ≠ []
  name_quoteless : ∀ c ∈ name, isQuote c = false

/-- The text of a call from the opening parenthesis on. -/
def Call.inside (c : Call) : List Char :=
  c.indent ++ c.opening :: (c.name ++ [c.closing])

def Call.text (c : Call) : List Char :=
  keyword ++ (c.gap ++ '(' :: c.inside)

/-- The keyword of a call stands in the text, and behind it the parenthesis or blanks in front of it. -/
def Begins (s : List Char) : Prop :=
  ∃ gap, (∀ c ∈ gap, isBlank c = true) ∧ keyword ++ (gap ++ ['(']) <:+: s

/-- Calls, each with the text that follows it. -/
def joined (parts : List (Call × List Char)) : List Char :=
  parts.flatMap fun p => p.1.text ++ p.2

section Reading

variable {s rest name gap : List Char}

lemma trimStart_paren (hgap : ∀ c ∈ gap, isBlank c = true) (rest : List Char) :
    trimStart (gap ++ '(' :: rest) = '(' :: rest := by
  rw [trimStart_append_blanks hgap]
  exact trimStart_eq_self (by simp [isBlank])

lemma not_isBlank_of_isQuote {c : Char} (h : isQuote c = true) : isBlank c = false := by
  rw [isQuote, Bool.or_eq_true, beq_iff_eq, beq_iff_eq] at h
  rcases h with rfl | rfl
  · decide
  · decide

lemma here?_text (c : Call) (rest : List Char) : here? (c.text ++ rest) = some (c.name, rest) := by
  have hkeyword : "define".toList.isPrefixOf? (c.text ++ rest) =
      some (c.gap ++ '(' :: (c.inside ++ rest)) := by
    rw [List.isPrefixOf?_eq_some_iff_append_eq, Call.text, List.append_assoc, List.append_assoc]
    rfl
  have hopening : trimStart (c.inside ++ rest) = c.opening :: (c.name ++ c.closing :: rest) := by
    have hblank := not_isBlank_of_isQuote c.opening_quote
    rw [Call.inside, List.append_assoc, trimStart_append_blanks c.indent_blank, List.cons_append,
      List.append_assoc, List.singleton_append]
    exact trimStart_eq_self (by simpa using hblank)
  have hplain : ∀ d ∈ c.name, (!isQuote d) = true := by
    intro d hd
    rw [c.name_quoteless d hd]
    rfl
  have hname : (c.name ++ c.closing :: rest).takeWhile (!isQuote ·) = c.name := by
    rw [List.takeWhile_append_of_pos hplain, List.takeWhile_cons_of_neg (by simp [c.closing_quote]),
      List.append_nil]
  have hrest : (c.name ++ c.closing :: rest).dropWhile (!isQuote ·) = c.closing :: rest := by
    rw [List.dropWhile_append_of_pos hplain, List.dropWhile_cons_of_neg (by simp [c.closing_quote])]
  unfold here?
  simp only [hkeyword, Option.bind_eq_bind, Option.bind_some, trimStart_paren c.gap_blank,
    List.isPrefixOf?, BEq.rfl, if_true, hopening, hname, hrest, c.opening_quote]
  simp [c.name_ne_nil]

lemma exists_of_here? (h : here? s = some (name, rest)) :
    ∃ c : Call, c.name = name ∧ s = c.text ++ rest := by
  unfold here? at h
  obtain ⟨s₁, hkeyword, h⟩ := Option.bind_eq_some_iff.mp h
  obtain ⟨s₂, hparen, h⟩ := Option.bind_eq_some_iff.mp h
  rw [List.isPrefixOf?_eq_some_iff_append_eq] at hparen
  have hstart : keyword ++ s₁ = s := List.isPrefixOf?_eq_some_iff_append_eq.mp hkeyword
  split at h
  · cases h
  · rename_i opening s₃ hopening
    simp only at h
    split at h
    · cases h
    · rename_i closing left hclosing
      split at h
      · rename_i hquote
        obtain ⟨rfl, rfl⟩ := Prod.mk.inj (Option.some.inj h)
        rw [Bool.and_eq_true, Bool.not_eq_true', List.isEmpty_eq_false_iff] at hquote
        have hclose : isQuote closing = true := by
          have hhead := List.head?_dropWhile_not (!isQuote ·) s₃
          rw [hclosing] at hhead
          simpa using hhead
        refine ⟨⟨s₁.takeWhile isBlank, s₂.takeWhile isBlank, opening, s₃.takeWhile (!isQuote ·),
          closing, fun _ hc => List.mem_takeWhile_imp hc, fun _ hc => List.mem_takeWhile_imp hc,
          hquote.1, hclose, hquote.2, fun c hc => by simpa using List.mem_takeWhile_imp hc⟩, rfl, ?_⟩
        have hname := List.takeWhile_append_dropWhile (p := (!isQuote ·)) (l := s₃)
        have hindent := List.takeWhile_append_dropWhile (p := isBlank) (l := s₂)
        have hgap := List.takeWhile_append_dropWhile (p := isBlank) (l := s₁)
        rw [hclosing] at hname
        rw [← trimStart, hopening] at hindent
        rw [← trimStart, ← hparen] at hgap
        rw [← hstart, Call.text, Call.inside]
        simp only [List.append_assoc, List.cons_append, List.nil_append] at hgap ⊢
        rw [hname, hindent, hgap]
      · cases h

end Reading

section Beginnings

variable {s t filler rest : List Char}

lemma Begins.mono (h : Begins s) (hs : s <:+: t) : Begins t := by
  obtain ⟨gap, hgap, hinfix⟩ := h
  exact ⟨gap, hgap, hinfix.trans hs⟩

/-- In front of another call, or of the end of the text, no call begins that does not begin in full. -/
lemma here?_append_eq_none (hne : filler ≠ []) (hfiller : ¬ Begins filler)
    (hrest : rest = [] ∨ keyword <+: rest) : here? (filler ++ rest) = none := by
  rw [Option.eq_none_iff_forall_ne_some]
  rintro ⟨name, left⟩ hhere
  obtain ⟨c, -, heq⟩ := exists_of_here? hhere
  rw [Call.text, List.append_assoc, List.append_assoc, List.cons_append] at heq
  apply hfiller
  rcases hrest with rfl | ⟨later, rfl⟩
  · rw [List.append_nil] at heq
    exact ⟨c.gap, c.gap_blank, [], c.inside ++ left, by simp [heq]⟩
  -- The keyword has no `d` but its first letter, so two keywords do not overlap, and the blanks and
  -- the parenthesis behind the first one end in front of the second one.
  · have hstart : keyword <+: filler ++ (keyword ++ later) :=
      ⟨c.gap ++ '(' :: (c.inside ++ left), heq.symm⟩
    have hkeyword : keyword <+: filler :=
      @prefix_of_prefix_append_self 'd' "efine".toList _ _ (by decide) hne hstart
    obtain ⟨behind, rfl⟩ := hkeyword
    rw [List.append_assoc, List.append_cancel_left_eq] at heq
    have hparen : c.gap ++ ['('] <+: behind := by
      have hd : 'd' ∉ c.gap ++ ['('] := by
        rw [List.mem_append, not_or]
        exact ⟨fun hmem => absurd (c.gap_blank _ hmem) (by decide), by decide⟩
      have hbehind : c.gap ++ ['('] <+: behind ++ 'd' :: ("efine".toList ++ later) := by
        refine ⟨c.inside ++ left, ?_⟩
        rw [List.append_assoc, List.singleton_append, ← heq]
        rfl
      exact prefix_of_prefix_append_cons hd hbehind
    exact ⟨c.gap, c.gap_blank, ((List.prefix_append_right_inj keyword).mpr hparen).isInfix⟩

end Beginnings

section Scanning

variable {line : Nat} {filler rest : List Char}

lemma callsFrom_cons (c : Char) (s : List Char) (h : here? (c :: s) = none) :
    callsFrom line 0 (c :: s) = callsFrom (line + [c].count '\n') 0 s := by
  rw [callsFrom, h]
  by_cases hc : c = '\n'
  · simp [hc]
  · simp [hc]

lemma callsFrom_skip (s rest : List Char) :
    callsFrom line s.length (s ++ rest) = callsFrom (line + s.count '\n') 0 rest := by
  induction s generalizing line with
  | nil => rfl
  | cons c s ih =>
    rw [List.length_cons, List.cons_append, callsFrom, ih]
    by_cases hc : c = '\n'
    · rw [if_pos hc, hc, List.count_cons_self]
      congr 1
      omega
    · rw [if_neg hc, List.count_cons_of_ne hc]

lemma callsFrom_text (c : Call) (rest : List Char) : callsFrom line 0 (c.text ++ rest) =
    (String.ofList c.name, line) :: callsFrom (line + c.text.count '\n') 0 rest := by
  have hhere := here?_text c rest
  obtain ⟨s, hs⟩ : ∃ s, c.text = 'd' :: s := ⟨_, rfl⟩
  rw [hs, List.cons_append] at hhere ⊢
  rw [callsFrom, hhere]
  have hskip : (s ++ rest).length - rest.length = s.length := by
    rw [List.length_append, Nat.add_sub_cancel]
  simp only [hskip, callsFrom_skip]
  rw [List.count_cons_of_ne (by decide)]

lemma callsFrom_filler (hfiller : ¬ Begins filler) (hrest : rest = [] ∨ keyword <+: rest) :
    callsFrom line 0 (filler ++ rest) = callsFrom (line + filler.count '\n') 0 rest := by
  induction filler generalizing line with
  | nil => rfl
  | cons c filler ih =>
    have hnone := here?_append_eq_none (List.cons_ne_nil c filler) hfiller hrest
    have hlater : ¬ Begins filler := fun h => hfiller (h.mono (List.suffix_cons c filler).isInfix)
    rw [List.cons_append] at hnone ⊢
    rw [callsFrom_cons c _ hnone, ih hlater]
    have hcount : (c :: filler).count '\n' = [c].count '\n' + filler.count '\n' :=
      @List.count_append Char _ '\n' [c] filler
    rw [hcount, Nat.add_assoc]

end Scanning

section Whole

variable {line : Nat} {lead : List Char} {parts : List (Call × List Char)}

@[simp] lemma joined_nil : joined [] = [] :=
  rfl

@[simp] lemma joined_cons (p : Call × List Char) (parts : List (Call × List Char)) :
    joined (p :: parts) = p.1.text ++ (p.2 ++ joined parts) := by
  simp [joined]

lemma joined_eq_nil_or_keyword (parts : List (Call × List Char)) :
    joined parts = [] ∨ keyword <+: joined parts := by
  cases parts with
  | nil => exact .inl rfl
  | cons p parts =>
    rw [joined_cons, Call.text, List.append_assoc]
    exact .inr (List.prefix_append _ _)

lemma callsFrom_joined (hlead : ¬ Begins lead) (hparts : ∀ p ∈ parts, ¬ Begins p.2) :
    callsFrom line 0 (lead ++ joined parts) = parts.mapIdx fun i p =>
      (String.ofList p.1.name, line + (lead ++ joined (parts.take i)).count '\n') := by
  induction parts generalizing line lead with
  | nil =>
    rw [joined_nil, callsFrom_filler hlead (.inl rfl)]
    rfl
  | cons p parts ih =>
    obtain ⟨hp, hparts⟩ := List.forall_mem_cons.mp hparts
    rw [callsFrom_filler hlead (joined_eq_nil_or_keyword _), joined_cons, callsFrom_text, ih hp hparts,
      List.mapIdx_cons]
    simp only [List.take_zero, joined_nil, List.append_nil, List.take_succ_cons, joined_cons,
      List.count_append, Nat.add_assoc]

/-- The scan recovers the calls: each with its name and the line of its keyword, in the order of the
text, and nothing for the text around them. -/
theorem all_joined (hlead : ¬ Begins lead) (hparts : ∀ p ∈ parts, ¬ Begins p.2) (file : String) :
    all (lead ++ joined parts) file = parts.mapIdx fun i p =>
      ⟨String.ofList p.1.name, none, [],
        ((lead ++ joined (parts.take i)).count '\n' + 1 : Nat), file⟩ := by
  rw [all, callsFrom_joined hlead hparts]
  apply List.ext_getElem
  · simp
  · intro i hi hi'
    simp [Nat.add_comm]

lemma begins_iff (s : List Char) : Begins s ↔
    ∃ t ∈ s.tails, keyword <+: t ∧ ['('] <+: trimStart (t.drop keyword.length) := by
  constructor
  · rintro ⟨gap, hgap, front, behind, rfl⟩
    refine ⟨keyword ++ (gap ++ '(' :: behind), (List.mem_tails _ _).mpr ⟨front, by simp⟩,
      List.prefix_append _ _, ?_⟩
    rw [List.drop_left, trimStart_paren hgap]
    exact List.prefix_append ['('] behind
  · rintro ⟨t, ht, ⟨rest, rfl⟩, behind, hbehind⟩
    rw [List.drop_left] at hbehind
    have hrest := List.takeWhile_append_dropWhile (p := isBlank) (l := rest)
    rw [← trimStart, ← hbehind, List.singleton_append] at hrest
    refine ⟨rest.takeWhile isBlank, fun c hc => List.mem_takeWhile_imp hc,
      List.IsInfix.trans ?_ ((List.mem_tails _ _).mp ht).isInfix⟩
    exact ⟨[], behind, by simp [hrest]⟩

instance (s : List Char) : Decidable (Begins s) :=
  decidable_of_iff _ (begins_iff s).symm

lemma quoteless_of_all {name : List Char} (h : name.all (!isQuote ·) = true) :
    ∀ c ∈ name, isQuote c = false :=
  fun c hc => by simpa using List.all_eq_true.mp h c hc

/-- The text in front of the first call ends like the start of a call, and the first name goes on over
two lines and looks like a call. -/
theorem all_joined_lookalikes :
    let first : Call :=
      { gap := [' '], indent := ['\t'], opening := '\'', name := "A\ndefine(B".toList, closing := '"'
        gap_blank := List.all_eq_true.mp (by decide), indent_blank := List.all_eq_true.mp (by decide)
        opening_quote := rfl, closing_quote := rfl
        name_ne_nil := by decide, name_quoteless := quoteless_of_all (by decide) }
    let second : Call :=
      { gap := [], indent := ['\n'], opening := '"', name := "C".toList, closing := '"'
        gap_blank := List.all_eq_true.mp (by decide), indent_blank := List.all_eq_true.mp (by decide)
        opening_quote := rfl, closing_quote := rfl
        name_ne_nil := by decide, name_quoteless := quoteless_of_all (by decide) }
    let lead := "define x\ndef".toList
    let parts := [(first, ")\n// define ".toList), (second, ", [])".toList)]
    ¬ Begins lead ∧ (∀ p ∈ parts, ¬ Begins p.2) ∧
      all (lead ++ joined parts) "a.ts" =
        [⟨"A\ndefine(B", none, [], 2, "a.ts"⟩, ⟨"C", none, [], 4, "a.ts"⟩] := by
  intro first second lead parts
  have hlead : ¬ Begins lead := by decide
  have hparts : ∀ p ∈ parts, ¬ Begins p.2 := by decide
  exact ⟨hlead, hparts, all_joined hlead hparts "a.ts"⟩

end Whole

end TypeLineage.DefineCall
