import Mathlib.Algebra.Ring.Parity
import Mathlib.Data.List.Basic
import Mathlib.Tactic.Common
import TypeLineage.Export.Dot

/-!
# Quoted strings of the DOT language

A reader of the DOT language knows one escape: a backslash in front of a double quote. A quote that
stands behind an even number of backslashes ends a string, and all other backslashes are what they are.
So the exported text of a graph can be read exactly if what is quoted has no quote behind an odd number
of backslashes. One that has shifts all quotes behind it, and the reading fails.
-/

namespace TypeLineage.Dot

/-- What a reader finds: a quoted string, or a character outside of strings. -/
inductive Token where
  | string (s : List Char)
  | mark (c : Char)
  deriving DecidableEq, Repr

/-- Where a reader stands: outside of strings, in a string of which it has read a part, or there right
behind a backslash that does not belong to the part yet. -/
inductive Mode where
  | outside
  | inside (s : List Char)
  | escaped (s : List Char)

/-- The blanks between tokens. -/
def isGap (c : Char) : Bool :=
  c = ' ' || c = '\n'

/-- The characters that may stand outside of strings. A backslash may not. -/
def isMark (c : Char) : Bool :=
  c.isAlphanum || "_.=,;->[]\x7b\x7d".toList.contains c

/-- Reads a text into tokens. It is refused where a character may not stand outside of strings, and
where a string does not end. -/
def lex : Mode → List Char → Option (List Token)
  | .outside, [] => some []
  | .outside, c :: rest =>
    if c = '"' then lex (.inside []) rest
    else if isGap c then lex .outside rest
    else if isMark c then (lex .outside rest).map (.mark c :: ·)
    else none
  | .inside s, c :: rest =>
    if c = '"' then (lex .outside rest).map (.string s :: ·)
    else if c = '\\' then lex (.escaped s) rest
    else lex (.inside (s ++ [c])) rest
  | .escaped s, c :: rest =>
    if c = '"' then lex (.inside (s ++ ['"'])) rest
    else lex (.inside (s ++ ['\\', c])) rest
  | .inside _, [] | .escaped _, [] => none

/-- The number of backslashes that a text ends with. -/
def backslashes (s : List Char) : Nat :=
  (s.reverse.takeWhile (· = '\\')).length

/-- Every double quote in the text stands behind an even number of backslashes. -/
def Legible (s : List Char) : Prop :=
  ∀ before after, s = before ++ '"' :: after → Even (backslashes before)

section Parity

variable {s t : List Char} {c : Char}

lemma backslashes_concat (s : List Char) (c : Char) :
    backslashes (s ++ [c]) = if c = '\\' then backslashes s + 1 else 0 := by
  by_cases hc : c = '\\' <;> simp [backslashes, hc]

/-- Writing a legible text in quotes keeps it in one string: the number of backslashes in front of the
place is odd or not, and the quote at the end must not be escaped. -/
def closes : (odd : Bool) → List Char → Bool
  | odd, [] => !odd
  | odd, c :: rest => if c = '"' then !odd && closes false rest else closes (c = '\\' && !odd) rest

lemma forall_quote_cons_iff {P : List Char → Prop} :
    (∀ front after, c :: s = front ++ '"' :: after → P front) ↔
      (c = '"' → P []) ∧ ∀ front after, s = front ++ '"' :: after → P (c :: front) := by
  constructor
  · refine fun h => ⟨?_, fun front after heq => h (c :: front) after (by simp [heq])⟩
    rintro rfl
    exact h [] s rfl
  · rintro ⟨hfirst, hbehind⟩ front after heq
    cases front with
    | nil =>
      obtain ⟨hc, -⟩ := List.cons.inj heq
      exact hfirst hc
    | cons d front =>
      obtain ⟨rfl, hs⟩ := List.cons.inj heq
      exact hbehind front after hs

lemma closes_iff (before s : List Char) :
    closes (decide (¬ Even (backslashes before))) s = true ↔
      ∀ front after, s ++ ['"'] = front ++ '"' :: after → Even (backslashes (before ++ front)) := by
  induction s generalizing before with
  | nil =>
    rw [List.nil_append, forall_quote_cons_iff]
    simp [closes]
  | cons c s ih =>
    have hbehind : (∀ front after, s ++ ['"'] = front ++ '"' :: after →
        Even (backslashes (before ++ c :: front))) ↔
          closes (decide (¬ Even (backslashes (before ++ [c])))) s = true := by
      simpa using (ih (before ++ [c])).symm
    rw [List.cons_append, forall_quote_cons_iff, List.append_nil, hbehind, backslashes_concat, closes]
    by_cases hq : c = '"'
    · subst hq
      simp
    · by_cases hb : c = '\\' <;> simp [hq, hb, Nat.even_add_one, -Nat.not_even_iff_odd]

lemma closes_false_iff : closes false s = true ↔ Legible (s ++ ['"']) := by
  simpa [backslashes, Legible] using closes_iff [] s

lemma legible_append (ht : '"' ∉ t) : Legible (s ++ t) ↔ Legible s := by
  constructor
  · rintro h before after rfl
    exact h before (after ++ t) (by simp)
  · intro h before after heq
    rcases List.append_eq_append_iff.mp heq with ⟨front, -, hback⟩ | ⟨front, rfl, hback⟩
    · exact absurd (by simp [hback]) ht
    · cases front with
      | nil =>
        obtain rfl : '"' :: after = t := hback
        exact absurd List.mem_cons_self ht
      | cons c front =>
        obtain ⟨rfl, -⟩ := List.cons.inj hback
        exact h before front rfl

lemma legible_concat (hc : c ≠ '\\') :
    Legible (s ++ [c] ++ ['"']) ↔ Legible (s ++ [c]) := by
  constructor
  · rintro h before after heq
    exact h before (after ++ ['"']) (by simp [heq])
  · intro h before after heq
    rcases List.eq_nil_or_concat after with rfl | ⟨after, d, rfl⟩
    · obtain ⟨rfl, -⟩ := List.append_inj' heq rfl
      simp [backslashes_concat, hc]
    · rw [List.concat_eq_append, ← List.cons_append, ← List.append_assoc] at heq
      obtain ⟨heq, -⟩ := List.append_inj' heq rfl
      exact h before after heq

end Parity

section Strings

variable {s part rest : List Char}

lemma escape_cons (c : Char) (s : List Char) :
    escape (c :: s) = (if c = '"' then ['\\', '"'] else [c]) ++ escape s :=
  List.flatMap_cons

lemma lex_escape (s rest : List Char) :
    (∀ part, closes false s = true → lex (.inside part) (escape s ++ '"' :: rest) =
      (lex .outside rest).map (.string (part ++ s) :: ·)) ∧
    ∀ part, closes true s = true → lex (.escaped part) (escape s ++ '"' :: rest) =
      (lex .outside rest).map (.string (part ++ '\\' :: s) :: ·) := by
  -- One induction carries both modes, since a backslash leads from one to the other.
  induction s with
  | nil => simp [closes, escape, lex]
  | cons c s ih =>
    obtain ⟨hinside, hescaped⟩ := ih
    rw [escape_cons]
    by_cases hq : c = '"'
    · subst hq
      refine ⟨fun part h => ?_, fun part h => by simp [closes] at h⟩
      simpa [lex] using hinside (part ++ ['"']) (by simpa [closes] using h)
    · by_cases hb : c = '\\'
      · subst hb
        refine ⟨fun part h => ?_, fun part h => ?_⟩
        · simpa [lex] using hescaped part (by simpa [closes] using h)
        · simpa [lex] using hinside (part ++ ['\\', '\\']) (by simpa [closes] using h)
      · refine ⟨fun part h => ?_, fun part h => ?_⟩
        · simpa [lex, hq, hb] using hinside (part ++ [c]) (by simpa [closes, hq, hb] using h)
        · simpa [lex, hq] using hinside (part ++ ['\\', c]) (by simpa [closes, hq, hb] using h)

variable (hrest : ∀ part, lex (.inside part) rest = none)

include hrest

/-- Behind a quote that is read too early, a string is refused or closes into what must fail. -/
lemma lex_outside_escape_eq_none (s : List Char) :
    lex .outside (escape s ++ '"' :: rest) = none := by
  induction s with
  | nil => simpa [escape, lex] using hrest []
  | cons c s ih =>
    rw [escape_cons]
    by_cases hq : c = '"'
    · subst hq
      have hmark : isMark '\\' = false := by decide
      simp [lex, isGap, hmark]
    · by_cases hgap : isGap c = true
      · simpa [lex, hq, hgap] using ih
      · simp [lex, hq, hgap, ih]

lemma lex_escape_eq_none (s : List Char) :
    (∀ part, closes false s = false → lex (.inside part) (escape s ++ '"' :: rest) = none) ∧
    ∀ part, closes true s = false → lex (.escaped part) (escape s ++ '"' :: rest) = none := by
  induction s with
  | nil =>
    refine ⟨fun part h => by simp [closes] at h, fun part _ => ?_⟩
    simpa [escape, lex] using hrest (part ++ ['"'])
  | cons c s ih =>
    obtain ⟨hinside, hescaped⟩ := ih
    rw [escape_cons]
    by_cases hq : c = '"'
    · subst hq
      refine ⟨fun part h => ?_, fun part _ => ?_⟩
      · simpa [lex] using hinside (part ++ ['"']) (by simpa [closes] using h)
      · simpa [lex] using lex_outside_escape_eq_none hrest s
    · by_cases hb : c = '\\'
      · subst hb
        refine ⟨fun part h => ?_, fun part h => ?_⟩
        · simpa [lex] using hescaped part (by simpa [closes] using h)
        · simpa [lex] using hinside (part ++ ['\\', '\\']) (by simpa [closes] using h)
      · refine ⟨fun part h => ?_, fun part h => ?_⟩
        · simpa [lex, hq, hb] using hinside (part ++ [c]) (by simpa [closes, hq, hb] using h)
        · simpa [lex, hq] using hinside (part ++ ['\\', c]) (by simpa [closes, hq, hb] using h)

end Strings

/-- A piece of a text: characters outside of strings, or a string in quotes. -/
inductive Piece where
  | plain (s : List Char)
  | quoted (s : List Char)

namespace Piece

def text : Piece → List Char
  | plain s => s
  | quoted s => string s

/-- The tokens that are read from a piece. -/
def tokens : Piece → List Token
  | plain s => (s.filter (!isGap ·)).map .mark
  | quoted s => [.string s]

@[simp] lemma tokens_quoted (s : List Char) : (quoted s).tokens = [.string s] := rfl

@[simp] lemma tokens_plain_nil : (plain []).tokens = [] := rfl

/-- The characters of a plain piece may stand outside of strings. -/
def IsPlain : Piece → Prop
  | plain s => ∀ c ∈ s, isGap c = true ∨ isMark c = true
  | quoted _ => True

/-- A quoted piece is legible up to the quote behind it. -/
def IsLegible : Piece → Prop
  | plain _ => True
  | quoted s => Legible (s ++ ['"'])

end Piece

section Pieces

variable {ps : List Piece} {s rest : List Char}

lemma not_isMark_quote : isGap '"' = false ∧ isMark '"' = false := by
  decide

lemma not_isMark_backslash : isGap '\\' = false ∧ isMark '\\' = false := by
  decide

lemma lex_plain (hs : (Piece.plain s).IsPlain) :
    lex .outside (s ++ rest) =
      (lex .outside rest).map ((Piece.plain s).tokens ++ ·) := by
  induction s with
  | nil => simp [Piece.tokens]
  | cons c s ih =>
    have ih := ih fun d hd => hs d (List.mem_cons_of_mem _ hd)
    have hc := hs c List.mem_cons_self
    have hq : c ≠ '"' := by
      rintro rfl
      simp [not_isMark_quote] at hc
    by_cases hgap : isGap c = true
    · simpa [lex, hq, hgap, Piece.tokens] using ih
    · have hmark := hc.resolve_left hgap
      simp [lex, hq, hgap, hmark, ih, Piece.tokens, Function.comp_def]

lemma lex_inside_plain (hs : (Piece.plain s).IsPlain) (part : List Char) :
    lex (.inside part) (s ++ rest) = lex (.inside (part ++ s)) rest := by
  induction s generalizing part with
  | nil => simp
  | cons c s ih =>
    have hc := hs c List.mem_cons_self
    have hq : c ≠ '"' := by
      rintro rfl
      simp [not_isMark_quote] at hc
    have hb : c ≠ '\\' := by
      rintro rfl
      simp [not_isMark_backslash] at hc
    have ih := ih (fun d hd => hs d (List.mem_cons_of_mem _ hd)) (part ++ [c])
    simpa [lex, hq, hb] using ih

/-- A reader that is inside a string at the beginning of a piece is still there at its end, and cannot
end with the text. -/
lemma lex_inside_pieces (hps : ∀ p ∈ ps, p.IsPlain) (part : List Char) :
    lex (.inside part) (ps.flatMap Piece.text) = none := by
  induction ps generalizing part with
  | nil => rfl
  | cons p ps ih =>
    have ih := ih fun q hq => hps q (List.mem_cons_of_mem _ hq)
    rw [List.flatMap_cons]
    cases p with
    | plain s =>
      rw [Piece.text, lex_inside_plain (hps _ List.mem_cons_self)]
      exact ih _
    | quoted s =>
      have hnone := lex_outside_escape_eq_none ih s
      simpa [Piece.text, string, lex] using hnone

theorem lex_pieces (hps : ∀ p ∈ ps, p.IsPlain) (hlegible : ∀ p ∈ ps, p.IsLegible) :
    lex .outside (ps.flatMap Piece.text) = some (ps.flatMap Piece.tokens) := by
  induction ps with
  | nil => rfl
  | cons p ps ih =>
    have ih := ih (fun q hq => hps q (List.mem_cons_of_mem _ hq))
      fun q hq => hlegible q (List.mem_cons_of_mem _ hq)
    rw [List.flatMap_cons, List.flatMap_cons]
    cases p with
    | plain s =>
      rw [Piece.text, lex_plain (hps _ List.mem_cons_self), ih]
      rfl
    | quoted s =>
      have hs := (lex_escape s (ps.flatMap Piece.text)).1 []
        (closes_false_iff.mpr (hlegible _ List.mem_cons_self))
      rw [ih] at hs
      simpa [Piece.text, Piece.tokens, string, lex] using hs

/-- One piece that is not legible spoils the whole text. -/
theorem lex_pieces_eq_none (hps : ∀ p ∈ ps, p.IsPlain) (hillegible : ∃ p ∈ ps, ¬ p.IsLegible) :
    lex .outside (ps.flatMap Piece.text) = none := by
  induction ps with
  | nil => simp at hillegible
  | cons p ps ih =>
    have hrest : ∀ q ∈ ps, q.IsPlain := fun q hq => hps q (List.mem_cons_of_mem _ hq)
    have ih := ih hrest
    rw [List.flatMap_cons]
    cases p with
    | plain s =>
      have hlater : ∃ p ∈ ps, ¬ p.IsLegible := by simpa [Piece.IsLegible] using hillegible
      rw [Piece.text, lex_plain (hps _ List.mem_cons_self), ih hlater]
      rfl
    | quoted s =>
      by_cases hs : closes false s = true
      · have hlater : ∃ p ∈ ps, ¬ p.IsLegible := by
          simpa [Piece.IsLegible, closes_false_iff.mp hs] using hillegible
        have hread := (lex_escape s (ps.flatMap Piece.text)).1 [] hs
        rw [ih hlater] at hread
        simpa [Piece.text, string, lex] using hread
      · have hread := (lex_escape_eq_none (lex_inside_pieces hrest) s).1 [] (by simpa using hs)
        simpa [Piece.text, string, lex] using hread

end Pieces

end TypeLineage.Dot
