import Mathlib.Data.List.Basic
import Mathlib.Data.List.TakeWhile
import Mathlib.Tactic.Common
import TypeLineage.Declaration.Scan
import TypeLineage.Proofs.Attempts
import TypeLineage.Proofs.Definition
import TypeLineage.Proofs.Extent
import TypeLineage.Proofs.Levels
import TypeLineage.Proofs.Lines

/-!
# The braces of a declaration

The scanner counts braces line by line until a declaration is closed. The fields are read between the
first braces of the text that it takes in, which are searched for character by character. Both come to
the same closing brace.
-/

namespace TypeLineage

open Text

namespace Braces

/-- The first brace of a text, an opening or a closing one. -/
def first? (s : List Char) : Option Char :=
  s.find? fun c => c = '{' || c = '}'

lemma exists_of_first? {s : List Char} (h : first? s = some '{') :
    ∃ front back, s = front ++ '{' :: back ∧ '{' ∉ front ∧ '}' ∉ front := by
  obtain ⟨-, front, back, rfl, hfront⟩ := List.find?_eq_some_iff_append.mp h
  exact ⟨front, back, rfl, fun hmem => by simpa using hfront _ hmem,
    fun hmem => by simpa using hfront _ hmem⟩

end Braces

namespace Declaration

variable {s front back : List Char}

lemma countBraces_one_eq_none_iff : countBraces 1 true s = none ↔
    ∃ inner rest, s = inner ++ '}' :: rest ∧ Balanced inner := by
  constructor
  · intro h
    obtain ⟨inner, rest, rfl, hinner⟩ := exists_of_countBraces_eq_none h
    exact ⟨inner, rest, rfl, balanced_of_countBraces hinner⟩
  · rintro ⟨inner, rest, rfl, hinner⟩
    rw [hinner.countBraces_append Int.one_pos]
    rfl

theorem isSome_span?_iff (hopen : '{' ∉ front) (hclose : '}' ∉ front) (back : List Char) :
    (Braces.span? (front ++ '{' :: back)).isSome ↔
      countBraces 0 false (front ++ '{' :: back) = none := by
  rw [countBraces_front hopen hclose, countBraces_one_eq_none_iff]
  constructor
  · intro h
    rw [Braces.span?, Braces.spanFrom?_append_cons hopen, Option.isSome_map] at h
    obtain ⟨last, hlast⟩ := Option.isSome_iff_exists.mp h
    obtain ⟨inner, rest, rfl, -, hlevels⟩ := levels_of_closing? hlast
    exact ⟨inner, rest, rfl, hlevels.nested⟩
  · rintro ⟨inner, rest, rfl, hinner⟩
    rw [Braces.span?_eq hopen hinner]
    rfl

/-- The character at an offset of joined lines stands on the line of an index. -/
def StandsOn (ls : List (List Char)) (offset index : Nat) : Prop :=
  ∃ above p c q below, ls = above ++ (p ++ c :: q) :: below ∧ index = above.length ∧
    offset = (unlines (above ++ [p])).length

namespace Attempt

/-- The lines from behind the equals sign of the header on. -/
def onward (ls : List (List Char)) (a : Attempt) : List (List Char) :=
  a.first :: ls.drop (a.start + 1)

/-- The braces at two offsets of the text behind the equals sign are those of the declaration. The
closing one is on its last line; from the opening to the closing one they are the first braces of the
cleaned text, and the record is the one of the text that ends with them. -/
structure Spans (ls : List (List Char)) (a : Attempt) (text : List Char) (first last : Nat) :
    Prop where
  found : Braces.span? (unlines (a.onward ls)) = some (first, last)
  last_line : ∃ index, a.next - 1 = a.start + index ∧ StandsOn (a.onward ls) last index
  cleaned : ∃ lead ≤ first, Braces.span? (clean text) = some (first - lead, last - lead) ∧
    ((unlines (a.onward ls)).take (last + 1)).drop lead <+: clean text
  record : ∀ file, a.record? file =
    some (ofText a.name ((unlines (a.onward ls)).take (last + 1)) (a.start + 1) file)

end Attempt

lemma exists_texts_of_extent {first text : List Char} {rest : List (List Char)}
    (htext : (extent first rest).text = some text) : ∃ above p q below,
      first :: rest = above ++ (p ++ '}' :: q) :: below ∧
      (extent first rest).used = above.length + 1 ∧
      unlines (first :: rest) = unlines (above ++ [p]) ++ '}' :: unlines (q :: below) ∧
      text = unlines (above ++ [p]) ++ '}' :: q ∧
      countBraces 0 false (unlines (above ++ [p])) = some (1, true) := by
  obtain ⟨above, p, q, below, hlines, rfl, hused, hclose⟩ := exists_closing_of_extent htext
  refine ⟨above, p, q, below, hlines, hused, ?_, unlines_append_right _ _ _, ?_⟩
  · rw [hlines, unlines_append_cons]
    exact congrArg _ (unlines_append_left ['}'] q below)
  · rw [← countBraces_flatten, List.flatten_append, List.flatten_singleton]
    exact hclose

lemma exists_inner_of_countBraces (hopen : '{' ∉ front) (hclose : '}' ∉ front) {upper tail : List Char}
    (hsame : front ++ '{' :: back = upper ++ '}' :: tail)
    (hcount : countBraces 0 false upper = some (1, true)) :
    ∃ inner, upper = front ++ '{' :: inner ∧ Balanced inner := by
  have hnot : '}' ∉ front ++ ['{'] := by simp [hclose]
  have hwhole : front ++ ['{'] <+: upper ++ '}' :: tail := by
    rw [← hsame]
    exact ⟨back, by simp⟩
  have hp : front ++ ['{'] <+: upper := prefix_of_prefix_append_cons hnot hwhole
  obtain ⟨inner, rfl⟩ := hp
  rw [List.append_assoc, List.singleton_append, countBraces_front hopen hclose] at hcount
  exact ⟨inner, by simp, balanced_of_countBraces hcount⟩

lemma exists_clean_braces (front inner rest : List Char) : ∃ rest',
    clean (front ++ '{' :: (inner ++ '}' :: rest)) =
      trimStart front ++ '{' :: (inner ++ '}' :: rest') := by
  obtain ⟨rest', hclean⟩ :=
    exists_clean_append_cons (by decide) (by decide : '}' ≠ ';') (front ++ '{' :: inner) rest
  rw [trimStart_append_cons (by decide)] at hclean
  exact ⟨rest', by simpa using hclean⟩

lemma exists_span?_clean (hopen : '{' ∉ front) {inner : List Char} (hinner : Balanced inner)
    (rest : List Char) : ∃ lead ≤ front.length,
      Braces.span? (clean (front ++ '{' :: (inner ++ '}' :: rest))) =
        some (front.length - lead, front.length + 1 + inner.length - lead) ∧
      (front ++ '{' :: (inner ++ ['}'])).drop lead <+:
        clean (front ++ '{' :: (inner ++ '}' :: rest)) := by
  obtain ⟨rest', hclean⟩ := exists_clean_braces front inner rest
  have hopen' : '{' ∉ trimStart front := fun hmem => hopen ((trimStart_suffix front).subset hmem)
  obtain ⟨blanks, hblanks⟩ := trimStart_suffix front
  have hlength := congrArg List.length hblanks
  rw [List.length_append] at hlength
  refine ⟨blanks.length, by omega, ?_, ?_⟩
  · rw [hclean, Braces.span?_eq hopen' hinner]
    simp only [Option.some.injEq, Prod.mk.injEq]
    omega
  · rw [hclean]
    generalize trimStart front = front' at hblanks ⊢
    rw [← hblanks, List.append_assoc, List.drop_left' rfl]
    exact ⟨rest', by simp⟩

lemma ofText_braces (hopen : '{' ∉ front) {inner : List Char} (hinner : Balanced inner)
    (name rest rest' : List Char) (line : Nat) (file : String) :
    ofText name (front ++ '{' :: (inner ++ '}' :: rest)) line file =
      ofText name (front ++ '{' :: (inner ++ '}' :: rest')) line file := by
  obtain ⟨t, ht⟩ := exists_clean_braces front inner rest
  obtain ⟨t', ht'⟩ := exists_clean_braces front inner rest'
  have hopen' : '{' ∉ trimStart front := fun hmem => hopen ((trimStart_suffix front).subset hmem)
  have hparent := parent?_append_cons (by decide) (by decide) (by decide : '{' ≠ '&')
    (trimStart front) (inner ++ '}' :: t) (inner ++ '}' :: t')
  simp only [ofText, ht, ht', hparent, Member.fields, Braces.interior?_eq hopen' hinner]

/-- If the first brace behind the equals sign of a header opens, its declaration is closed exactly if the
search finds the braces of the text from there on, and no header stands below up to the line of that
first brace. The declaration then goes from the opening to the closing one, and nothing behind them has
a say in its record. -/
theorem extent_agrees_with_span {ls : List (List Char)} {start : Nat} {a : Attempt}
    (ha : attempt? ls start = some a)
    (hfirst : Braces.first? (unlines (a.onward ls)) = some '{') :
    (a.extent.text.isSome ↔ (Braces.span? (unlines (a.onward ls))).isSome ∧
      ('{' ∉ a.first → HeadlessToBrace (ls.drop (start + 1)))) ∧
    ∀ text, a.extent.text = some text → ∃ first last, a.Spans ls text first last := by
  obtain ⟨-, -, -, -, rfl, hextent⟩ := exists_of_attempt? ha
  obtain ⟨front, back, hsplit, hopen, hclose⟩ := Braces.exists_of_first? hfirst
  constructor
  · have hspan := isSome_span?_iff hopen hclose back
    rw [← hsplit, Attempt.onward, ← countBraces_flatten, List.flatten_cons,
      countBraces_eq_none_iff] at hspan
    rw [hextent, extent_isSome_iff, Attempt.onward, hspan, and_comm]
  · intro text htext
    have hrecord : ∀ file, a.record? file = some (ofText a.name text (a.start + 1) file) := by
      intro file
      rw [Attempt.record?, htext]
      rfl
    rw [hextent] at htext
    obtain ⟨above, p, q, below, hlines, hused, honward, rfl, hcount⟩ := exists_texts_of_extent htext
    obtain ⟨inner, hupper, hinner⟩ :=
      exists_inner_of_countBraces hopen hclose (hsplit.symm.trans honward) hcount
    have hlast : (unlines (above ++ [p])).length = front.length + 1 + inner.length := by
      rw [hupper, List.length_append, List.length_cons]
      omega
    have hbraces : ∀ rest, unlines (above ++ [p]) ++ '}' :: rest =
        front ++ '{' :: (inner ++ '}' :: rest) := by
      intro rest
      rw [hupper, List.append_assoc, List.cons_append]
    have htake : (unlines (a.onward ls)).take (front.length + 1 + inner.length + 1) =
        front ++ '{' :: (inner ++ ['}']) := by
      rw [Attempt.onward, honward, List.append_cons, List.take_left' (by simp [hlast]), hbraces]
    refine ⟨front.length, front.length + 1 + inner.length, ?_, ⟨above.length, ?_, ?_⟩, ?_,
      fun file => ?_⟩
    · rw [Attempt.onward, honward, hbraces, Braces.span?_eq hopen hinner]
    · rw [Attempt.next, hextent, hused]
      omega
    · exact ⟨above, p, '}', q, below, hlines, rfl, hlast.symm⟩
    · rw [htake, hbraces]
      exact exists_span?_clean hopen hinner q
    · rw [hrecord, htake, hbraces, ofText_braces hopen hinner]

/-- A declaration that goes on behind its header line, with a header behind its closing brace. -/
def trailed : List (List Char) :=
  ["export type Car =".toList, "  Base & \x7b".toList, "seats: \x7b row: number \x7d;".toList,
    "\x7d; export type Van = \x7b \x7d".toList]

theorem extent_agrees_with_span_trailed : ∃ a, attempt? trailed 0 = some a ∧
    Braces.first? (unlines (a.onward trailed)) = some '{' ∧
    a.extent.text.isSome ∧
    ∀ text, a.extent.text = some text → ∃ first last, a.Spans trailed text first last := by
  let car : Attempt := ⟨0, "Car".toList, [], extent [] (trailed.drop 1)⟩
  have hcar : attempt? trailed 0 = some car := by decide +kernel
  have hfirst : Braces.first? (unlines (car.onward trailed)) = some '{' := by decide +kernel
  have hsome : car.extent.text.isSome := by decide +kernel
  exact ⟨car, hcar, hfirst, hsome, (extent_agrees_with_span hcar hfirst).2⟩

end Declaration

end TypeLineage
