import Mathlib.Data.List.Basic
import Mathlib.Data.List.Infix
import Mathlib.Tactic.Common
import TypeLineage.Declaration.Scan
import TypeLineage.Proofs.Extent
import TypeLineage.Proofs.Keyed
import TypeLineage.Proofs.Lines
import TypeLineage.Proofs.Scan

/-!
# Declarations that are not closed

A declaration that opens a brace and never closes it is dropped, and the text below it is read as if it
stood alone.
-/

namespace TypeLineage.Declaration

open Text

variable {s t : List Char} {depth : Int} {entered : Bool}

/-- No prefix has more closing than opening braces. -/
def OpensFirst (s : List Char) : Prop :=
  ∀ p, p <+: s → p.count '}' ≤ p.count '{'

instance (s : List Char) : Decidable (OpensFirst s) :=
  decidable_of_iff (∀ p ∈ s.inits, p.count '}' ≤ p.count '{') (by simp [OpensFirst])

lemma OpensFirst.append (hs : OpensFirst s) (ht : OpensFirst t) : OpensFirst (s ++ t) := by
  intro p hp
  rcases List.prefix_or_prefix_of_prefix hp (List.prefix_append s t) with hps | ⟨q, rfl⟩
  · exact hs p hps
  · have hfront := hs s List.prefix_rfl
    have hback := ht q ((List.prefix_append_right_inj s).mp hp)
    rw [List.count_append, List.count_append]
    omega

lemma OpensFirst.newline_cons (hs : OpensFirst s) : OpensFirst ('\n' :: s) := by
  have hnewline : OpensFirst ['\n'] := by decide
  exact hnewline.append hs

lemma countBraces_ne_none (hs : OpensFirst s) : countBraces 1 true s ≠ none := by
  rw [ne_eq, countBraces_eq_none_iff]
  rintro ⟨inside, hp, -, hcount⟩
  have hless := hs _ hp
  rw [List.count_append, List.count_append, List.count_singleton_self,
    List.count_singleton] at hless
  simp at hless
  omega

/-- The first brace of the text opens, and it is not closed. -/
def StaysOpen (s : List Char) : Prop :=
  ∃ front back, s = front ++ '{' :: back ∧ '{' ∉ front ∧ '}' ∉ front ∧ OpensFirst back

lemma StaysOpen.append (hs : StaysOpen s) (ht : OpensFirst t) : StaysOpen (s ++ t) := by
  obtain ⟨front, back, rfl, hopen, hclose, hback⟩ := hs
  exact ⟨front, back ++ t, by simp, hopen, hclose, hback.append ht⟩

lemma StaysOpen.countBraces_ne_none (hs : StaysOpen s) : countBraces 0 false s ≠ none := by
  obtain ⟨front, back, rfl, hopen, hclose, hback⟩ := hs
  rw [countBraces_front hopen hclose]
  exact Declaration.countBraces_ne_none hback

/-- A header line with lines below it that have no header, where a brace stays open. -/
structure Unclosed where
  line : List Char
  below : List (List Char)
  name : List Char
  first : List Char
  header : Header.find? line = some (name, first)
  headless : ∀ l ∈ below, Header.occurs l = false
  newline_not_mem : ∀ l ∈ line :: below, '\n' ∉ l
  staysOpen : StaysOpen (unlines (first :: below))

namespace Unclosed

variable (u : Unclosed) {lower : List Char}

def text : List Char :=
  unlines (u.line :: u.below)

lemma lines_text : lines u.text = u.line :: u.below :=
  lines_unlines (List.cons_ne_nil _ _) u.newline_not_mem

lemma extent_eq_none (hlower : OpensFirst lower) :
    (extent u.first (u.below ++ lines lower)).text = none := by
  have hopen : StaysOpen (unlines (u.first :: (u.below ++ lines lower))) := by
    rw [← List.cons_append, unlines_append (List.cons_ne_nil _ _) (lines_ne_nil lower),
      unlines_lines]
    exact u.staysOpen.append hlower.newline_cons
  by_contra hne
  exact hopen.countBraces_ne_none
    (countBraces_of_extent (Option.isSome_iff_ne_none.mpr hne))

lemma findings_append (hlower : OpensFirst lower) (file : String) :
    findings (u.text ++ '\n' :: lower) file =
      .unterminated (String.ofList u.name) 1 ::
        (findings lower file).map (Finding.movedDown (lines u.text).length) := by
  have hnumber : 1 + 1 + u.below.length = 1 + (u.line :: u.below).length := by
    rw [List.length_cons]
    omega
  rw [findings, lines_append, u.lines_text, List.cons_append,
    findingsFrom_of_unclosed u.header (u.extent_eq_none hlower),
    findingsFrom_headless_append u.headless, hnumber, findingsFrom_add, findings]

end Unclosed

/-- A declaration that is not closed changes nothing about the declarations of a text below it but
their lines, if that text closes no brace that it has not opened. -/
theorem parse_below_unclosed (u : Unclosed) (lower : List Char) (file : String)
    (hlower : OpensFirst lower) :
    parse (u.text ++ '\n' :: lower) file =
      (parse lower file).map (movedDown (lines u.text).length) := by
  generalize hcount : (lines u.text).length = count
  have hfindings := u.findings_append hlower file
  rw [hcount] at hfindings
  have hdeclared : Finding.declared? ∘ Finding.movedDown count =
      fun f => f.declared?.map (movedDown count) := by
    funext f
    cases f <;> rfl
  have hname : ∀ d : Declaration, (d.movedDown count).name = d.name := fun _ => rfl
  rw [parse, hfindings, List.filterMap_cons_none rfl, List.filterMap_map, hdeclared,
    ← List.map_filterMap, parse, table, table, Keyed.ofList_map hname]

/-- A declaration whose brace is opened below its header, with a brace in front of the header. -/
def leftOpen : Unclosed where
  line := "/* \x7d */ export type A =".toList
  below := ["  B & \x7b".toList, "    b: \x7b \x7d;".toList]
  name := "A".toList
  first := []
  header := by decide +kernel
  headless := by decide +kernel
  newline_not_mem := by decide +kernel
  staysOpen := ⟨"\n  B & ".toList, "\n    b: \x7b \x7d;".toList, by decide +kernel,
    by decide +kernel, by decide +kernel, by decide +kernel⟩

/-- A declaration that is not closed either, in front of one that is. -/
def alsoOpen : List Char :=
  "export type C = \x7b\nexport type D = \x7b d: e \x7d;".toList

theorem parse_below_unclosed_leftOpen :
    OpensFirst alsoOpen ∧ parse (leftOpen.text ++ '\n' :: alsoOpen) "" =
      [⟨"D", none, [⟨"d", "e", false, .plain⟩], 5, ""⟩] := by
  have hlower : OpensFirst alsoOpen := by decide +kernel
  refine ⟨hlower, ?_⟩
  rw [parse_below_unclosed leftOpen alsoOpen "" hlower]
  decide +kernel

end TypeLineage.Declaration
