import Mathlib.Data.List.Basic
import Mathlib.Tactic.Common
import TypeLineage.Declaration.Scan
import TypeLineage.Proofs.Attempts
import TypeLineage.Proofs.Keyed
import TypeLineage.Proofs.Lines
import TypeLineage.Proofs.Scan

/-!
# Texts one below the other

An attempt is settled by lines on which it comes to its end. Below a part of a text that settles all its
attempts the scan begins anew, so that the two parts can be scanned by themselves.
-/

namespace TypeLineage.Declaration

open Text

/-- The attempt is settled by the lines: the braces are closed on them, or a header stands on one of
them before a brace is opened. -/
def Attempt.IsSettled (ls : List (List Char)) (a : Attempt) : Prop :=
  let rest := ls.drop (a.start + 1)
  Closes 0 false (a.first ++ rest.flatten) ∨
    ∃ above line below, rest = above ++ line :: below ∧ '{' ∉ a.first ++ above.flatten ∧
      Header.occurs line = true

section Settled

variable {ls : List (List Char)} {start index : Nat} {a : Attempt} {as bs : List Attempt}

lemma gather_of_header {above : List (List Char)} {line : List Char} (habove : '{' ∉ above.flatten)
    (hline : Header.occurs line = true) (kept : List (List Char)) (used : Nat) (depth : Int)
    (below more : List (List Char)) :
    gather depth false kept used (above ++ line :: below ++ more) =
      gather depth false kept used (above ++ line :: below) := by
  induction above generalizing depth kept used with
  | nil => simp [gather, hline]
  | cons l above ih =>
    rw [List.flatten_cons, List.mem_append, not_or] at habove
    rw [List.cons_append, List.cons_append, gather, gather]
    cases hcount : countBraces depth false l with
    | none => exact absurd (mem_of_countBraces_eq_none hcount) habove.1
    | some state =>
      obtain ⟨depth', entered'⟩ := state
      obtain rfl := (entered_of_countBraces hcount).mpr ⟨rfl, habove.1⟩
      simp only [ih habove.2]

theorem extent_of_settled (h : a.IsSettled ls) (more : List (List Char)) :
    extent a.first (ls.drop (a.start + 1) ++ more) = extent a.first (ls.drop (a.start + 1)) := by
  by_cases hheadless : '{' ∉ a.first → HeadlessToBrace (ls.drop (a.start + 1))
  · have hcloses : Closes 0 false (a.first ++ (ls.drop (a.start + 1)).flatten) := by
      refine h.resolve_right ?_
      rintro ⟨above, line, below, hrest, hopen, hline⟩
      rw [List.mem_append, not_or] at hopen
      rw [hheadless hopen.1 above line below hrest hopen.2] at hline
      cases hline
    exact extent_append more (extent_isSome_iff.mpr ⟨hheadless, hcloses⟩)
  · obtain ⟨hopen, above, line, below, hrest, habove, hline⟩ :
        '{' ∉ a.first ∧ ∃ above line below, ls.drop (a.start + 1) = above ++ line :: below ∧
          '{' ∉ above.flatten ∧ Header.occurs line = true := by
      simpa [HeadlessToBrace] using hheadless
    rw [hrest, extent, extent]
    cases hcount : countBraces 0 false a.first with
    | none => rfl
    | some state =>
      obtain ⟨depth, entered⟩ := state
      obtain rfl := (entered_of_countBraces hcount).mpr ⟨rfl, hopen⟩
      exact gather_of_header habove hline _ _ _ _ _

lemma attempt?_append_left {more : List (List Char)} (ha : attempt? ls start = some a)
    (h : a.IsSettled ls) : attempt? (ls ++ more) start = some a := by
  obtain ⟨line, -, hline, hheader, rfl, hextent⟩ := exists_of_attempt? ha
  obtain ⟨hlt, -⟩ := List.getElem?_eq_some_iff.mp hline
  rw [attempt?, List.getElem?_append_left hlt, hline, Option.bind_some, hheader, Option.map_some,
    List.drop_append_of_le_length hlt]
  simp only [Nat.succ_eq_add_one, extent_of_settled h more, ← hextent]

theorem Scans.append {more : List (List Char)} (has : Scans ls index as)
    (hsettled : ∀ a ∈ as, a.IsSettled ls) (hindex : index ≤ ls.length)
    (hbs : Scans (ls ++ more) ls.length bs) : Scans (ls ++ more) index (as ++ bs) := by
  induction has with
  | done hle =>
    obtain rfl := Nat.le_antisymm hindex hle
    exact hbs
  | @pass index as hlt hnone _ ih =>
    have hnone' : attempt? (ls ++ more) index = none := by
      rw [attempt?, Option.bind_eq_none_iff] at hnone ⊢
      intro line hline
      rw [List.getElem?_append_left hlt] at hline
      rw [Option.map_eq_none_iff]
      exact Option.map_eq_none_iff.mp (hnone line hline)
    exact .pass (by rw [List.length_append]; omega) hnone' (ih hsettled hlt)
  | @attempt index a as ha _ ih =>
    rw [List.forall_mem_cons] at hsettled
    have hnext := next_of_attempt? ha
    exact .attempt (attempt?_append_left ha hsettled.1) (ih hsettled.2 hnext.2)

theorem Scans.findingsFrom_append (has : Scans ls 0 as) (hsettled : ∀ a ∈ as, a.IsSettled ls)
    (file : String) (more : List (List Char)) :
    findingsFrom file 1 0 (ls ++ more) =
      findingsFrom file 1 0 ls ++ findingsFrom file (1 + ls.length) 0 more := by
  obtain ⟨bs, hbs⟩ := exists_scans (ls ++ more) ls.length
  have hwhole := has.append hsettled (Nat.zero_le _) hbs
  have hbelow := hbs.findingsFrom_eq file
  rw [List.drop_left' rfl, Nat.add_comm] at hbelow
  rw [hwhole.findings_eq, has.findings_eq, hbelow, List.map_append]

lemma isSettled_of_isDeclared {file : String} (ha : attempt? ls start = some a)
    (h : (a.finding file).IsDeclared) : a.IsSettled ls := by
  obtain ⟨-, -, -, -, rfl, hextent⟩ := exists_of_attempt? ha
  have hsome : a.extent.text.isSome := by
    unfold Attempt.finding Attempt.record? at h
    cases htext : a.extent.text with
    | none =>
      rw [htext] at h
      cases h
    | some text => rfl
  rw [hextent] at hsome
  exact .inl (extent_isSome_iff.mp hsome).2

/-- A part in which all declarations are found is scanned for itself. -/
theorem findingsFrom_append {file : String} (more : List (List Char))
    (hall : ∀ f ∈ findingsFrom file 1 0 ls, f.IsDeclared) :
    findingsFrom file 1 0 (ls ++ more) =
      findingsFrom file 1 0 ls ++ findingsFrom file (1 + ls.length) 0 more := by
  obtain ⟨as, has⟩ := exists_scans ls 0
  rw [has.findings_eq, List.forall_mem_map] at hall
  exact has.findingsFrom_append
    (fun a ha => isSettled_of_isDeclared (has.attempt?_of_mem a ha).2 (hall a ha)) file more

end Settled

/-- Below a text that settles all its attempts the scan begins anew. The declarations of any text that
follows are written into the table of the first one, with their lines further down. -/
theorem parse_joined {upper : List Char} {attempts : List Attempt}
    (hscan : Scans (lines upper) 0 attempts) (hsettled : ∀ a ∈ attempts, a.IsSettled (lines upper))
    (lower : List Char) (file : String) :
    parse (upper ++ '\n' :: lower) file =
      Keyed.update Declaration.name (parse upper file)
        ((parse lower file).map (movedDown (lines upper).length)) := by
  let moved := movedDown (lines upper).length
  let found (text : List Char) : List Declaration := (findings text file).filterMap Finding.declared?
  have hfound : found (upper ++ '\n' :: lower) = found upper ++ (found lower).map moved := by
    simp only [found, findings, lines_append, hscan.findingsFrom_append hsettled, findingsFrom_add,
      List.filterMap_append, List.filterMap_map, Function.comp_def, Finding.declared?_movedDown,
      List.map_filterMap, moved]
  have hname : ∀ d : Declaration, (moved d).name = d.name := fun _ => rfl
  have hmap : table ((found lower).map moved) = (parse lower file).map moved :=
    Keyed.ofList_map hname (found lower)
  calc parse (upper ++ '\n' :: lower) file
      = table (found upper ++ (found lower).map moved) := by rw [← hfound]; rfl
    _ = table (found upper ++ table ((found lower).map moved)) :=
        (Keyed.ofList_append_ofList _ _ _).symm
    _ = Keyed.update Declaration.name (parse upper file) ((parse lower file).map moved) := by
        rw [hmap]
        exact Keyed.ofList_append _ _ _

/-- An alias that the next header overtakes, and a closed declaration. -/
def garage : List Char :=
  unlines ["export type Id = string;".toList, "export type Car = \x7b".toList,
    "seats: number;".toList, "\x7d;".toList]

/-- A second declaration of the same name. -/
def repainted : List Char :=
  unlines ["export type Car = Id & \x7b color: string; \x7d;".toList, "export type Van =".toList]

theorem parse_joined_garage : ∃ attempts, Scans (lines garage) 0 attempts ∧
    (∀ a ∈ attempts, a.IsSettled (lines garage)) ∧
    parse (garage ++ '\n' :: repainted) "" =
      Keyed.update Declaration.name (parse garage "") ((parse repainted "").map (movedDown 4)) := by
  let ident : Attempt := ⟨0, "Id".toList, " string;".toList, ⟨none, 1⟩⟩
  let car : Attempt :=
    ⟨1, "Car".toList, " \x7b".toList, ⟨some " \x7b\nseats: number;\n\x7d;".toList, 3⟩⟩
  have hident : attempt? (lines garage) 0 = some ident := by decide +kernel
  have hcar : attempt? (lines garage) ident.next = some car := by decide +kernel
  have hend : (lines garage).length ≤ car.next := by decide +kernel
  have hscan : Scans (lines garage) 0 [ident, car] := .attempt hident (.attempt hcar (.done hend))
  have hovertaken : ident.IsSettled (lines garage) :=
    .inr ⟨[], "export type Car = \x7b".toList, ["seats: number;".toList, "\x7d;".toList],
      by decide +kernel, by decide +kernel, by decide +kernel⟩
  have hclosed : car.IsSettled (lines garage) :=
    .inl (countBraces_eq_none_iff.mp (by decide +kernel))
  have hsettled : ∀ a ∈ [ident, car], a.IsSettled (lines garage) :=
    List.forall_mem_cons.mpr ⟨hovertaken, List.forall_mem_singleton.mpr hclosed⟩
  exact ⟨[ident, car], hscan, hsettled, parse_joined hscan hsettled repainted ""⟩

end TypeLineage.Declaration
