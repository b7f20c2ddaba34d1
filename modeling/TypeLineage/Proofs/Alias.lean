import Mathlib.Data.List.Basic
import Mathlib.Tactic.Common
import TypeLineage.Declaration.Scan
import TypeLineage.Proofs.Composition
import TypeLineage.Proofs.Header
import TypeLineage.Proofs.Keyed
import TypeLineage.Proofs.Scan

/-!
# Aliases without braces

An alias of a type that has no braces is dropped, unless braces that follow it are taken for its body.
This happens exactly if some brace is opened below the alias before the next header, and the braces
are closed again further down.
-/

namespace TypeLineage.Declaration

open Text

/-- The declarations of a text, one for each header whose braces close. -/
def accepted (text : List Char) (file : String) : List Declaration :=
  (findings text file).filterMap Finding.declared?

/-- An alias whose right side has no braces. -/
structure Alias where
  name : Word
  value : List Char
  open_not_mem : '{' ∉ value
  close_not_mem : '}' ∉ value
  newline_not_mem : '\n' ∉ value

/-- The braces below an alias are taken for its body. -/
structure Swallows (below : List (List Char)) : Prop where
  headless : HeadlessToBrace below
  closes : Closes 0 false below.flatten

namespace Alias

/-- The line of an alias behind its equals sign. -/
def opening (a : Alias) : List Char :=
  ' ' :: (a.value ++ [';'])

def line (a : Alias) : List Char :=
  Header.text a.name ++ a.opening

variable (a : Alias) {ls : List (List Char)}

lemma newline_not_mem_line : '\n' ∉ a.line := by
  have hname : '\n' ∉ a.name.chars := a.name.not_mem (by decide)
  have htext : '\n' ∉ Header.text a.name := by
    unfold Header.text
    simp [hname]
  simp [line, opening, htext, a.newline_not_mem]

lemma find?_line : Header.find? a.line = some (a.name.chars, a.opening) := by
  have hnothing : ¬ "export".toList <:+: [] := by decide
  exact Header.find?_text hnothing a.name a.opening

theorem extent_isSome_iff : (extent a.opening ls).text.isSome ↔ Swallows ls := by
  have hopen : '{' ∉ a.opening := by simp [opening, a.open_not_mem]
  have hclose : '}' ∉ a.opening := by simp [opening, a.close_not_mem]
  rw [Declaration.extent_isSome_iff, ← countBraces_eq_none_iff, countBraces_append,
    countBraces_braceless hopen hclose, Option.bind_some, countBraces_eq_none_iff]
  exact ⟨fun h => ⟨h.1 hopen, h.2⟩, fun h => ⟨fun _ => h.headless, h.closes⟩⟩

lemma findings_of_not_swallows (h : ¬ Swallows ls) (file : String) (number : Nat) :
    (findingsFrom file number 0 (a.line :: ls)).filterMap Finding.declared? =
      (findingsFrom file (number + 1) 0 ls).filterMap Finding.declared? := by
  have hnone : (extent a.opening ls).text = none := by
    rw [← a.extent_isSome_iff] at h
    simpa using h
  rw [findingsFrom_of_unclosed a.find?_line hnone]
  rfl

lemma findings_of_swallows (h : Swallows ls) (file : String) (number : Nat) :
    ∃ (d : Declaration) (rest : List Declaration),
      (findingsFrom file number 0 (a.line :: ls)).filterMap Finding.declared? = d :: rest ∧
      d.name = String.ofList a.name.chars ∧ d.line = number ∧ ∀ r ∈ rest, d.line < r.line := by
  obtain ⟨text, htext⟩ := Option.isSome_iff_exists.mp (a.extent_isSome_iff.mpr h)
  obtain ⟨taken, -, -, -, hused, -⟩ := exists_taken_of_extent htext
  have hextent : extent a.opening ls = ⟨some text, taken.length + 1⟩ := by
    rw [← htext, ← hused]
  rw [findingsFrom_of_closed a.find?_line hextent]
  refine ⟨_, _, rfl, rfl, rfl, fun r hr => ?_⟩
  have hrange := line_of_mem_findingsFrom (mem_filterMap_declared?.mp hr)
  simp only [ofText]
  omega

end Alias

section Joined

variable {above l below : List Char} {file : String}

lemma lines_joined (hl : '\n' ∉ l) :
    lines (unlines [above, l, below]) = lines above ++ l :: lines below := by
  have hline : lines (unlines [l]) = [l] :=
    lines_unlines (List.cons_ne_nil _ _) (by simpa using hl)
  rw [unlines, List.intercalate_singleton] at hline
  have htext : unlines [above, l, below] = above ++ '\n' :: (l ++ '\n' :: below) := by
    simp [unlines, List.intercalate_cons_cons]
  rw [htext, lines_append, lines_append, hline, List.singleton_append]

lemma accepted_joined (habove : ∀ f ∈ findings above file, f.IsDeclared) (hl : '\n' ∉ l) :
    accepted (unlines [above, l, below]) file = accepted above file ++
      (findingsFrom file ((lines above).length + 1) 0 (l :: lines below)).filterMap
        Finding.declared? := by
  rw [accepted, findings, lines_joined hl, findingsFrom_append _ habove,
    List.filterMap_append, Nat.add_comm 1]
  rfl

lemma line_ne_of_mem_blank (habove : ∀ f ∈ findings above file, f.IsDeclared) {d : Declaration}
    (hd : d ∈ accepted (unlines [above, [], below]) file) : d.line ≠ (lines above).length + 1 := by
  have hblank : Header.occurs [] = false := rfl
  rw [accepted_joined habove List.not_mem_nil, findingsFrom_of_headless hblank,
    List.mem_append] at hd
  rcases hd with hd | hd
  · have hrange := line_of_mem_findingsFrom (mem_filterMap_declared?.mp hd)
    omega
  · have hrange := line_of_mem_findingsFrom (mem_filterMap_declared?.mp hd)
    omega

end Joined

section Effect

variable (a : Alias) {above below : List Char} {file : String}
  (habove : ∀ f ∈ findings above file, f.IsDeclared)

include habove

lemma accepted_of_not_swallows (h : ¬ Swallows (lines below)) :
    accepted (unlines [above, a.line, below]) file =
      accepted (unlines [above, [], below]) file := by
  have hblank : Header.occurs [] = false := rfl
  rw [accepted_joined habove a.newline_not_mem_line, accepted_joined habove List.not_mem_nil,
    a.findings_of_not_swallows h, findingsFrom_of_headless hblank]

lemma accepted_of_swallows (h : Swallows (lines below)) :
    ∃ (d : Declaration) (rest : List Declaration),
      accepted (unlines [above, a.line, below]) file = accepted above file ++ d :: rest ∧
      d.name = String.ofList a.name.chars ∧ d.line = (lines above).length + 1 ∧
      (∀ r ∈ accepted above file, r.line < d.line) ∧ ∀ r ∈ rest, d.line < r.line := by
  obtain ⟨d, rest, heq, hname, hline, hrest⟩ :=
    a.findings_of_swallows h file ((lines above).length + 1)
  push_cast at hline
  refine ⟨d, rest, ?_, hname, hline, fun r hr => ?_, hrest⟩
  · rw [accepted_joined habove a.newline_not_mem_line, heq]
  · have hrange := line_of_mem_findingsFrom (mem_filterMap_declared?.mp hr)
    omega

theorem mem_parse_alias_iff (h : Swallows (lines below)) :
    (∃ d ∈ parse (unlines [above, a.line, below]) file,
        d.name = String.ofList a.name.chars ∧ d.line = (lines above).length + 1) ↔
      ∀ later ∈ accepted (unlines [above, a.line, below]) file,
        (lines above).length + 1 < later.line → later.name ≠ String.ofList a.name.chars := by
  obtain ⟨d, rest, heq, hname, hline, hbefore, hafter⟩ := accepted_of_swallows a habove h
  rw [parse, ← accepted, table, heq]
  constructor
  · rintro ⟨e, he, hename, heline⟩ later hlater hlt hlname
    have hrest : later ∈ rest := by
      rcases List.mem_append.mp hlater with hmem | hmem
      · have hless := hbefore later hmem
        omega
      · rcases List.mem_cons.mp hmem with rfl | hmem
        · omega
        · exact hmem
    -- The table holds some declaration of this name from further down, and no second one.
    obtain ⟨z, hz, hzrest, hzname⟩ :=
      Keyed.exists_mem_ofList Declaration.name (accepted above file ++ [d]) hrest
    rw [List.append_assoc, List.singleton_append] at hz
    have hsame : z = e := by
      apply Keyed.eq_of_mem_ofList hz he
      rw [hzname, hlname, hename]
    have hless := hafter z hzrest
    rw [hsame] at hless
    omega
  · intro hlater
    refine ⟨d, Keyed.mem_ofList_of_last _ d fun y hy => ?_, hname, hline⟩
    have hlt := hafter y hy
    rw [hname]
    exact hlater y (by simp [hy]) (by omega)

end Effect

/-- An alias in place of an empty line leaves the declarations around it as they are, unless braces
below it are taken for its body. Then a declaration with the name of the alias is added on its line,
and the table holds it exactly if no later declaration has that name. -/
theorem alias_effect (a : Alias) (above below : List Char) (file : String)
    (habove : ∀ f ∈ findings above file, f.IsDeclared) :
    (accepted (unlines [above, a.line, below]) file = accepted (unlines [above, [], below]) file ↔
      ¬ Swallows (lines below)) ∧
    (¬ Swallows (lines below) →
      parse (unlines [above, a.line, below]) file = parse (unlines [above, [], below]) file) ∧
    ((∃ d ∈ parse (unlines [above, a.line, below]) file,
        d.name = String.ofList a.name.chars ∧ d.line = (lines above).length + 1) ↔
      Swallows (lines below) ∧ ∀ later ∈ accepted (unlines [above, a.line, below]) file,
        (lines above).length + 1 < later.line → later.name ≠ String.ofList a.name.chars) ∧
    ∀ d ∈ parse (unlines [above, [], below]) file, d.line ≠ (lines above).length + 1 := by
  have hblank : ∀ d ∈ accepted (unlines [above, [], below]) file,
      d.line ≠ (lines above).length + 1 := fun d hd => line_ne_of_mem_blank habove hd
  refine ⟨⟨fun heq hswallows => ?_, accepted_of_not_swallows a habove⟩, fun h => ?_, ⟨?_, ?_⟩,
    fun d hd => hblank d (Keyed.mem_of_mem_ofList hd)⟩
  · obtain ⟨d, rest, hwith, -, hline, -⟩ := accepted_of_swallows a habove hswallows
    have hd : d ∈ accepted (unlines [above, [], below]) file := by
      rw [← heq, hwith]
      simp
    exact hblank d hd hline
  · rw [parse, parse, ← accepted, ← accepted, accepted_of_not_swallows a habove h]
  · intro hmem
    by_cases hswallows : Swallows (lines below)
    · exact ⟨hswallows, (mem_parse_alias_iff a habove hswallows).mp hmem⟩
    · obtain ⟨d, hd, -, hline⟩ := hmem
      rw [parse, ← accepted, accepted_of_not_swallows a habove hswallows] at hd
      exact absurd hline (hblank d (Keyed.mem_of_mem_ofList hd))
  · rintro ⟨hswallows, hlater⟩
    exact (mem_parse_alias_iff a habove hswallows).mpr hlater

/-- The alias `export type Alias = string;`. -/
def plainAlias : Alias where
  name := ⟨"Alias".toList, by decide, List.all_eq_true.mp (by decide)⟩
  value := "string".toList
  open_not_mem := by decide
  close_not_mem := by decide
  newline_not_mem := by decide

/-- A block that is no declaration, with a declaration inside. -/
def moduleBlock : List (List Char) :=
  ["declare module m \x7b".toList, "export type Next = \x7b".toList, "n: number;".toList,
    "\x7d;".toList, "\x7d".toList]

theorem alias_effect_module :
    Swallows (lines (unlines moduleBlock)) ∧
      parse (unlines [[], plainAlias.line, unlines moduleBlock]) "" ≠
        parse (unlines [[], [], unlines moduleBlock]) "" := by
  have habove : ∀ f ∈ findings [] "", f.IsDeclared := by
    intro f hf
    exact absurd hf List.not_mem_nil
  have hlines : lines (unlines moduleBlock) = moduleBlock := by decide +kernel
  have hswallows : Swallows (lines (unlines moduleBlock)) := by
    rw [hlines]
    constructor
    · rw [moduleBlock, headlessToBrace_cons_iff]
      exact ⟨by decide +kernel, fun h => absurd (by decide) h⟩
    · rw [← countBraces_eq_none_iff]
      decide +kernel
  have hlater : ∀ later ∈ accepted (unlines [[], plainAlias.line, unlines moduleBlock]) "",
      (lines []).length + 1 < later.line → later.name ≠ String.ofList plainAlias.name.chars := by
    decide +kernel
  obtain ⟨-, -, hmem, hblank⟩ := alias_effect plainAlias [] (unlines moduleBlock) "" habove
  refine ⟨hswallows, fun heq => ?_⟩
  obtain ⟨d, hd, -, hline⟩ := hmem.mpr ⟨hswallows, hlater⟩
  rw [heq] at hd
  exact hblank d hd hline

end TypeLineage.Declaration
