import Mathlib.Data.List.Basic
import Mathlib.Tactic.Common
import TypeLineage.Declaration.Scan
import TypeLineage.Proofs.Definition
import TypeLineage.Proofs.Header
import TypeLineage.Proofs.Members
import TypeLineage.Proofs.Scan

/-!
# Reading rendered declarations

A rendered declaration is a header line, a line for each member and a line that begins with the
closing brace. Other text may stand in front of the header, behind the closing brace and on lines
between declarations. Whatever is rendered in this way is read back.
-/

namespace TypeLineage.Declaration

open Text Member

/-- A line without a header. -/
structure Gap where
  chars : List Char
  headless : Header.occurs chars = false
  newline_not_mem : '\n' ∉ chars

/-- A declaration with the text around it. -/
structure Block where
  gaps : List Gap
  before : List Char
  name : Word
  parent : Option Word
  body : List BodyLine
  trailing : List Char
  before_newline : '\n' ∉ before
  before_export : ¬ "export".toList <:+: before
  trailing_newline : '\n' ∉ trailing

namespace Block

/-- What stands in front of the opening brace. -/
def front (b : Block) : List Char :=
  match b.parent with
  | none => []
  | some parent => parent.chars ++ [' ', '&', ' ']

/-- The header line behind its equals sign. -/
def opening (b : Block) : List Char :=
  ' ' :: (b.front ++ ['{'])

def headerLine (b : Block) : List Char :=
  b.before ++ (Header.text b.name ++ b.opening)

/-- The lines of the members and of the closing brace. -/
def bodyLines (b : Block) : List (List Char) :=
  b.body.map BodyLine.text ++ ['}' :: b.trailing]

def lines (b : Block) : List (List Char) :=
  b.gaps.map Gap.chars ++ b.headerLine :: b.bodyLines

/-- The record of a declaration whose header is on a line. -/
def record (file : String) (b : Block) (line : Nat) : Declaration where
  name := String.ofList b.name.chars
  parent := b.parent.map fun parent => String.ofList parent.chars
  fields := Keyed.ofList Field.name ((members b.body).map Written.field)
  line := line
  file := file

end Block

/-- The text of declarations and further lines. -/
def render (blocks : List Block) (gaps : List Gap) : List Char :=
  unlines (blocks.flatMap Block.lines ++ gaps.map Gap.chars)

lemma exists_clean_eq {s : List Char} (hs : ∀ c ∈ (s ++ ['}']).head?, isBlank c = false)
    (rest : List Char) : ∃ rest', clean (' ' :: (s ++ '}' :: rest)) = s ++ '}' :: rest' := by
  have hstart : trimStart (' ' :: s) = s := by
    rw [trimStart_space]
    apply trimStart_eq_self
    intro c hc
    apply hs c
    rw [List.head?_append, Option.mem_def.mp hc]
    rfl
  have hclean := exists_clean_append_cons (by decide) (by decide : '}' ≠ ';') (' ' :: s) rest
  rwa [hstart, List.cons_append] at hclean

namespace Block

variable (b : Block)

lemma not_mem_front {c : Char} (hword : isWord c = false) (hc : c ∉ [' ', '&']) :
    c ∉ b.front := by
  simp only [List.mem_cons, List.not_mem_nil, or_false, not_or] at hc
  rw [front]
  cases b.parent with
  | none => exact List.not_mem_nil
  | some parent => simp [parent.not_mem hword, hc]

lemma front_head (rest : List Char) : ∀ c ∈ (b.front ++ '{' :: rest).head?, isBlank c = false := by
  intro c hc
  rw [front] at hc
  cases hparent : b.parent with
  | none =>
    obtain rfl : '{' = c := by simpa [hparent] using hc
    decide
  | some parent =>
    rw [hparent] at hc
    simp only [List.append_assoc] at hc
    rw [List.head?_append_of_ne_nil _ parent.ne_nil] at hc
    exact parent.trimmed.head c hc

lemma parent?_front (rest : List Char) :
    parent? (b.front ++ '{' :: rest) = b.parent.map Word.chars := by
  rw [front]
  cases hparent : b.parent with
  | none => rfl
  | some parent =>
    have hspace : ∀ c ∈ ([' ', '&', ' '] ++ '{' :: rest).head?, isWord c = false := by
      intro c hc
      obtain rfl : ' ' = c := by simpa using hc
      decide
    have htrim : trimStart ([' ', '&', ' '] ++ '{' :: rest) = ['&', ' '] ++ '{' :: rest := by
      rw [List.cons_append, trimStart_space]
      rfl
    obtain ⟨c, cs, hchars⟩ := List.exists_cons_of_ne_nil parent.ne_nil
    simp only [parent?, List.append_assoc]
    rw [parent.takeWhile_append hspace, parent.dropWhile_append hspace, htrim, hchars]
    simp [hchars]

/-- The text that the scan takes in. -/
def definition : List Char :=
  unlines (b.opening :: b.bodyLines)

section Lines

variable {ls : List (List Char)}

lemma unlines_opening (ls : List (List Char)) :
    unlines (b.opening :: (ls ++ ['}' :: b.trailing])) =
      ' ' :: (b.front ++ '{' :: (unlines ([] :: (ls ++ [[]])) ++ '}' :: b.trailing)) := by
  rw [← List.append_nil b.opening, unlines_append_left, ← List.cons_append,
    ← List.nil_append ('}' :: b.trailing), unlines_append_right, List.cons_append]
  simp [opening]

theorem ofText_span {inner : List Char} (hinner : Balanced inner) (rest : List Char) (file : String)
    (line : Nat) :
    ofText b.name.chars (' ' :: (b.front ++ '{' :: (inner ++ '}' :: rest))) line file =
      { name := String.ofList b.name.chars
        parent := b.parent.map fun parent => String.ofList parent.chars
        fields := Keyed.ofList Field.name ((candidates inner).filterMap field?)
        line := line
        file := file } := by
  have hhead : ∀ c ∈ (b.front ++ '{' :: inner ++ ['}']).head?, isBlank c = false := by
    rw [List.append_assoc, List.cons_append]
    exact b.front_head _
  obtain ⟨rest', hclean⟩ := exists_clean_eq hhead rest
  rw [List.append_assoc, List.append_assoc, List.cons_append, List.cons_append] at hclean
  have hopen : '{' ∉ b.front := b.not_mem_front (by decide) (by decide)
  rw [ofText, hclean, b.parent?_front, Member.fields, Braces.interior?_eq hopen hinner,
    Option.map_map]
  rfl

theorem ofText_lines (hls : ∀ l ∈ ls, Balanced l) (file : String) (line : Nat) :
    ofText b.name.chars (unlines (b.opening :: (ls ++ ['}' :: b.trailing]))) line file =
      { name := String.ofList b.name.chars
        parent := b.parent.map fun parent => String.ofList parent.chars
        fields := Keyed.ofList Field.name
          ((candidates (unlines ([] :: (ls ++ [[]])))).filterMap field?)
        line := line
        file := file } := by
  have hbalanced : Balanced (unlines ([] :: (ls ++ [[]]))) := by
    refine .unlines trivial fun l hl => ?_
    simp only [List.mem_cons, List.mem_append, List.not_mem_nil, or_false] at hl
    rcases hl with rfl | hl | rfl
    · exact .nil
    · exact hls l hl
    · exact .nil
  rw [unlines_opening, b.ofText_span hbalanced]

lemma countBraces_opening : countBraces 0 false b.opening = some (1, true) := by
  have hopen : '{' ∉ b.front := b.not_mem_front (by decide) (by decide)
  have hclose : '}' ∉ b.front := b.not_mem_front (by decide) (by decide)
  rw [opening, ← List.cons_append, countBraces_front (by simp [hopen]) (by simp [hclose])]
  rfl

theorem extent_lines (hls : ∀ l ∈ ls, Balanced l) (more : List (List Char)) :
    extent b.opening (ls ++ ['}' :: b.trailing] ++ more) =
      ⟨some (unlines (b.opening :: (ls ++ ['}' :: b.trailing]))),
        (ls ++ ['}' :: b.trailing]).length + 1⟩ := by
  have hclose : countBraces 1 true ('}' :: b.trailing) = none := by
    rw [countBraces, if_neg (by decide), if_pos rfl]
    rfl
  rw [extent, countBraces_opening]
  simp only [List.append_assoc]
  rw [gather_balanced hls Int.one_pos, List.singleton_append, gather, hclose]
  simp [Nat.add_comm]

end Lines

end Block

/-- A declaration behind a comment with a brace, with a parent and a member whose type has braces. -/
def nestedBlock : Block where
  gaps := []
  before := "/* \x7b */ ".toList
  name := ⟨"Car".toList, by decide, List.all_eq_true.mp (by decide)⟩
  parent := some ⟨"Base".toList, by decide, List.all_eq_true.mp (by decide)⟩
  body := [.member
    { indent := "  ".toList
      name := ⟨"seats".toList, by decide, List.all_eq_true.mp (by decide)⟩
      content := .plain true
        { chars := ['{'] ++ (" row: number; ".toList ++ ['}'])
          ne_nil := by decide
          trimmed := by
            have hopen : Trimmed ['{'] := .singleton (by decide)
            have hclose : Trimmed ['}'] := .singleton (by decide)
            exact hopen.around hclose (by decide) (by decide) _
          nested := by
            have hrow : Balanced " row: number; ".toList :=
              .of_braceless (by decide) (by decide) fun _ _ => trivial
            exact .braces hrow .nil
          newline_not_mem := by decide
          unmarked := by decide }
      indent_blank := List.all_eq_true.mp (by decide)
      indent_newline := by decide
      unmarked := by decide }]
  trailing := ";".toList
  before_newline := by decide
  before_export := by decide
  trailing_newline := by decide

example : render [nestedBlock] [] =
    "/* \x7b */ export type Car = Base & \x7b\n  seats?: \x7b row: number; \x7d;\n\x7d;".toList := by
  decide +kernel

end TypeLineage.Declaration
