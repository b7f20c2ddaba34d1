import Mathlib.Data.List.Basic
import Mathlib.Tactic.Common
import TypeLineage.Declaration.Member
import TypeLineage.Proofs.Candidates

/-!
# Written members

The members of an object type as they are written one to a line, and what is read back from such
lines: the body is cut into the candidates that were written, and each gives its field.
-/

namespace TypeLineage.Member

open Text

/-- The text of a plain type: one line in which every brace is paired, without a semicolon outside of
braces and without the marker of subtypes. -/
structure TypeText where
  chars : List Char
  ne_nil : chars ≠ []
  trimmed : Trimmed chars
  nested : Nested (· ≠ ';') chars
  newline_not_mem : '\n' ∉ chars
  unmarked : ¬ slotMarker <:+: chars

/-- What is written behind the name of a member. -/
inductive Content where
  | plain (optional : Bool) (type : TypeText)
  | slot (subtype : Word)

structure Written where
  indent : List Char
  name : Word
  content : Content
  indent_blank : ∀ c ∈ indent, isBlank c = true
  indent_newline : '\n' ∉ indent
  unmarked : ¬ slotMarker <:+: name.chars

namespace Content

def text : Content → List Char
  | plain true type => '?' :: ':' :: ' ' :: type.chars
  | plain false type => ':' :: ' ' :: type.chars
  | slot subtype => ':' :: ' ' :: (slotMarker ++ '<' :: (subtype.chars ++ ['>']))

def field (name : Word) : Content → Field
  | plain optional type => ⟨String.ofList name.chars, String.ofList type.chars, optional, .plain⟩
  | slot subtype =>
    ⟨String.ofList name.chars, String.ofList (slotMarker ++ '<' :: subtype.chars ++ ['>']), false,
      .slot⟩

end Content

namespace Written

/-- The member without indentation and final semicolon. -/
def candidate (m : Written) : List Char :=
  m.name.chars ++ m.content.text

def line (m : Written) : List Char :=
  m.indent ++ (m.candidate ++ [';'])

def field (m : Written) : Field :=
  m.content.field m.name

end Written

lemma slotMarker_word : ∀ c ∈ slotMarker, isWord c = true :=
  List.all_eq_true.mp (by decide)

lemma slotMarker_head (s : List Char) : ∀ c ∈ (slotMarker ++ s).head?, isBlank c = false := by
  intro c hc
  have hne : slotMarker ≠ [] := by decide
  rw [List.head?_append_of_ne_nil _ hne] at hc
  exact not_isBlank_of_isWord (slotMarker_word c (List.mem_of_mem_head? hc))

lemma not_mem_slotMarker {c : Char} (hc : isWord c = false) : c ∉ slotMarker := by
  intro hmem
  rw [slotMarker_word c hmem] at hc
  exact absurd hc (by decide)

section Reading

variable (type : TypeText) (name subtype : Word)

lemma typeText?_space : typeText? (' ' :: type.chars) = some type.chars := by
  have hne : ' ' :: type.chars ≠ [] := List.cons_ne_nil _ _
  have hlast : (' ' :: type.chars).getLast? ≠ some '\n' := by
    intro h
    have hmem := List.mem_of_getLast? h
    rw [List.mem_cons] at hmem
    rcases hmem with h | h
    · exact absurd h (by decide)
    · exact type.newline_not_mem h
  have hsemicolon : type.chars.getLast? ≠ some ';' := by
    intro h
    rcases type.nested.last ';' h with h | h
    · exact h rfl
    · exact absurd h (by decide)
  have htrim : trimStart (' ' :: type.chars) = type.chars := by
    rw [trimStart_space, trimStart_eq_self type.trimmed.head]
  simp [typeText?, dropFinalNewline, hlast, htrim, type.ne_nil, type.newline_not_mem, hsemicolon,
    trimEnd_eq_self type.trimmed.last]

lemma Content.text_head (content : Content) : ∀ c ∈ content.text.head?, isWord c = false := by
  intro c hc
  have hcase : c = '?' ∨ c = ':' := by
    match content with
    | .plain true _ => exact .inl (by simpa [Content.text, eq_comm] using hc)
    | .plain false _ | .slot _ => exact .inr (by simpa [Content.text, eq_comm] using hc)
  rcases hcase with rfl | rfl <;> decide

lemma plain?_text (optional : Bool) :
    plain? (name.chars ++ (Content.plain optional type).text) =
      some ((Content.plain optional type).field name) := by
  have hrest := (Content.plain optional type).text_head
  rw [plain?, name.takeWhile_append hrest, name.dropWhile_append hrest]
  cases optional with
  | true =>
    simp only [name.isEmpty_eq, Content.text, typeText?_space]
    rfl
  | false =>
    simp only [name.isEmpty_eq, Content.text, typeText?_space]
    rfl

lemma slot?_text :
    slot? (name.chars ++ (Content.slot subtype).text) = some ((Content.slot subtype).field name) := by
  have hrest := (Content.slot subtype).text_head
  have hclose : ∀ c ∈ ['>'].head?, isWord c = false := by
    intro c hc
    obtain rfl : '>' = c := by simpa using hc
    decide
  have htrim : trimStart (' ' :: (slotMarker ++ '<' :: (subtype.chars ++ ['>']))) =
      slotMarker ++ '<' :: (subtype.chars ++ ['>']) := by
    rw [trimStart_space, trimStart_eq_self (slotMarker_head _)]
  have hmarker : (slotMarker ++ ['<']).isPrefixOf?
      (slotMarker ++ '<' :: (subtype.chars ++ ['>'])) = some (subtype.chars ++ ['>']) := by
    rw [List.isPrefixOf?_eq_some_iff_append_eq]
    simp
  unfold slot?
  rw [name.takeWhile_append hrest, name.dropWhile_append hrest]
  simp only [name.isEmpty_eq, Content.text, List.isPrefixOf?, BEq.rfl, if_true, htrim, hmarker,
    Option.bind_eq_bind, Option.bind_some, subtype.takeWhile_append hclose,
    subtype.dropWhile_append hclose, subtype.isEmpty_eq]
  rfl

end Reading

namespace Content

variable (name : Word) (content : Content)

lemma not_comment (rest : List Char) :
    "//".toList.isPrefixOf (name.chars ++ content.text ++ rest) = false := by
  obtain ⟨c, cs, hname⟩ := List.exists_cons_of_ne_nil name.ne_nil
  have hc : '/' ≠ c := by
    rintro rfl
    exact name.not_mem (c := '/') (by decide) (by simp [hname])
  simp [hname, List.isPrefixOf, hc]

lemma occursIn_slotMarker
    (hname : ∀ optional type, content = .plain optional type → ¬ slotMarker <:+: name.chars) :
    occursIn slotMarker (name.chars ++ content.text) = true ↔
      ∃ subtype, content = .slot subtype := by
  rw [occursIn_iff]
  have hblank : ∀ {s : List Char}, ¬ slotMarker <:+: s → ¬ slotMarker <:+: ' ' :: s := by
    intro s hs
    exact not_infix_append_cons (a := []) (not_mem_slotMarker (by decide)) (by decide) hs
  match content with
  | .plain true type =>
    have htype := hblank type.unmarked
    have hcolon := not_infix_append_cons (a := []) (c := ':') (not_mem_slotMarker (by decide))
      (by decide) htype
    have hall := not_infix_append_cons (c := '?') (not_mem_slotMarker (by decide))
      (hname true type rfl) hcolon
    simpa [Content.text] using hall
  | .plain false type =>
    have htype := hblank type.unmarked
    have hall := not_infix_append_cons (c := ':') (not_mem_slotMarker (by decide))
      (hname false type rfl) htype
    simpa [Content.text] using hall
  | .slot subtype =>
    refine ⟨fun _ => ⟨subtype, rfl⟩, fun _ => ?_⟩
    refine ⟨name.chars ++ [':', ' '], '<' :: (subtype.chars ++ ['>']), ?_⟩
    simp [Content.text]

theorem field?_text
    (hname : ∀ optional type, content = .plain optional type → ¬ slotMarker <:+: name.chars) :
    field? (name.chars ++ content.text) = some (content.field name) := by
  have hcomment := content.not_comment name []
  have hmarker := content.occursIn_slotMarker name hname
  rw [List.append_nil] at hcomment
  rw [field?, hcomment, if_neg (by decide)]
  match content with
  | .plain optional type => rw [if_neg (by simp [hmarker]), plain?_text]
  | .slot subtype => rw [if_pos (by simp [hmarker]), slot?_text]

lemma trimmed : Trimmed (name.chars ++ content.text) := by
  match content with
  | .plain true type =>
    exact name.trimmed.around type.trimmed name.ne_nil type.ne_nil ['?', ':', ' ']
  | .plain false type =>
    exact name.trimmed.around type.trimmed name.ne_nil type.ne_nil [':', ' ']
  | .slot subtype =>
    have haround := name.trimmed.around (.singleton (by decide : isBlank '>' = false))
      name.ne_nil (by decide) (':' :: ' ' :: (slotMarker ++ '<' :: subtype.chars))
    simpa [Content.text] using haround

lemma nested : Nested (· ≠ ';') (name.chars ++ content.text) := by
  have hword : ∀ w : Word, Nested (· ≠ ';') w.chars := by
    intro w
    refine .of_braceless (w.not_mem (by decide)) (w.not_mem (by decide)) fun c hc => ?_
    rintro rfl
    exact w.not_mem (c := ';') (by decide) hc
  have hcolon : ∀ {s : List Char}, Nested (· ≠ ';') s → Nested (· ≠ ';') (':' :: ' ' :: s) :=
    fun hs => .char (by decide) (by decide) (by decide) (.char (by decide) (by decide) (by decide) hs)
  refine (hword name).append ?_
  match content with
  | .plain true type => exact .char (by decide) (by decide) (by decide) (hcolon type.nested)
  | .plain false type => exact hcolon type.nested
  | .slot subtype =>
    have hmarker : Nested (· ≠ ';') slotMarker := hword ⟨slotMarker, by decide, slotMarker_word⟩
    have hclose : Nested (· ≠ ';') ['>'] := .char (by decide) (by decide) (by decide) .nil
    exact hcolon (hmarker.append
      (.char (by decide) (by decide) (by decide) ((hword subtype).append hclose)))

lemma newline_not_mem : '\n' ∉ name.chars ++ content.text := by
  have hmarker : '\n' ∉ slotMarker := not_mem_slotMarker (by decide)
  have hname : '\n' ∉ name.chars := name.not_mem (by decide)
  match content with
  | .plain true type | .plain false type => simp [Content.text, hname, type.newline_not_mem]
  | .slot subtype =>
    have hsubtype : '\n' ∉ subtype.chars := subtype.not_mem (by decide)
    simp [Content.text, hname, hmarker, hsubtype]

lemma isCandidate : IsCandidate (name.chars ++ content.text) :=
  ⟨by simp [name.ne_nil], content.trimmed name, content.nested name, content.newline_not_mem name⟩

end Content

namespace Written

variable (m : Written)

lemma field?_candidate : field? m.candidate = some m.field :=
  m.content.field?_text m.name fun _ _ _ => m.unmarked

lemma isCandidate : IsCandidate m.candidate :=
  m.content.isCandidate m.name

lemma newline_not_mem_line : '\n' ∉ m.line := by
  have hcandidate := m.content.newline_not_mem m.name
  rw [List.mem_append, not_or] at hcandidate
  simp [line, candidate, m.indent_newline, hcandidate]

lemma indented_balanced : Balanced (m.indent ++ m.candidate) :=
  (Nested.of_blanks m.indent_blank).append (m.content.nested m.name).balanced

lemma line_balanced : Balanced m.line := by
  have hsemicolon : Balanced [';'] := .char (by decide) (by decide) trivial .nil
  rw [line, ← List.append_assoc]
  exact m.indented_balanced.append hsemicolon

theorem cutting_line (finished : List (List Char)) :
    Cutting.line ⟨finished, [], 0⟩ m.line = ⟨m.candidate :: finished, [], 0⟩ :=
  m.isCandidate.cutting_line m.indent_blank (m.content.not_comment m.name [';']) finished

end Written

/-- A blank line or a line comment without braces. -/
structure Filler where
  chars : List Char
  isFiller : Cutting.isFiller (trim chars) = true
  open_not_mem : '{' ∉ chars
  close_not_mem : '}' ∉ chars
  newline_not_mem : '\n' ∉ chars

/-- A line between the braces of a written declaration. -/
inductive BodyLine where
  | member (m : Written)
  | filler (f : Filler)

namespace BodyLine

def text : BodyLine → List Char
  | member m => m.line
  | filler f => f.chars

def member? : BodyLine → Option Written
  | member m => some m
  | filler _ => none

lemma newline_not_mem (l : BodyLine) : '\n' ∉ l.text := by
  cases l with
  | member m => exact m.newline_not_mem_line
  | filler f => exact f.newline_not_mem

lemma balanced (l : BodyLine) : Balanced l.text := by
  cases l with
  | member m => exact m.line_balanced
  | filler f => exact .of_braceless f.open_not_mem f.close_not_mem fun _ _ => trivial

end BodyLine

/-- The members written on lines. -/
def members (ls : List BodyLine) : List Written :=
  ls.filterMap BodyLine.member?

/-- What stands between the braces: the rest of the first line, the lines, the start of the last. -/
def body (ls : List BodyLine) : List Char :=
  unlines ([] :: (ls.map BodyLine.text ++ [[]]))

variable (ls : List BodyLine)

lemma cutting_filler {l : List Char} (hl : Cutting.isFiller (trim l) = true)
    (finished : List (List Char)) :
    Cutting.line ⟨finished, [], 0⟩ l = ⟨finished, [], 0⟩ := by
  rw [Cutting.line, if_pos ⟨rfl, hl⟩]

/-- The candidates of a written body are its members, in order. -/
theorem candidates_body : candidates (body ls) = (members ls).map Written.candidate := by
  have hlines : candidates (body ls) =
      ls.filterMap fun l => l.member?.map Written.candidate := by
    refine candidates_of_lines (fun l _ => l.newline_not_mem) fun l _ finished => ?_
    cases l with
    | member m => exact m.cutting_line finished
    | filler f => exact cutting_filler f.isFiller finished
  rw [hlines, members, List.map_filterMap]

end TypeLineage.Member
