import Mathlib.Data.List.Basic
import Mathlib.Tactic.Common
import TypeLineage.Proofs.Edges
import TypeLineage.Proofs.NormalForm
import TypeLineage.Proofs.Statement

/-!
# Type parameters

A header with parameters is read as the header without them, unless a `>` inside the parameters is
followed by an equals sign. Then the header ends at this equals sign, and the rest of the parameters
becomes a part of the declaration.
-/

namespace TypeLineage

open Text

namespace Header

variable {front blanks inner params rest : List Char}

/-- The header of a declaration with parameters, up to its equals sign. -/
def textWith (name : Word) (params : List Char) : List Char :=
  beginning name ++ '<' :: (params ++ "> =".toList)

/-- Inside the parameters a `>` is followed by an equals sign. -/
def AssignsInside (params : List Char) : Prop :=
  ∃ front blanks inner, params = front ++ '>' :: (blanks ++ '=' :: inner) ∧
    ∀ c ∈ blanks, isBlank c = true

lemma not_assignsInside_nil : ¬ AssignsInside [] := by
  rintro ⟨front, blanks, inner, h, -⟩
  simp at h

lemma assignsInside_cons_iff {c : Char} : AssignsInside (c :: params) ↔
    (c = '>' ∧ ∃ inner, trimStart params = '=' :: inner) ∨ AssignsInside params := by
  constructor
  · rintro ⟨front, blanks, inner, h, hblanks⟩
    cases front with
    | nil =>
      obtain ⟨rfl, rfl⟩ := List.cons.inj h
      refine .inl ⟨rfl, inner, ?_⟩
      rw [trimStart_append_blanks hblanks]
      rfl
    | cons d front =>
      obtain ⟨rfl, rfl⟩ := List.cons.inj h
      exact .inr ⟨front, blanks, inner, rfl, hblanks⟩
  · rintro (⟨rfl, inner, h⟩ | ⟨front, blanks, inner, rfl, hblanks⟩)
    · refine ⟨[], params.takeWhile isBlank, inner, ?_, fun c hc => List.mem_takeWhile_imp hc⟩
      rw [← h, trimStart, List.takeWhile_append_dropWhile]
      rfl
    · exact ⟨c :: front, blanks, inner, rfl, hblanks⟩

instance decidableAssignsInside : (params : List Char) → Decidable (AssignsInside params)
  | [] => isFalse not_assignsInside_nil
  | c :: params =>
    have := decidableAssignsInside params
    decidable_of_iff (c = '>' ∧ (trimStart params).head? = some '=' ∨ AssignsInside params) (by
      rw [assignsInside_cons_iff, List.head?_eq_some_iff])

lemma AssignsInside.exists_first (h : AssignsInside params) : ∃ front blanks inner,
    params = front ++ '>' :: (blanks ++ '=' :: inner) ∧ (∀ c ∈ blanks, isBlank c = true) ∧
      ¬ AssignsInside front := by
  induction params with
  | nil => exact absurd h not_assignsInside_nil
  | cons c params ih =>
    by_cases hfirst : c = '>' ∧ ∃ inner, trimStart params = '=' :: inner
    · obtain ⟨rfl, inner, hinner⟩ := hfirst
      refine ⟨[], params.takeWhile isBlank, inner, ?_, fun c hc => List.mem_takeWhile_imp hc,
        not_assignsInside_nil⟩
      rw [← hinner, trimStart, List.takeWhile_append_dropWhile]
      rfl
    · have hparams := (assignsInside_cons_iff.mp h).resolve_left hfirst
      obtain ⟨front, blanks, inner, rfl, hblanks, hfront⟩ := ih hparams
      refine ⟨c :: front, blanks, inner, rfl, hblanks, fun hassigns => ?_⟩
      rcases assignsInside_cons_iff.mp hassigns with ⟨hc, later, hlater⟩ | hassigns
      · refine hfirst ⟨hc, later ++ '>' :: (blanks ++ '=' :: inner), ?_⟩
        rw [trimStart_append (by simp [hlater]), hlater, List.cons_append]
      · exact hfront hassigns

/-- The parameters end at the first `>` that is followed by an equals sign. -/
theorem afterParameters?_append (hnewline : '\n' ∉ front) (hfront : ¬ AssignsInside front)
    (hblanks : ∀ c ∈ blanks, isBlank c = true) (rest : List Char) :
    afterParameters? (front ++ '>' :: (blanks ++ '=' :: rest)) = some rest := by
  have hequals : isBlank '=' = false := by decide
  have hclose : isBlank '>' = false := by decide
  induction front with
  | nil =>
    have hafter : afterEquals? (blanks ++ '=' :: rest) = some rest := by
      rw [afterEquals?, trimStart_append_blanks hblanks]
      rfl
    rw [List.nil_append, afterParameters?, if_neg (by decide), if_pos rfl, hafter]
  | cons c front ih =>
    rw [List.mem_cons, not_or] at hnewline
    rw [assignsInside_cons_iff, not_or] at hfront
    rw [List.cons_append, afterParameters?, if_neg (Ne.symm hnewline.1)]
    split
    · rename_i hc
      have hafter : afterEquals? (front ++ '>' :: (blanks ++ '=' :: rest)) = none := by
        rw [afterEquals?, trimStart_append_cons hclose]
        split
        · rename_i body hbody
          cases hstart : trimStart front with
          | nil => simp [hstart] at hbody
          | cons d later =>
            obtain rfl : d = '=' := by simpa [hstart] using congrArg List.head? hbody
            exact absurd ⟨hc, later, hstart⟩ hfront.1
        · rfl
      rw [hafter]
      exact ih hnewline.2 hfront.2
    · exact ih hnewline.2 hfront.2

lemma find?_parameters (name : Word) (hnewline : '\n' ∉ front) (hfront : ¬ AssignsInside front)
    (hblanks : ∀ c ∈ blanks, isBlank c = true) (rest : List Char) :
    find? (beginning name ++ '<' :: (front ++ '>' :: (blanks ++ '=' :: rest))) =
      some (name.chars, rest) := by
  have hopen : ∀ c ∈ ('<' :: (front ++ '>' :: (blanks ++ '=' :: rest))).head?,
      isWord c = false := by
    intro c hc
    obtain rfl : '<' = c := by simpa using hc
    decide
  have hname : afterName? ('<' :: (front ++ '>' :: (blanks ++ '=' :: rest))) = some rest :=
    afterParameters?_append hnewline hfront hblanks rest
  apply find?_of_here?
  rw [here?_beginning name hopen, hname, Option.map_some]

end Header

namespace Declaration

variable {front blanks inner params : List Char} {file : String}

lemma parse_append_congr {a b : List Char} (ha : '\n' ∉ a) (hb : '\n' ∉ b)
    (h : ∀ q, Header.find? (a ++ q) = Header.find? (b ++ q)) (rest : List Char) (file : String) :
    parse (a ++ rest) file = parse (b ++ rest) file := by
  obtain ⟨q, below, hq⟩ := exists_lines_eq_cons rest
  rw [parse, parse, findings, findings, lines_append_of_newline_not_mem ha hq,
    lines_append_of_newline_not_mem hb hq, findingsFrom, findingsFrom, h]

lemma parse_parameters (name : Word) (hfront : '\n' ∉ front)
    (hassigns : ¬ Header.AssignsInside front) (hline : '\n' ∉ blanks)
    (hblanks : ∀ c ∈ blanks, isBlank c = true) (rest : List Char) (file : String) :
    parse (Header.beginning name ++ '<' :: (front ++ '>' :: (blanks ++ '=' :: rest))) file =
      parse (Header.text name ++ rest) file := by
  have happ : ∀ rest, Header.beginning name ++ '<' :: (front ++ '>' :: (blanks ++ '=' :: rest)) =
      (Header.beginning name ++ '<' :: (front ++ '>' :: (blanks ++ ['=']))) ++ rest := by
    intro rest
    simp
  have hfirst : '\n' ∉ Header.beginning name ++ '<' :: (front ++ '>' :: (blanks ++ ['='])) := by
    simp [Header.newline_not_mem_beginning, hfront, hline]
  rw [happ]
  refine parse_append_congr hfirst (Header.newline_not_mem_text name) (fun q => ?_) rest file
  rw [← happ, Header.find?_parameters name hfront hassigns hblanks]
  exact (Header.Passed.nil.find?_text name q).symm

lemma parse_textWith (name : Word) (hparams : '\n' ∉ params)
    (hassigns : ¬ Header.AssignsInside params) (rest : List Char) (file : String) :
    parse (Header.textWith name params ++ rest) file = parse (Header.text name ++ rest) file := by
  have happ : Header.textWith name params ++ rest =
      Header.beginning name ++ '<' :: (params ++ '>' :: ([' '] ++ '=' :: rest)) := by
    unfold Header.textWith
    simp
  rw [happ]
  exact parse_parameters name hparams hassigns (by decide) isBlank_of_mem_space rest file

lemma parse_textWith_append (name : Word) (hparams : '\n' ∉ front ++ '>' :: (blanks ++ '=' :: inner))
    (hblanks : ∀ c ∈ blanks, isBlank c = true) (hassigns : ¬ Header.AssignsInside front)
    (rest : List Char) (file : String) :
    parse (Header.textWith name (front ++ '>' :: (blanks ++ '=' :: inner)) ++ rest) file =
      parse (Header.text name ++ (inner ++ ("> =".toList ++ rest))) file := by
  have hfront : '\n' ∉ front := fun h => hparams (by simp [h])
  have hline : '\n' ∉ blanks := fun h => hparams (by simp [h])
  have happ : Header.textWith name (front ++ '>' :: (blanks ++ '=' :: inner)) ++ rest =
      Header.beginning name ++ '<' :: (front ++ '>' :: (blanks ++ '=' ::
        (inner ++ ("> =".toList ++ rest)))) := by
    unfold Header.textWith
    simp
  rw [happ]
  exact parse_parameters name hfront hassigns hline hblanks _ file

lemma eq_ofText_of_mem_parse (name : Word) {s : List Char} (hs : '\n' ∉ s) {file : String}
    {d : Declaration} (hd : d ∈ parse (Header.text name ++ s) file) :
    d = ofText name.chars s 1 file := by
  have hheader := Header.Passed.nil.find?_text name s
  rw [List.nil_append] at hheader
  have hlines : lines (Header.text name ++ s) = [Header.text name ++ s] :=
    lines_append_of_newline_not_mem (Header.newline_not_mem_text name) (lines_eq_singleton hs)
  rw [parse, table] at hd
  have hfinding := mem_filterMap_declared?.mp (Keyed.mem_of_mem_ofList hd)
  rw [findings, hlines, findingsFrom, hheader] at hfinding
  simp only [findingsFrom, List.mem_singleton, extent] at hfinding
  split at hfinding
  · cases hfinding
  · rename_i text htext
    rw [Finding.declared.inj hfinding]
    cases hcount : countBraces 0 false s with
    | none =>
      rw [hcount] at htext
      rw [Option.some.inj htext]
    | some state =>
      rw [hcount] at htext
      cases htext

lemma parse_statement (s : Statement) (file : String) :
    parse (Header.text s.name ++ s.rightSide) file = [s.record file 1] := by
  have hscan := s.findingsFrom_statement .nil List.not_mem_nil [] file 1
  have hnil : (lines []).tail = [] := rfl
  rw [List.nil_append, List.append_nil, hnil] at hscan
  rw [parse, findings, hscan]
  rfl

lemma exists_other_parent (parent : Option String) :
    ∃ w : Word, some (String.ofList w.chars) ≠ parent := by
  by_cases h : parent = some "A"
  · refine ⟨⟨['B'], by decide, List.all_eq_true.mp (by decide)⟩, ?_⟩
    rw [h]
    decide
  · exact ⟨⟨['A'], by decide, List.all_eq_true.mp (by decide)⟩, Ne.symm h⟩

lemma exists_parse_ne (name : Word) (hparams : '\n' ∉ params)
    (hassigns : Header.AssignsInside params) (file : String) : ∃ s : Statement, s.name = name ∧
      parse (Header.textWith name params ++ s.rightSide) file ≠
        parse (Header.text name ++ s.rightSide) file := by
  obtain ⟨front, blanks, inner, rfl, hblanks, hfront⟩ := hassigns.exists_first
  -- The parent that is read does not depend on the right side, so one with another parent differs.
  obtain ⟨w, hw⟩ := exists_other_parent (ofText name.chars (inner ++ ['>']) 1 file).parent
  refine ⟨⟨name, some w, []⟩, rfl, ?_⟩
  have hrecord := parse_statement ⟨name, some w, []⟩ file
  have hright := Statement.newline_not_mem_rightSide ⟨name, some w, []⟩ rfl
  rw [parse_textWith_append name hparams hblanks hfront, hrecord]
  generalize Statement.rightSide ⟨name, some w, []⟩ = right at hright
  intro hsame
  have hline : '\n' ∉ inner ++ '>' :: (" =".toList ++ right) := by
    have hinner : '\n' ∉ inner := fun hmem => hparams (by simp [hmem])
    simp [hinner, hright]
  have hmem : Statement.record ⟨name, some w, []⟩ file 1 ∈
      parse (Header.text name ++ (inner ++ '>' :: (" =".toList ++ right))) file :=
    hsame ▸ List.mem_singleton_self _
  have hparent := congrArg Declaration.parent (eq_ofText_of_mem_parse name hline hmem)
  rw [parent_ofText (by decide) (by decide) (by decide) name.chars inner _ [] 1 file] at hparent
  exact hw hparent

/-- What is read from a header with parameters is what is read from it without them, whatever its right
side, exactly if no `>` inside the parameters is followed by an equals sign. Otherwise it is what is
read if the definition begins behind the first such equals sign. -/
theorem parse_with_parameters (name : Word) (params : List Char) (file : String)
    (hparams : '\n' ∉ params) :
    ((∀ s : Statement, s.name = name →
        parse (Header.textWith name params ++ s.rightSide) file =
          parse (Header.text name ++ s.rightSide) file) ↔ ¬ Header.AssignsInside params) ∧
      (¬ Header.AssignsInside params → ∀ rest : List Char,
        parse (Header.textWith name params ++ rest) file = parse (Header.text name ++ rest) file) ∧
      ∀ front blanks inner : List Char, params = front ++ '>' :: (blanks ++ '=' :: inner) →
        (∀ c ∈ blanks, isBlank c = true) → ¬ Header.AssignsInside front → ∀ rest : List Char,
          parse (Header.textWith name params ++ rest) file =
            parse (Header.text name ++ (inner ++ ("> =".toList ++ rest))) file := by
  refine ⟨⟨fun h hassigns => ?_, fun hassigns s _ => ?_⟩, fun hassigns rest => ?_, ?_⟩
  · obtain ⟨s, hname, hne⟩ := exists_parse_ne name hparams hassigns file
    exact hne (h s hname)
  · exact parse_textWith name hparams hassigns s.rightSide file
  · exact parse_textWith name hparams hassigns rest file
  · rintro front blanks inner rfl hblanks hfront rest
    exact parse_textWith_append name hparams hblanks hfront rest file

/-- A parameter list in which a nested one ends in front of an equals sign. -/
def defaulted : List Char :=
  "T extends Array<string> = Array<string>".toList

def boxed : Statement where
  name := ⟨"BoxInstance".toList, by decide, List.all_eq_true.mp (by decide)⟩
  parent := some ⟨"Shape".toList, by decide, List.all_eq_true.mp (by decide)⟩
  rows := [
    { closed := [
        { indent := [' ']
          name := ⟨"value".toList, by decide, List.all_eq_true.mp (by decide)⟩
          content := .plain false
            { chars := ['T']
              ne_nil := by decide
              trimmed := .singleton (by decide)
              nested := .char (by decide) (by decide) (by decide) .nil
              newline_not_mem := by decide
              unmarked := by decide }
          indent_blank := isBlank_of_mem_space
          indent_newline := by decide
          unmarked := by decide }]
      last := none
      tail := [' ']
      tail_blank := isBlank_of_mem_space
      tail_newline := by decide }]

/-- The parent is lost here. -/
theorem parse_with_parameters_defaulted :
    '\n' ∉ defaulted ∧
      parse (Header.textWith boxed.name defaulted ++ boxed.rightSide) "" =
        [⟨"BoxInstance", none, [⟨"value", "T", false, .plain⟩], 1, ""⟩] ∧
      parse (Header.text boxed.name ++ boxed.rightSide) "" =
        [⟨"BoxInstance", some "Shape", [⟨"value", "T", false, .plain⟩], 1, ""⟩] := by
  have hline : '\n' ∉ defaulted := by decide
  have hfront : ¬ Header.AssignsInside "T extends Array<string".toList := by decide
  obtain ⟨-, -, hkept⟩ := parse_with_parameters boxed.name defaulted "" hline
  have hparse := hkept _ [' '] " Array<string>".toList (by decide) isBlank_of_mem_space hfront
    boxed.rightSide
  rw [hparse]
  exact ⟨hline, by decide +kernel, by decide +kernel⟩

end Declaration

end TypeLineage
