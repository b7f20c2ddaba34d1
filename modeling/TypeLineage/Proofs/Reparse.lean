import Mathlib.Data.List.Basic
import Mathlib.Tactic.Common
import TypeLineage.Declaration.Scan
import TypeLineage.Proofs.NormalForm
import TypeLineage.Proofs.Rendering

/-!
# Writing records and reading them again

Records are written one in a block, each member on a line of its own. What was read from a text can
be written in this way, and is read again as it was.
-/

namespace TypeLineage

open Text

namespace Field

/-- The member as it is written, without the final semicolon. -/
def text (f : Field) : List Char :=
  f.name.toList ++ ((if f.optional then ['?'] else []) ++ ':' :: ' ' :: f.type.toList)

def line (f : Field) : List Char :=
  f.text ++ [';']

variable {f : Field}

lemma IsNormal.exists_content (h : f.IsNormal) : ∃ (w : Word) (content : Member.Content),
    f = content.field w ∧ f.text = w.chars ++ content.text ∧
      ∀ optional type, content = .plain optional type → ¬ Member.slotMarker <:+: w.chars := by
  obtain ⟨⟨w, hname⟩, hplain, hslot⟩ := h
  obtain ⟨name, type, optional, kind⟩ := f
  obtain rfl : name = String.ofList w.chars := hname
  cases kind with
  | plain =>
    obtain ⟨hmarker, t, htype⟩ := hplain rfl
    obtain rfl : type = String.ofList t.chars := htype
    refine ⟨w, .plain optional t, rfl, ?_, fun _ _ _ => by simpa using hmarker⟩
    cases optional <;> simp [text, Member.Content.text]
  | slot =>
    obtain ⟨hoptional, v, htype⟩ := hslot rfl
    obtain rfl : optional = false := hoptional
    obtain rfl : type = _ := htype
    refine ⟨w, .slot v, rfl, ?_, fun _ _ hcontent => by cases hcontent⟩
    simp [text, Member.Content.text]

lemma IsNormal.field?_text (h : f.IsNormal) : Member.field? f.text = some f := by
  obtain ⟨w, content, hf, htext, hmarker⟩ := h.exists_content
  rw [htext, content.field?_text w hmarker, hf]

lemma IsNormal.isCandidate (h : f.IsNormal) : Member.IsCandidate f.text := by
  obtain ⟨w, content, -, htext, -⟩ := h.exists_content
  rw [htext]
  exact content.isCandidate w

lemma IsNormal.cutting_line (h : f.IsNormal) (finished : List (List Char)) :
    Member.Cutting.line ⟨finished, [], 0⟩ f.line = ⟨f.text :: finished, [], 0⟩ := by
  obtain ⟨w, content, -, htext, -⟩ := h.exists_content
  have hcomment := content.not_comment w [';']
  have hindent : ∀ c ∈ ([] : List Char), isBlank c = true := by simp
  rw [← htext] at hcomment
  exact h.isCandidate.cutting_line hindent hcomment finished

lemma IsNormal.balanced_line (h : f.IsNormal) : Balanced f.line :=
  h.isCandidate.nested.balanced.append (.char (by decide) (by decide) trivial .nil)

lemma IsNormal.newline_not_mem_line (h : f.IsNormal) : '\n' ∉ f.line := by
  simp [line, h.isCandidate.newline_not_mem]

end Field

namespace Declaration

/-- The lines of a block: the header, the members and the closing brace. -/
def blockLines (d : Declaration) : List (List Char) :=
  ("export type ".toList ++ (d.name.toList ++ (" = ".toList ++
    ((d.parent.map fun p => p.toList ++ " & ".toList).getD [] ++ ['{'])))) ::
      (d.fields.map Field.line ++ [['}', ';']])

/-- The text of declarations, one in a block. -/
def source (ds : List Declaration) : List Char :=
  unlines (ds.flatMap blockLines)

/-- What a declaration says, wherever it stands. -/
def content (d : Declaration) : String × Option String × List Field :=
  (d.name, d.parent, d.fields)

section Blocks

variable {d : Declaration} {ds : List Declaration} {file : String} {number : Nat}

lemma Block.headerLine_eq {b : Block} (hbefore : b.before = []) : b.headerLine =
    "export type ".toList ++ (b.name.chars ++ (" = ".toList ++ (b.front ++ ['{']))) := by
  have hexport : "export type ".toList = "export".toList ++ (' ' :: ("type".toList ++ [' '])) := by
    decide
  have hequals : " = ".toList = " =".toList ++ [' '] := by decide
  rw [hexport, hequals]
  unfold Block.headerLine Block.opening Header.text
  simp only [hbefore, List.append_assoc, List.cons_append, List.nil_append]

lemma Block.front_eq {b : Block} {parent : Option String}
    (hparent : parent = b.parent.map fun p => String.ofList p.chars) :
    (parent.map fun p => p.toList ++ " & ".toList).getD [] = b.front := by
  rw [hparent, Block.front]
  cases b.parent with
  | none => rfl
  | some v =>
    have hv : (String.ofList v.chars).toList = v.chars := String.toList_ofList
    rw [Option.map_some, Option.map_some, Option.getD_some, hv]
    rfl

lemma IsNormal.exists_parent (h : d.IsNormal) :
    ∃ parent : Option Word, d.parent = parent.map fun p => String.ofList p.chars := by
  cases hp : d.parent with
  | none => exact ⟨none, rfl⟩
  | some p =>
    obtain ⟨v, rfl⟩ := h.parent p hp
    exact ⟨some v, rfl⟩

lemma IsNormal.exists_block (h : d.IsNormal) : ∃ b : Block,
    d.blockLines = b.headerLine :: (d.fields.map Field.line ++ ['}' :: b.trailing]) ∧
      d.name = String.ofList b.name.chars ∧
      d.parent = b.parent.map fun p => String.ofList p.chars := by
  obtain ⟨w, hname⟩ := h.name
  obtain ⟨parent, hparent⟩ := h.exists_parent
  let b : Block :=
    { gaps := []
      before := []
      name := w
      parent := parent
      body := []
      trailing := [';']
      before_newline := List.not_mem_nil
      before_export := by decide
      trailing_newline := by decide }
  have hw : d.name.toList = b.name.chars := hname ▸ String.toList_ofList
  have hfront : (d.parent.map fun p => p.toList ++ " & ".toList).getD [] = b.front :=
    Block.front_eq hparent
  have hheader := Block.headerLine_eq (b := b) rfl
  rw [← hw, ← hfront] at hheader
  exact ⟨b, by rw [blockLines, hheader], hname, hparent⟩

lemma candidates_fields {fs : List Field} (hfs : ∀ f ∈ fs, f.IsNormal) :
    (Member.candidates (unlines ([] :: (fs.map Field.line ++ [[]])))).filterMap Member.field? =
      fs := by
  have hlines : Member.candidates (unlines ([] :: (fs.map Field.line ++ [[]]))) =
      fs.filterMap (some ∘ Field.text) :=
    Member.candidates_of_lines (fun f hf => (hfs f hf).newline_not_mem_line)
      fun f hf => (hfs f hf).cutting_line
  have hfields : ∀ f ∈ fs, ((some ∘ Field.text) f).bind Member.field? = some f :=
    fun f hf => (hfs f hf).field?_text
  rw [hlines, List.filterMap_filterMap, List.filterMap_congr hfields, List.filterMap_some]

theorem IsNormal.findingsFrom_blockLines (h : d.IsNormal) (more : List (List Char)) :
    findingsFrom file number 0 (d.blockLines ++ more) =
      .declared { d with line := number, file := file } ::
        findingsFrom file (number + d.blockLines.length) 0 more := by
  obtain ⟨b, hlines, hname, hparent⟩ := h.exists_block
  have hheader : Header.find? b.headerLine = some (b.name.chars, b.opening) :=
    Header.find?_text b.before_export b.name b.opening
  have hbalanced : ∀ l ∈ d.fields.map Field.line, Balanced l := by
    intro l hl
    obtain ⟨f, hf, rfl⟩ := List.mem_map.mp hl
    exact (h.fields f hf).balanced_line
  have hextent := b.extent_lines hbalanced more
  have hrecord := b.ofText_lines hbalanced file number
  rw [candidates_fields h.fields, Keyed.ofList_of_nodup h.nodup, ← hname, ← hparent] at hrecord
  rw [hlines, List.cons_append, findingsFrom_of_closed hheader hextent, hrecord,
    List.drop_left' rfl, List.length_cons, Nat.add_right_comm, Nat.add_assoc]

lemma IsNormal.newline_not_mem_blockLines (h : d.IsNormal) : ∀ l ∈ d.blockLines, '\n' ∉ l := by
  have hword : ∀ {s : String}, IsWordText s → '\n' ∉ s.toList := by
    rintro _ ⟨w, rfl⟩
    rw [String.toList_ofList]
    exact w.not_mem (by decide)
  have hparent : '\n' ∉ (d.parent.map fun p => p.toList ++ " & ".toList).getD [] := by
    cases hp : d.parent with
    | none => exact List.not_mem_nil
    | some p =>
      rw [Option.map_some, Option.getD_some, List.mem_append, not_or]
      exact ⟨hword (h.parent p hp), by decide⟩
  intro l hl
  rw [blockLines, List.mem_cons, List.mem_append, List.mem_map, List.mem_singleton] at hl
  rcases hl with rfl | ⟨f, hf, rfl⟩ | rfl
  · simp only [List.mem_append, not_or]
    exact ⟨by decide, hword h.name, by decide, hparent, by decide⟩
  · exact (h.fields f hf).newline_not_mem_line
  · decide

lemma exists_findingsFrom_blocks (hds : ∀ d ∈ ds, d.IsNormal) (file : String) (number : Nat) :
    ∃ read : List Declaration,
      findingsFrom file number 0 (ds.flatMap blockLines) = read.map .declared ∧
        read.map content = ds.map content := by
  induction ds generalizing number with
  | nil => exact ⟨[], rfl, rfl⟩
  | cons d ds ih =>
    have hd := hds d List.mem_cons_self
    obtain ⟨read, hread, hcontent⟩ :=
      ih (fun e he => hds e (List.mem_cons_of_mem _ he)) (number + d.blockLines.length)
    refine ⟨{ d with line := number, file := file } :: read, ?_, ?_⟩
    · rw [List.flatMap_cons, hd.findingsFrom_blockLines, hread, List.map_cons]
    · rw [List.map_cons, List.map_cons, hcontent]
      rfl

lemma findings_source (hds : ∀ d ∈ ds, d.IsNormal) (file : String) :
    findings (source ds) file = findingsFrom file 1 0 (ds.flatMap blockLines) := by
  rw [findings, source]
  by_cases hempty : ds.flatMap blockLines = []
  · rw [hempty]
    rfl
  · rw [lines_unlines hempty]
    intro l hl
    obtain ⟨d, hd, hl⟩ := List.mem_flatMap.mp hl
    exact (hds d hd).newline_not_mem_blockLines l hl

/-- Records that can be written and have distinct names are read again as they were written. -/
theorem parse_source (hds : ∀ d ∈ ds, d.IsNormal) (hnames : (ds.map Declaration.name).Nodup)
    (file : String) : (parse (source ds) file).map content = ds.map content := by
  obtain ⟨read, hread, hcontent⟩ := exists_findingsFrom_blocks hds file 1
  have hread_names : (read.map Declaration.name).Nodup := by
    have hmap : read.map Declaration.name = ds.map Declaration.name := by
      have hfirst := congrArg (List.map Prod.fst) hcontent
      rwa [List.map_map, List.map_map] at hfirst
    rwa [hmap]
  -- The names are distinct, so that no record replaces another.
  have hdeclared : Finding.declared? ∘ Finding.declared = some := rfl
  rw [parse, findings_source hds, hread, List.filterMap_map, hdeclared, List.filterMap_some, table,
    Keyed.ofList_of_nodup hread_names, hcontent]

end Blocks

/-- What is read from a text without braces in its comments is in normal form: each record and each
of its fields can be written, and names are distinct. Written one in a block and read again, the
records are the same but for where they stand. -/
theorem parse_source_parse (text : List Char) (file file' : String)
    (hcomments : CommentsBraceless text) :
    (∀ d ∈ parse text file, d.IsNormal) ∧ ((parse text file).map Declaration.name).Nodup ∧
      (parse (source (parse text file)) file').map content = (parse text file).map content := by
  have hnormal : ∀ d ∈ parse text file, d.IsNormal := fun d hd => isNormal_of_mem_parse hcomments hd
  exact ⟨hnormal, nodup_parse text file, parse_source hnormal (nodup_parse text file) file'⟩

/-- Comments, a member over several lines, one that is written twice, and a slot. -/
def untidy : List Char :=
  "// a\nexport type A = B & \x7b // b\n b: \x7b\n c: d; \x7d;;\n b?: y\n".toList ++
    " e: TypeConstructor<F> | null \x7d".toList

theorem parse_source_parse_untidy :
    (parse (source (parse untidy "first.ts")) "second.ts").map content =
      (parse untidy "first.ts").map content :=
  (parse_source_parse untidy "first.ts" "second.ts" (by decide +kernel)).2.2

end Declaration

end TypeLineage
