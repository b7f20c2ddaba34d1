import Mathlib.Tactic.Common
import TypeLineage.Proofs.Decoding
import TypeLineage.Proofs.ScriptText

/-!
# Data blocks of pages

The page carries its graph and settings as JSON in two script elements. No block holds `</`, so no tag
within a block ends the element, and each block decodes to what was written. By the rules of HTML the
element can still go on behind the block: a block that has `<!--` and the start tag of a script behind
it, without `-->`, hides the end tag that follows.
-/

namespace TypeLineage

namespace Page

open Html Text

/-- A script body as raw text, which goes on to the first `</`, and the rest from there on. -/
def rawText : List Char → List Char × List Char
  | [] => ([], [])
  | c :: rest =>
    if "</".toList.isPrefixOf (c :: rest) then ([], c :: rest)
    else (c :: (rawText rest).1, (rawText rest).2)

/-- What stands behind the first place of a tag. -/
def behind? (tag : List Char) : List Char → Option (List Char)
  | [] => none
  | c :: rest =>
    match tag.isPrefixOf? (c :: rest) with
    | some after => some after
    | none => behind? tag rest

def dataTag : List Char :=
  '<' :: "script type=\"application/json\" id=\"graph-data\">".toList

def settingsTag : List Char :=
  '<' :: "script type=\"application/json\" id=\"graph-settings\">".toList

/-- The texts of the elements with the graph data and the settings, where `text` reads the body of a
script. -/
def blocks? (text : List Char → List Char × List Char) (page : List Char) :
    Option (List Char × List Char) :=
  (behind? dataTag page).bind fun body =>
    (behind? settingsTag (text body).2).map fun body' => ((text body).1, (text body').1)

section Reading

variable {s tag front rest : List Char} {c : Char}

lemma rawText_append (hs : ¬ "</".toList <:+: s) (rest : List Char) :
    rawText (s ++ ("</script>".toList ++ rest)) = (s, "</script>".toList ++ rest) := by
  induction s with
  | nil => rfl
  | cons c s ih =>
    have hprefix : ¬ "</".toList <+: c :: (s ++ ("</script>".toList ++ rest)) :=
      fun h => hs ((prefix_append_iff (by decide) ("/script>".toList ++ rest)).mp h).isInfix
    have hs' : ¬ "</".toList <:+: s := mt List.infix_cons hs
    rw [List.cons_append, rawText, if_neg (by rwa [List.isPrefixOf_iff_prefix]), ih hs']

lemma behind?_append (htag : c ∉ tag) (hfront : ¬ c :: tag <:+: front) (rest : List Char) :
    behind? (c :: tag) (front ++ (c :: tag ++ rest)) = some rest := by
  induction front with
  | nil =>
    have hfound : (c :: tag).isPrefixOf? (c :: tag ++ rest) = some rest :=
      List.isPrefixOf?_eq_some_iff_append_eq.mpr rfl
    rw [List.nil_append, List.cons_append, behind?]
    rw [List.cons_append] at hfound
    rw [hfound]
  | cons d front ih =>
    have hnone : (c :: tag).isPrefixOf? (d :: (front ++ (c :: tag ++ rest))) = none := by
      rw [Option.eq_none_iff_forall_ne_some]
      intro after h
      have hprefix : c :: tag <+: d :: front ++ (c :: tag ++ rest) :=
        ⟨after, List.isPrefixOf?_eq_some_iff_append_eq.mp h⟩
      exact hfront (prefix_of_prefix_append_self htag (List.cons_ne_nil d front) hprefix).isInfix
    rw [List.cons_append, behind?, hnone]
    exact ih fun h => hfront (List.infix_cons h)

end Reading

section Pages

variable {text : List Char → List Char × List Char} {data settings : List Char}

lemma toList_indented_tag (s : List Char) : (String.ofList (' ' :: ' ' :: '<' :: s)).toList =
    [' ', ' '] ++ '<' :: (String.ofList s).toList := by
  rw [String.toList_ofList, String.toList_ofList]
  rfl

lemma mem_toList {c : Char} {s : List Char} : c ∈ (String.ofList s).toList ↔ c ∈ s := by
  rw [String.toList_ofList]

lemma not_infix_of_not_mem {c : Char} {needle s : List Char} (hneedle : c ∈ needle) (hs : c ∉ s) :
    ¬ needle <:+: s :=
  fun h => hs (h.subset hneedle)

lemma not_mem_unlines {c : Char} (hc : c ≠ '\n') {ls : List (List Char)} (hls : ∀ l ∈ ls, c ∉ l) :
    c ∉ unlines ls := by
  induction ls with
  | nil => exact List.not_mem_nil
  | cons l ls ih =>
    rw [List.forall_mem_cons] at hls
    by_cases hnil : ls = []
    · rw [hnil, unlines, List.intercalate_singleton]
      exact hls.1
    · rw [unlines_cons l hnil]
      simp [hls.1, hc, ih hls.2]

/-- The letter `j` of the tag does not come before. -/
lemma exists_joined_opening :
    ∃ front, joined opening = front ++ dataTag ∧ ¬ dataTag <:+: front := by
  have hlast : "  <script type=\"application/json\" id=\"graph-data\">".toList = [' ', ' '] ++ dataTag :=
    toList_indented_tag _
  have hsplit : opening.map String.toList =
      opening.dropLast.map String.toList ++ [[' ', ' '] ++ dataTag] := by
    rw [← hlast]
    rfl
  have hlines : ∀ l ∈ opening.dropLast, 'j' ∉ l.toList := by
    -- Each line is a literal, which is searched as the list of its characters.
    simp only [opening, List.dropLast, List.forall_mem_cons]
    repeat' constructor
    all_goals first | exact mt mem_toList.mp (by decide) | simp
  refine ⟨unlines (opening.dropLast.map String.toList ++ [[' ', ' ']]), ?_, ?_⟩
  · rw [joined, hsplit, unlines_append_right]
  · refine not_infix_of_not_mem (List.mem_cons_of_mem _ (mem_toList.mpr (by decide) : 'j' ∈ _)) ?_
    refine not_mem_unlines (by decide) fun l hl => ?_
    rcases List.mem_append.mp hl with hl | hl
    · obtain ⟨line, hline, rfl⟩ := List.mem_map.mp hl
      exact hlines line hline
    · rw [List.mem_singleton.mp hl]
      decide

lemma joined_middle :
    joined middle = "</script>".toList ++ (['\n', ' ', ' '] ++ settingsTag) := by
  have hlast : "  <script type=\"application/json\" id=\"graph-settings\">".toList =
      [' ', ' '] ++ settingsTag := toList_indented_tag _
  rw [joined, middle, List.map_cons, List.map_singleton, hlast, unlines_cons _ (List.cons_ne_nil _ _),
    unlines, List.intercalate_singleton]
  rfl

lemma joined_closing : ∃ after, joined closing = "</script>".toList ++ after := by
  refine ⟨unlines ([] :: closing.tail.map String.toList), ?_⟩
  rw [← unlines_append_left, List.append_nil]
  rfl

lemma behind?_dataTag (rest : List Char) : behind? dataTag (joined opening ++ rest) = some rest := by
  obtain ⟨front, hopening, hfront⟩ := exists_joined_opening
  rw [hopening, List.append_assoc]
  exact behind?_append (mt mem_toList.mp (by decide)) hfront rest

lemma behind?_settingsTag (rest : List Char) :
    behind? settingsTag (joined middle ++ rest) = some rest := by
  have hfront : 'y' ∉ "</script>".toList ++ ['\n', ' ', ' '] := by
    simp
  rw [joined_middle, ← List.append_assoc, List.append_assoc _ settingsTag]
  exact behind?_append (mt mem_toList.mp (by decide))
    (not_infix_of_not_mem (List.mem_cons_of_mem _ (mem_toList.mpr (by decide))) hfront) rest

/-- What stands behind the tag of the first element. -/
def behindData (data settings : List Char) : List Char :=
  data ++ (joined middle ++ (settings ++ joined closing))

lemma blocks?_page (text : List Char → List Char × List Char) (data settings : List Char) :
    blocks? text (joined opening ++ behindData data settings) =
      (behind? settingsTag (text (behindData data settings)).2).map
        fun body => ((text (behindData data settings)).1, (text body).1) := by
  rw [blocks?, behind?_dataTag]
  rfl

lemma blocks?_of_eq (htext : text (behindData data settings) =
      (data, joined middle ++ (settings ++ joined closing))) :
    blocks? text (joined opening ++ behindData data settings) =
      some (data, (text (settings ++ joined closing)).1) := by
  rw [blocks?_page, htext]
  simp only
  rw [behind?_settingsTag, Option.map_some]

lemma behindData_eq (data settings : List Char) : ∃ after, behindData data settings =
    data ++ ("</script>".toList ++ after) ∧
      joined middle ++ (settings ++ joined closing) = "</script>".toList ++ after := by
  refine ⟨['\n', ' ', ' '] ++ settingsTag ++ (settings ++ joined closing), ?_, ?_⟩
  · rw [behindData, joined_middle]
    simp only [List.append_assoc]
  · rw [joined_middle]
    simp only [List.append_assoc]

lemma blocks?_rawText (hdata : ¬ "</".toList <:+: data) (hsettings : ¬ "</".toList <:+: settings) :
    blocks? rawText (joined opening ++ behindData data settings) = some (data, settings) := by
  obtain ⟨after, hclosing⟩ := joined_closing
  obtain ⟨after', hbehind, hmiddle⟩ := behindData_eq data settings
  rw [blocks?_of_eq, hclosing, rawText_append hsettings]
  rw [hbehind, hmiddle, rawText_append hdata]

lemma blocks?_scriptText_iff (hdata : ¬ "</".toList <:+: data)
    (hsettings : ¬ "</".toList <:+: settings) :
    blocks? (scriptText .plain) (joined opening ++ behindData data settings) = some (data, settings) ↔
      ¬ HidesEnd data ∧ ¬ HidesEnd settings := by
  obtain ⟨after, hclosing⟩ := joined_closing
  obtain ⟨after', hbehind, hmiddle⟩ := behindData_eq data settings
  by_cases hhides : HidesEnd data
  · refine iff_of_false (fun h => ?_) fun h => h.1 hhides
    rw [blocks?_page, hbehind] at h
    obtain ⟨body, -, heq⟩ := Option.map_eq_some_iff.mp h
    exact scriptText_ne_of_hidesEnd hdata hhides after' (Prod.mk.inj heq).1
  · rw [blocks?_of_eq, hclosing, Option.some.injEq, Prod.mk.injEq]
    · simp only [true_and, hhides, not_false_iff]
      constructor
      · exact fun h hhides' => scriptText_ne_of_hidesEnd hsettings hhides' after h
      · intro h
        rw [scriptText_of_not_hidesEnd hsettings h]
    · rw [hbehind, hmiddle, scriptText_of_not_hidesEnd hdata hhides]

end Pages

end Page

open Page Html in
/-- The blocks of an exported page hold no `</` and decode to the focused payload and the settings. The
texts of their elements, taken up to `</`, are the blocks. By the rules of HTML they are exactly if
neither block hides its end. -/
theorem Graph.pageExport_embeds (g : Graph) (focusText nodeSize : String) :
    let page := g.pageExport focusText nodeSize
    let data := guardEnd (g.focus focusText).payload.compact
    let settings := guardEnd (Page.settings nodeSize).compact
    (¬ "</".toList <:+: data ∧ ¬ "</".toList <:+: settings) ∧
    (Json.decode? data = some (g.focus focusText).payload ∧
      Json.decode? settings = some (Page.settings nodeSize)) ∧
    blocks? rawText page = some (data, settings) ∧
    (blocks? (scriptText .plain) page = some (data, settings) ↔
      ¬ HidesEnd data ∧ ¬ HidesEnd settings) := by
  intro page data settings
  have hdata : ¬ "</".toList <:+: data := Json.not_infix_guardEnd _
  have hsettings : ¬ "</".toList <:+: settings := Json.not_infix_guardEnd _
  have hpage : page = joined opening ++ behindData data settings := by
    simp [page, data, settings, Graph.pageExport, render, behindData]
  rw [hpage]
  exact ⟨⟨hdata, hsettings⟩, ⟨Json.decode?_guardEnd _, Json.decode?_guardEnd _⟩,
    blocks?_rawText hdata hsettings, blocks?_scriptText_iff hdata hsettings⟩

/-- A graph with a name that looks like the start of a script within a comment. -/
def Graph.unclosed : Graph where
  nodes := [⟨"<!--<script>", "T", 0, true, [], ⟨"", 1, 0⟩⟩]
  links := []

open Page Html in
theorem Graph.pageExport_embeds_unclosed :
    let data := guardEnd (unclosed.focus "").payload.compact
    let settings := guardEnd (Page.settings "uniform").compact
    HidesEnd data ∧
    blocks? rawText (unclosed.pageExport "" "uniform") = some (data, settings) ∧
    blocks? (scriptText .plain) (unclosed.pageExport "" "uniform") ≠ some (data, settings) := by
  intro data settings
  obtain ⟨⟨hdata, -⟩, -, hraw, hread⟩ := pageExport_embeds unclosed "" "uniform"
  have hhides : HidesEnd data := (after_eq_doubled_iff hdata).1.mp (by decide +kernel)
  exact ⟨hhides, hraw, fun h => (hread.mp h).1 hhides⟩

end TypeLineage
