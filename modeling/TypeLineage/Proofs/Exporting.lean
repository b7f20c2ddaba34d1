import Mathlib.Data.List.Basic
import Mathlib.Tactic.Common
import TypeLineage.Command.Export
import TypeLineage.Proofs.Embedding
import TypeLineage.Proofs.Files
import TypeLineage.Proofs.Refocusing
import TypeLineage.Proofs.Rereading

/-!
# What an export tells and what it leaves

A reader counts the types in the text of an export: the items of the list of nodes, or the
statements about nodes. It finds the nodes of the focused graph, in every format. The line at the
end of the export counts the nodes of the whole graph instead, so it is right about the file only if
the focus hides nothing.
-/

namespace TypeLineage

/-- The list under a key of an object. -/
def Json.listAt? (key : String) : Json → Option (List Json)
  | .object entries =>
    match entries.find? (·.1 = key) with
    | some (_, .array items) => some items
    | _ => none
  | _ => none

/-- The number of types in the text of a payload. -/
def Json.typesIn? (text : List Char) : Option Nat :=
  ((decode? text).bind (listAt? "nodes")).map List.length

def Dot.Statement.isNode : Statement → Bool
  | .node _ => true
  | .edge _ _ => false

/-- The number of types in an exported text. A page has them in its first data block. -/
def ExportFormat.typesIn? (format : ExportFormat) (text : List Char) : Option Nat :=
  match format with
  | .json => Json.typesIn? text
  | .dot => (Dot.read text).map (·.countP Dot.Statement.isNode)
  | .page => (Page.blocks? Page.rawText text).bind fun (data, _) => Json.typesIn? data

/-- Nothing that a graph shows breaks the exported text. Only the DOT language has quotes that a
name can break. -/
def ExportFormat.Carries (format : ExportFormat) (g : Graph) : Prop :=
  format = .dot → (∀ v ∈ g.nodes, Dot.LegibleNode v) ∧ ∀ e ∈ g.links, Dot.LegibleLink e

section Counting

open Dot

lemma ExportFormat.carries_of_ne {format : ExportFormat} (h : format ≠ .dot) (g : Graph) :
    format.Carries g :=
  fun hdot => absurd hdot h

lemma Json.typesIn?_of_decode {text : List Char} {g : Graph} (h : decode? text = some g.payload) :
    typesIn? text = some g.nodes.length := by
  have hlist : listAt? "nodes" g.payload = some (g.nodes.map Graph.nodeJson) := rfl
  rw [typesIn?, h, Option.bind_some, hlist, Option.map_some, List.length_map]

lemma Dot.countP_isNode (vs : List GraphNode) (es : List GraphLink) :
    (vs.map (fun v : GraphNode => Statement.node v.id) ++
      es.map fun e : GraphLink => Statement.edge e.source e.target).countP Statement.isNode =
        vs.length := by
  have hnodes : Statement.isNode ∘ (fun v : GraphNode => Statement.node v.id) = fun _ => true := rfl
  have hlinks : Statement.isNode ∘ (fun e : GraphLink => Statement.edge e.source e.target) =
      fun _ => false := rfl
  rw [List.countP_append, List.countP_map, List.countP_map, hnodes, hlinks, List.countP_true,
    List.countP_false]
  rfl

lemma Dot.typesIn?_statements (layout : Layout) (nodeSize : String) (g : Graph) :
    (ExportFormat.dot.Carries g → ExportFormat.dot.typesIn? (Text.unlines
      (statements layout nodeSize g)) = some g.nodes.length) ∧
    (¬ ExportFormat.dot.Carries g → ExportFormat.dot.typesIn? (Text.unlines
      (statements layout nodeSize g)) = none) := by
  obtain ⟨found, hlines, hfound⟩ := exists_lines layout nodeSize g
  have hiff : ExportFormat.dot.Carries g ↔
      ∀ l ∈ linePieces layout nodeSize g, ∀ p ∈ l, p.IsLegible := by
    rw [forall_linePieces_iff]
    exact ⟨fun h => h rfl, fun h _ => h⟩
  rw [hiff, ← map_linePieces, ExportFormat.typesIn?]
  constructor
  · intro hlegible
    rw [read_unlines hlines hlegible, hfound, Option.map_some, countP_isNode,
      (told_perm layout g).length_eq]
  · -- A single piece that cannot be read shifts all quotes behind it.
    intro hillegible
    rw [read_unlines_eq_none hlines hillegible, Option.map_none]

lemma Page.typesIn?_render (nodeSize : String) (g : Graph) :
    ExportFormat.page.typesIn? (render g.payload (settings nodeSize)) = some g.nodes.length := by
  have hrender : render g.payload (settings nodeSize) = joined opening ++
      behindData (guardEnd g.payload.compact) (guardEnd (settings nodeSize).compact) := by
    simp [render, behindData]
  have htypes := Json.typesIn?_of_decode (Json.decode?_guardEnd g.payload)
  rw [ExportFormat.typesIn?, hrender,
    blocks?_rawText (Json.not_infix_guardEnd _) (Json.not_infix_guardEnd _), Option.bind_some]
  simp only [htypes]

/-- The text of an export has as many types as the focused graph has nodes, unless its quotes are
broken. Then there is nothing to be read. -/
theorem Graph.typesIn?_exported (g : Graph) (format : ExportFormat)
    (focusText layout nodeSize : String) :
    (format.Carries (g.focus focusText) →
      format.typesIn? (g.exported format focusText layout nodeSize) =
        some (g.focus focusText).nodes.length) ∧
    (¬ format.Carries (g.focus focusText) →
      format.typesIn? (g.exported format focusText layout nodeSize) = none) := by
  cases format with
  | json =>
    have htypes : ExportFormat.json.typesIn? (g.jsonExport focusText) =
        some (g.focus focusText).nodes.length := Json.typesIn?_of_decode (Json.decode?_indented _ _)
    exact ⟨fun _ => htypes, fun h => absurd (ExportFormat.carries_of_ne (by decide) _) h⟩
  | dot => exact Dot.typesIn?_statements (.ofName layout) nodeSize (g.focus focusText)
  | page =>
    have htypes : ExportFormat.page.typesIn? (g.pageExport focusText nodeSize) =
        some (g.focus focusText).nodes.length := Page.typesIn?_render nodeSize (g.focus focusText)
    exact ⟨fun _ => htypes, fun h => absurd (ExportFormat.carries_of_ne (by decide) _) h⟩

lemma Graph.length_focus_iff (g : Graph) (text : String) :
    (g.focus text).nodes.length = g.nodes.length ↔ text = "" ∨
      (∀ v ∈ g.nodes, GraphNode.mentions text v = false) ∨ ∀ v ∈ g.nodes, g.Near text v.id := by
  rcases focus_cases g text with ⟨htext, hfound⟩ | ⟨hself, hnot⟩
  · have hsome : ¬ ∀ v ∈ g.nodes, GraphNode.mentions text v = false := by
      obtain ⟨v, hv, hm⟩ := hfound
      exact fun h => Bool.false_ne_true ((h v hv).symm.trans hm)
    rw [focus_eq_filter htext hfound, List.length_filter_eq_length_iff]
    simp [htext, hsome]
  · rw [hself]
    exact iff_of_true rfl (hnot.imp_right fun h => .inl (by simpa using h))

end Counting

namespace Command

open Console

lemma exportedLine_inj {n m : Nat} {output : Path}
    (h : exportedLine n output = exportedLine m output) : n = m := by
  have hdigits : Binary64.digits n = Binary64.digits m :=
    List.append_cancel_left (List.append_cancel_right (List.append_cancel_right h))
  have hread := congrArg Json.natural? hdigits
  rwa [Binary64.digits, Binary64.digits, Json.natural?_toDigits, Json.natural?_toDigits,
    Option.some.injEq] at hread

/-- What is said first about a graph. -/
def hintOf (g : Graph) : List Output :=
  if g.nodes.isEmpty then emptyHint else []

/-- Where an export goes. -/
def outputOf (t : FileTree) (r : ExportRequest) (format : ExportFormat) : Path :=
  r.output.getD (defaultOutput t r.workspace format)

/-- The text of an export. -/
def exportText (settings : Settings) (r : ExportRequest) (format : ExportFormat) (g : Graph) :
    List Char :=
  g.exported format r.focus (Setting.chosen r.layout settings.layout)
    (Setting.chosen r.nodeSize settings.nodeSize)

/-- An export of a graph that has left a text in a file and tells a number of types at its end. -/
structure Leaves (report : Report) (g : Graph) (output : Path) (text : List Char) (types : Nat) :
    Prop where
  file : ∃ mode, report.files.find? output = some (.file (Utf8.encode text) mode)
  outputs : report.outputs = hintOf g ++ [.plain (exportedLine types output)]
  ending : report.ending = .done

section Reports

variable {escape : List Char → List Char} {settings : Settings} {t : FileTree} {r : ExportRequest}
  {format : ExportFormat} {g : Graph} {p : Provider}

lemma leaves_or_fault (hcheck : checkExport r = .ok format)
    (hload : loadTypes settings t r.workspace r.suffix = .ok (g, p)) :
    Leaves (exportGraph escape settings t r) g (outputOf t r format)
        (exportText settings r format g) g.nodes.length ∨
      ∃ fault, t.writeText (outputOf t r format) (exportText settings r format g) = .error fault ∧
        exportGraph escape settings t r = ⟨t, hintOf g, .file fault⟩ := by
  cases hwrite : t.writeText (outputOf t r format) (exportText settings r format g) with
  | error fault =>
    refine .inr ⟨fault, rfl, ?_⟩
    rw [outputOf, exportText] at hwrite
    simp only [exportGraph, hcheck, hload, hwrite, hintOf]
  | ok t' =>
    have hfile := FileTree.find?_of_write hwrite
    rw [outputOf, exportText] at hwrite
    have hreport : exportGraph escape settings t r =
        ⟨t', hintOf g ++ [.plain (exportedLine g.nodes.length (outputOf t r format))], .done⟩ := by
      simp only [exportGraph, hcheck, hload, hwrite, outputOf, hintOf]
    rw [hreport]
    exact .inl ⟨hfile, rfl, rfl⟩

end Reports

/-- What an export tells about its file, for every workspace that loads. The file holds the focused
graph, and a reader finds as many types in it as that has nodes. The line at the end counts the
whole graph. It is the line about the file exactly if the focus hides nothing. -/
theorem exportGraph_counts_whole (escape : List Char → List Char) (settings : Settings)
    (t : FileTree) (r : ExportRequest) (format : ExportFormat) (g : Graph) (p : Provider)
    (hcheck : checkExport r = .ok format)
    (hload : loadTypes settings t r.workspace r.suffix = .ok (g, p)) :
    let report := exportGraph escape settings t r
    let output := outputOf t r format
    let text := exportText settings r format g
    let shown := g.focus r.focus
    (Leaves report g output text g.nodes.length ∨
      ∃ fault, t.writeText output text = .error fault ∧ report = ⟨t, hintOf g, .file fault⟩) ∧
    (format.Carries shown → format.typesIn? text = some shown.nodes.length) ∧
    (¬ format.Carries shown → format.typesIn? text = none) ∧
    shown.nodes.length ≤ g.nodes.length ∧
    (exportedLine g.nodes.length output = exportedLine shown.nodes.length output ↔
      r.focus = "" ∨ (∀ v ∈ g.nodes, Graph.GraphNode.mentions r.focus v = false) ∨
        ∀ v ∈ g.nodes, g.Near r.focus v.id) := by
  intro report output text shown
  obtain ⟨hcarried, hbroken⟩ := g.typesIn?_exported format r.focus
    (Setting.chosen r.layout settings.layout) (Setting.chosen r.nodeSize settings.nodeSize)
  refine ⟨leaves_or_fault hcheck hload, hcarried, hbroken,
    (Graph.focus_sublist g r.focus).1.length_le, ?_⟩
  rw [← g.length_focus_iff r.focus]
  constructor
  · exact fun h => (exportedLine_inj h).symm
  · intro h
    rw [← h]

/-- A workspace with two types that have nothing to do with each other. -/
def pairFiles : FileTree :=
  ((FileTree.bare ["w"]).put ["w", ".tactica"] (.directory .full)).put
    ["w", ".tactica", "types.ts"] (.file (Utf8.encode
      "export type AInstance = \x7b\n\x7d;\nexport type BInstance = \x7b\n\x7d;\n".toList) .full)

/-- An export of the one of them. -/
def pairRequest : ExportRequest :=
  ⟨⟨.relative, []⟩, "json", some ⟨.relative, ["out"]⟩, "A", none, none, none⟩

/-- The line tells of two types, and the file holds one. -/
theorem exportGraph_counts_whole_pair :
    ∃ g text, Leaves (exportGraph id (.ofTable Setting.defaults) pairFiles pairRequest) g
        ⟨.relative, ["out"]⟩ text 2 ∧ ExportFormat.json.typesIn? text = some 1 := by
  have hname : ExportFormat.ofName? (String.ofList ("json".toList.map Char.toLower)) =
      some .json := by
    decide +kernel
  have hcheck : checkExport pairRequest = .ok .json := by
    rw [checkExport, formatOf, pairRequest, hname]
    rfl
  have hlengths : (loadTypes (.ofTable Setting.defaults) pairFiles ⟨.relative, []⟩
      none).toOption.map (fun (g, _) => (g.nodes.length, (g.focus "A").nodes.length)) =
        some (2, 1) := by
    decide +kernel
  cases hload : loadTypes (.ofTable Setting.defaults) pairFiles ⟨.relative, []⟩ none with
  | error fault => simp [hload, Except.toOption] at hlengths
  | ok loaded =>
    obtain ⟨g, p⟩ := loaded
    simp only [hload, Except.toOption, Option.map_some, Option.some.injEq,
      Prod.mk.injEq] at hlengths
    obtain ⟨hwhole, hshown⟩ := hlengths
    obtain ⟨hleaves, hcarried, -⟩ := exportGraph_counts_whole id (.ofTable Setting.defaults)
      pairFiles pairRequest .json g p hcheck hload
    have hcarries := ExportFormat.carries_of_ne (by decide : ExportFormat.json ≠ .dot) (g.focus "A")
    refine ⟨g, _, ?_, (hcarried hcarries).trans (congrArg some hshown)⟩
    obtain hleaves | ⟨fault, hfault, -⟩ := hleaves
    · rwa [hwhole] at hleaves
    · -- The file can be written, whatever the text is.
      have hwrite : ∀ text, pairFiles.writeText ⟨.relative, ["out"]⟩ text =
          .ok (pairFiles.put ["w", "out"] (.file (Utf8.encode text) .full)) := fun _ => rfl
      cases (hwrite _).symm.trans hfault

end Command

end TypeLineage
