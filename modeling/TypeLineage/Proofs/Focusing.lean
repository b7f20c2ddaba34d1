import Mathlib.Data.List.Nodup
import Mathlib.Logic.Relation
import Mathlib.Tactic.Common
import TypeLineage.Graph.Focus
import TypeLineage.Proofs.Ancestry
import TypeLineage.Proofs.Forest
import TypeLineage.Proofs.Linking
import TypeLineage.Proofs.Text

/-!
# Focusing the graph of a hierarchy

The identifier of a type holds those of all its ancestors, so what mentions a text is mentioned again
by everything below it. Focusing the graph of linked declarations therefore keeps whole subtrees, each
with the node right above it.
-/

namespace TypeLineage

namespace Graph

open Hierarchy Relation Text

/-- The graph is a forest in which the identifier of a node holds its name and the identifier above
it. -/
structure Nested (g : Graph) : Prop where
  forest : g.IsForest
  name_infix : ∀ v ∈ g.nodes, v.name.toList <:+: v.id.toList
  source_infix : ∀ e ∈ g.links, e.source.toList <:+: e.target.toList

/-- What focusing a graph on a text keeps: the nodes that mention the text, with all that lies below
them and the nodes right above them, and the links that lead to nodes that mention it. -/
structure KeepsSubtrees (text : String) (g shown : Graph) : Prop where
  downward : ∀ v ∈ g.nodes, GraphNode.mentions text v = true → ∀ w ∈ g.nodes,
    ReflTransGen g.Linked v.id w.id → GraphNode.mentions text w = true
  nodes_eq : shown.nodes = g.nodes.filter fun v => GraphNode.mentions text v = true ∨
    ∃ w ∈ g.nodes, GraphNode.mentions text w = true ∧ g.Linked v.id w.id
  links_eq : shown.links = g.links.filter fun e =>
    ∃ w ∈ g.nodes, GraphNode.mentions text w = true ∧ w.id = e.target
  targets : shown.links.map (·.target) =
    (g.nodes.filter fun v => GraphNode.mentions text v = true ∧ 0 < v.depth).map (·.id)
  ends_shown : ∀ e ∈ shown.links,
    (∃ u ∈ shown.nodes, u.id = e.source) ∧ ∃ v ∈ shown.nodes, v.id = e.target
  ids_nodup : (shown.nodes.map (·.id)).Nodup
  forest : shown.LinksFormForest
  unmatched_top : ∀ v ∈ shown.nodes, GraphNode.mentions text v = false →
    ∀ a, ¬ shown.Linked a v.id

section Focused

variable {g : Graph} {text : String} {v w : GraphNode}

lemma mentions_iff :
    GraphNode.mentions text v = true ↔
      text.toList <:+: v.id.toList ∨ text.toList <:+: v.name.toList := by
  rw [GraphNode.mentions, Bool.or_eq_true, occursIn_iff, occursIn_iff]

namespace Nested

lemma mentions_iff_infix (hg : g.Nested) (hv : v ∈ g.nodes) :
    GraphNode.mentions text v = true ↔ text.toList <:+: v.id.toList := by
  rw [mentions_iff]
  exact ⟨fun h => h.elim id fun h => h.trans (hg.name_infix v hv), .inl⟩

lemma id_infix (hg : g.Nested) {a b : String} (hab : ReflTransGen g.Linked a b) :
    a.toList <:+: b.toList := by
  induction hab with
  | refl => exact List.infix_refl _
  | tail _ hbc ih => exact ih.trans (hg.source_infix _ hbc)

lemma mentions_below (hg : g.Nested) (hv : v ∈ g.nodes) (hw : w ∈ g.nodes)
    (hm : GraphNode.mentions text v = true) (hvw : ReflTransGen g.Linked v.id w.id) :
    GraphNode.mentions text w = true := by
  rw [hg.mentions_iff_infix hv] at hm
  exact (hg.mentions_iff_infix hw).mpr (hm.trans (hg.id_infix hvw))

lemma linksAt_eq (hg : g.Nested) (text : String) :
    g.linksAt ((g.nodes.filter (GraphNode.mentions text)).map (·.id)) =
      g.links.filter fun e => ∃ w ∈ g.nodes, GraphNode.mentions text w = true ∧ w.id = e.target := by
  refine List.filter_congr fun e he => ?_
  obtain ⟨u, hu, v, hv, hsource, htarget, -⟩ := hg.forest.exists_ends (a := e.source) he
  rw [Bool.eq_iff_iff]
  simp only [Bool.or_eq_true, List.contains_iff_mem, List.mem_map, List.mem_filter, and_assoc,
    decide_eq_true_eq]
  constructor
  · -- A source that mentions the text has a target that does, too.
    rintro (⟨w, hw, hm, hid⟩ | h)
    · obtain rfl := hg.forest.eq_of_id hw hu (hid.trans hsource.symm)
      have hlink : g.Linked w.id v.id := by rwa [hsource, htarget]
      exact ⟨v, hv, hg.mentions_below hw hv hm (.single hlink), htarget⟩
    · exact h
  · exact .inr

lemma focus_eq (htext : text ≠ "") (hfound : ∃ v ∈ g.nodes, GraphNode.mentions text v = true) :
    g.focus text =
      let ids := (g.nodes.filter (GraphNode.mentions text)).map (·.id)
      ⟨g.nodes.filter fun v =>
          (ids ++ (g.linksAt ids).flatMap fun e => [e.source, e.target]).contains v.id,
        g.linksAt ids⟩ := by
  obtain ⟨v, hv, hm⟩ := hfound
  have hids : (g.nodes.filter (GraphNode.mentions text)).map (·.id) ≠ [] :=
    List.ne_nil_of_mem (List.mem_map_of_mem (List.mem_filter.mpr ⟨hv, hm⟩))
  rw [focus, if_neg]
  simpa [htext] using hids

section InForce

variable (hg : g.Nested) (htext : text ≠ "")
  (hfound : ∃ v ∈ g.nodes, GraphNode.mentions text v = true) {a b : String}

include hg htext hfound

lemma focus_links : (g.focus text).links = g.links.filter fun e =>
    ∃ w ∈ g.nodes, GraphNode.mentions text w = true ∧ w.id = e.target := by
  rw [focus_eq htext hfound]
  exact hg.linksAt_eq text

lemma linked_focus_iff : (g.focus text).Linked a b ↔
    g.Linked a b ∧ ∃ w ∈ g.nodes, GraphNode.mentions text w = true ∧ w.id = b := by
  simp [Linked, hg.focus_links htext hfound]

lemma focus_nodes : (g.focus text).nodes = g.nodes.filter fun v =>
    GraphNode.mentions text v = true ∨
      ∃ w ∈ g.nodes, GraphNode.mentions text w = true ∧ g.Linked v.id w.id := by
  rw [focus_eq htext hfound]
  refine List.filter_congr fun v hv => ?_
  rw [hg.linksAt_eq, Bool.eq_iff_iff]
  simp only [List.contains_iff_mem, List.mem_append, List.mem_map, List.mem_filter,
    List.mem_flatMap, List.mem_cons, List.not_mem_nil, or_false, decide_eq_true_eq]
  constructor
  · rintro (⟨w, ⟨hw, hm⟩, hid⟩ | ⟨⟨a, b⟩, ⟨he, w, hw, hm, rfl⟩, rfl | hid⟩)
    · exact .inl (hg.forest.eq_of_id hw hv hid ▸ hm)
    · exact .inr ⟨w, hw, hm, he⟩
    · exact .inl (hg.forest.eq_of_id hw hv hid.symm ▸ hm)
  · rintro (hm | ⟨w, hw, hm, hvw⟩)
    · exact .inl ⟨v, ⟨hv, hm⟩, rfl⟩
    · exact .inr ⟨⟨v.id, w.id⟩, ⟨hvw, w, hw, hm, rfl⟩, .inl rfl⟩

lemma mem_focus_nodes : v ∈ (g.focus text).nodes ↔ v ∈ g.nodes ∧
    (GraphNode.mentions text v = true ∨
      ∃ w ∈ g.nodes, GraphNode.mentions text w = true ∧ g.Linked v.id w.id) := by
  simp [hg.focus_nodes htext hfound]

lemma focus_targets : (g.focus text).links.map (·.target) =
    (g.nodes.filter fun v => GraphNode.mentions text v = true ∧ 0 < v.depth).map (·.id) :=
  calc (g.focus text).links.map (·.target)
      = (g.links.map (·.target)).filter fun id =>
          ∃ w ∈ g.nodes, GraphNode.mentions text w = true ∧ w.id = id := by
        rw [hg.focus_links htext hfound, List.filter_map]
        rfl
    _ = ((g.nodes.filter (0 < ·.depth)).filter fun v =>
          ∃ w ∈ g.nodes, GraphNode.mentions text w = true ∧ w.id = v.id).map (·.id) := by
        rw [hg.forest.targets, List.filter_map]
        rfl
    _ = (g.nodes.filter fun v => GraphNode.mentions text v = true ∧ 0 < v.depth).map (·.id) := by
        rw [List.filter_filter]
        refine congrArg _ (List.filter_congr fun v hv => ?_)
        rw [Bool.eq_iff_iff]
        simp only [Bool.and_eq_true, decide_eq_true_eq]
        refine and_congr_left' ⟨?_, fun hm => ⟨v, hv, hm, rfl⟩⟩
        rintro ⟨w, hw, hm, hid⟩
        exact hg.forest.eq_of_id hw hv hid ▸ hm

lemma focus_ends_shown (hab : (g.focus text).Linked a b) :
    (∃ u ∈ (g.focus text).nodes, u.id = a) ∧ ∃ v ∈ (g.focus text).nodes, v.id = b := by
  obtain ⟨hlink, w, hw, hm, rfl⟩ := (hg.linked_focus_iff htext hfound).mp hab
  obtain ⟨u, hu, -, -, rfl, -⟩ := hg.forest.exists_ends hlink
  refine ⟨⟨u, (hg.mem_focus_nodes htext hfound).mpr ⟨hu, .inr ⟨w, hw, hm, hlink⟩⟩, rfl⟩, ?_⟩
  exact ⟨w, (hg.mem_focus_nodes htext hfound).mpr ⟨hw, .inl hm⟩, rfl⟩

/-- Focusing keeps whole subtrees of a nested graph. -/
theorem keepsSubtrees : KeepsSubtrees text g (g.focus text) where
  downward _ hv hm _ hw := hg.mentions_below hv hw hm
  nodes_eq := hg.focus_nodes htext hfound
  links_eq := hg.focus_links htext hfound
  targets := hg.focus_targets htext hfound
  ends_shown _ he := hg.focus_ends_shown htext hfound he
  ids_nodup := by
    rw [hg.focus_nodes htext hfound]
    exact hg.forest.ids_nodup.sublist (List.filter_sublist.map _)
  forest := by
    refine hg.forest.linksFormForest.of_subset ?_
    rw [hg.focus_links htext hfound]
    exact List.filter_subset_self _
  unmatched_top := by
    intro v hv hm a ha
    obtain ⟨-, w, hw, hmw, hid⟩ := (hg.linked_focus_iff htext hfound).mp ha
    obtain rfl := hg.forest.eq_of_id hw ((hg.mem_focus_nodes htext hfound).mp hv).1 hid
    simp [hmw] at hm

end InForce

end Nested

end Focused

section Declared

open Declaration

lemma toList_dotted_concat {names : List String} (hne : names ≠ []) (n : String) :
    (dotted (names ++ [n])).toList = (dotted names).toList ++ '.' :: n.toList := by
  induction names with
  | nil => exact absurd rfl hne
  | cons m names ih =>
    cases names with
    | nil => simp [dotted]
    | cons k names =>
      have ih := ih (by simp)
      simp only [dotted, String.toList_intercalate, List.cons_append, List.map_cons,
        List.intercalate_cons_cons] at ih ⊢
      rw [ih]
      simp

variable {ds : List Declaration}

/-- The graph of linked declarations is nested: the path of a type holds the names of its lineage. -/
theorem link_nested (hnames : (ds.map (·.name)).Nodup) (hdots : ∀ d ∈ ds, '.' ∉ d.name.toList)
    (file : Option String) (suffix : String) (inherit : Bool) :
    (ofHierarchy (link ds file suffix) inherit).Nested := by
  obtain ⟨cs, hcs⟩ := link_shows_lineages file suffix inherit hnames hdots
  refine ⟨ofHierarchy_isForest _ inherit, ?_, ?_⟩
  · intro v hv
    rw [hcs.nodes_eq] at hv
    obtain ⟨⟨as, d⟩, -, rfl⟩ := List.mem_map.mp hv
    cases as with
    | nil => simp [Lineage.graphNode, Lineage.chain, dotted]
    | cons a as =>
      rw [Lineage.graphNode, Lineage.chain, List.map_append, List.map_singleton,
        toList_dotted_concat (by simp)]
      exact ⟨(dotted ((a :: as).map (·.name))).toList ++ ['.'], [], by simp⟩
  · intro e he
    rw [hcs.links_eq] at he
    obtain ⟨⟨as, d⟩, -, hlink⟩ := List.mem_filterMap.mp he
    rw [Lineage.graphLink?] at hlink
    split at hlink
    · cases hlink
    · rename_i hne
      obtain rfl := Option.some.inj hlink
      rw [Lineage.chain, List.map_append, List.map_singleton,
        toList_dotted_concat (by simpa using hne)]
      exact (List.prefix_append _ _).isInfix

/-- Focusing the graph of linked declarations on a text that some node mentions keeps whole
subtrees. -/
theorem focus_keeps_subtrees (ds : List Declaration) (hnames : (ds.map (·.name)).Nodup)
    (hdots : ∀ d ∈ ds, '.' ∉ d.name.toList) (file : Option String) (suffix : String)
    (inherit : Bool) (text : String) (htext : text ≠ "")
    (hfound : ∃ v ∈ (ofHierarchy (link ds file suffix) inherit).nodes,
      GraphNode.mentions text v = true) :
    KeepsSubtrees text (ofHierarchy (link ds file suffix) inherit)
      ((ofHierarchy (link ds file suffix) inherit).focus text) :=
  (link_nested hnames hdots file suffix inherit).keepsSubtrees htext hfound

/-- Two types whose names begin with an `X`, one below the other's sibling. -/
def crossing : List Declaration :=
  [⟨"A", none, [], 1, ""⟩, ⟨"B", some "A", [], 2, ""⟩, ⟨"X1", some "A", [], 3, ""⟩,
    ⟨"X2", some "B", [], 4, ""⟩, ⟨"C", some "A", [], 5, ""⟩]

theorem focus_keeps_subtrees_crossing :
    (crossing.map (·.name)).Nodup ∧ (∀ d ∈ crossing, '.' ∉ d.name.toList) ∧
    (∃ v ∈ (ofHierarchy (link crossing none "") true).nodes,
      GraphNode.mentions "X" v = true) ∧
    KeepsSubtrees "X" (ofHierarchy (link crossing none "") true)
      ((ofHierarchy (link crossing none "") true).focus "X") ∧
    ((ofHierarchy (link crossing none "") true).focus "X").nodes.map (·.id) =
      ["A", "A.B", "A.B.X2", "A.X1"] := by
  have hnames : (crossing.map (·.name)).Nodup := by decide
  have hdots : ∀ d ∈ crossing, '.' ∉ d.name.toList := by decide
  have hfound : ∃ v ∈ (ofHierarchy (link crossing none "") true).nodes,
      GraphNode.mentions "X" v = true := by
    decide +kernel
  exact ⟨hnames, hdots, hfound,
    focus_keeps_subtrees crossing hnames hdots none "" true "X" (by decide) hfound,
    by decide +kernel⟩

end Declared

end Graph

end TypeLineage
