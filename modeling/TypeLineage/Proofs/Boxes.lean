import Mathlib.Data.List.Induction
import Mathlib.Data.List.Perm.Basic
import Mathlib.Data.List.Nodup
import Mathlib.Tactic.Common
import TypeLineage.Proofs.Ancestry
import TypeLineage.Proofs.Linking

/-!
# Boxes of the cluster layout

A box is a subgraph of the cluster layout: a topmost ancestor with the nodes below it. The boxes of a
graph divide its nodes among them, and the cluster layout writes the statements of the tree layout,
box by box.
-/

namespace TypeLineage

namespace Dot

/-- A subgraph with its label and its nodes. -/
structure Box where
  label : String
  members : List GraphNode

/-- The lines of the box at an index. Its node statements are those of other layouts, indented by two
more columns. -/
def Box.lines (nodeSize : String) (index : Nat) (b : Box) : List (List Char) :=
  ["  subgraph cluster_".toList ++ Binary64.digits index ++ [' ', '\x7b'],
   "    label=".toList ++ string b.label.toList ++ [';']] ++
  b.members.map (fun v => ' ' :: ' ' :: nodeLine nodeSize v) ++ [[' ', ' ', '\x7d']]

/-- The lines of boxes, one box after the other. -/
def boxLines (nodeSize : String) (bs : List Box) : List (List Char) :=
  bs.zipIdx.flatMap fun (b, index) => b.lines nodeSize index

/-- The text of a graph that is laid out in ranks, with the given lines for its nodes. -/
def ranked (nodeLines : List (List Char)) (g : Graph) : List Char :=
  Text.unlines (["digraph TypeGraph ".toList ++ ['\x7b'], "  rankdir=TB;".toList] ++ nodeLines ++
    g.links.map linkLine ++ [['\x7d']])

/-- The boxes of a graph, in the order of their first nodes. -/
def boxes (g : Graph) : List Box :=
  (tops (placed g)).map fun top => ⟨top, g.nodes.filter (g.topmost ·.id = top)⟩

/-- The boxes divide the nodes of a graph by their topmost ancestors. No box is empty, each node is in
one box, and the nodes of a box keep their order. -/
structure Divide (g : Graph) (bs : List Box) : Prop where
  members_eq : ∀ b ∈ bs, b.members = g.nodes.filter (g.topmost ·.id = b.label)
  members_ne_nil : ∀ b ∈ bs, b.members ≠ []
  labels_nodup : (bs.map (·.label)).Nodup
  exactly_one : ∀ v ∈ g.nodes, ∃! b, b ∈ bs ∧ v ∈ b.members
  perm : (bs.flatMap (·.members)).Perm g.nodes

lemma tops_concat (placed : List (GraphNode × String)) (p : GraphNode × String) :
    tops (placed ++ [p]) =
      if p.2 ∈ tops placed then tops placed else tops placed ++ [p.2] := by
  simp [tops]

lemma mem_tops {placed : List (GraphNode × String)} {top : String} :
    top ∈ tops placed ↔ top ∈ placed.map (·.2) := by
  induction placed using List.reverseRecOn with
  | nil => simp [tops]
  | append_singleton placed p ih =>
    rw [tops_concat, List.map_append, List.mem_append, ← ih]
    split
    · rename_i hfound
      simp only [List.map_singleton, List.mem_singleton]
      exact ⟨.inl, fun h => h.elim id fun h => h ▸ hfound⟩
    · simp

lemma nodup_tops (placed : List (GraphNode × String)) : (tops placed).Nodup := by
  induction placed using List.reverseRecOn with
  | nil => exact List.nodup_nil
  | append_singleton placed p ih =>
    rw [tops_concat]
    split
    · exact ih
    · rename_i hnew
      exact List.nodup_append_comm.mp (List.nodup_cons.mpr ⟨hnew, ih⟩)

/-- The groups of a list by a key, for distinct keys that cover it, make up the list again. -/
lemma flatMap_filter_perm {α : Type} (key : α → String) {keys : List String} (hkeys : keys.Nodup)
    {l : List α} (hl : ∀ x ∈ l, key x ∈ keys) :
    (keys.flatMap fun k => l.filter (key · = k)).Perm l := by
  induction keys generalizing l with
  | nil =>
    obtain rfl : l = [] := List.eq_nil_iff_forall_not_mem.mpr fun x hx => by simpa using hl x hx
    exact .refl _
  | cons k keys ih =>
    obtain ⟨hk, hkeys⟩ := List.nodup_cons.mp hkeys
    have hothers : (keys.flatMap fun k' => l.filter (key · = k')) =
        keys.flatMap fun k' => (l.filter fun x => !decide (key x = k)).filter (key · = k') := by
      refine List.flatMap_congr fun k' hk' => ?_
      rw [List.filter_filter]
      refine List.filter_congr fun x _ => ?_
      have hne : k' ≠ k := fun h => hk (h ▸ hk')
      by_cases hx : key x = k' <;> simp [hx, hne]
    have hrest := ih hkeys (l := l.filter fun x => !decide (key x = k)) fun x hx => by
      have hx := List.mem_filter.mp hx
      have hne : key x ≠ k := by simpa using hx.2
      exact (List.mem_cons.mp (hl x hx.1)).resolve_left hne
    rw [List.flatMap_cons, hothers]
    exact (hrest.append_left _).trans (List.filter_append_perm _ _)

lemma nodeLines_cluster (nodeSize : String) (g : Graph) :
    nodeLines .cluster nodeSize g = boxLines nodeSize (boxes g) := by
  have hlines : ∀ top index, clusterLines (placed g) nodeSize index top =
      Box.lines nodeSize index ⟨top, g.nodes.filter (g.topmost ·.id = top)⟩ := by
    intro top index
    rw [clusterLines, Box.lines, placed_eq, List.filter_map, List.map_map]
    rfl
  simp only [nodeLines, boxLines, boxes, List.zipIdx_map, List.flatMap_map, hlines]
  rfl

lemma tops_placed_mem {g : Graph} {v : GraphNode} (hv : v ∈ g.nodes) :
    g.topmost v.id ∈ tops (placed g) := by
  rw [mem_tops, placed_eq, List.map_map]
  exact List.mem_map.mpr ⟨v, hv, rfl⟩

theorem divide_boxes (g : Graph) : Divide g (boxes g) where
  members_eq := by simp [boxes]
  members_ne_nil := by
    intro b hb
    obtain ⟨top, htop, rfl⟩ := List.mem_map.mp hb
    rw [mem_tops, placed_eq, List.map_map] at htop
    obtain ⟨v, hv, rfl⟩ := List.mem_map.mp htop
    exact List.ne_nil_of_mem (List.mem_filter.mpr ⟨hv, by simp⟩)
  labels_nodup := by
    simpa [boxes, Function.comp_def] using nodup_tops (placed g)
  exactly_one := by
    intro v hv
    refine ⟨⟨g.topmost v.id, g.nodes.filter (g.topmost ·.id = g.topmost v.id)⟩, ⟨?_, ?_⟩, ?_⟩
    · exact List.mem_map.mpr ⟨_, tops_placed_mem hv, rfl⟩
    · exact List.mem_filter.mpr ⟨hv, by simp⟩
    · rintro b ⟨hb, hmem⟩
      obtain ⟨top, -, rfl⟩ := List.mem_map.mp hb
      obtain rfl : g.topmost v.id = top := by simpa using (List.mem_filter.mp hmem).2
      rfl
  perm := by
    rw [boxes, List.flatMap_map]
    exact flatMap_filter_perm _ (nodup_tops _) fun v hv => tops_placed_mem hv

section Sharing

variable {g : Graph} {bs : List Box} {v w : GraphNode}

lemma Divide.label_eq (hd : Divide g bs) {b : Box} (hb : b ∈ bs) (hv : v ∈ b.members) :
    g.topmost v.id = b.label := by
  rw [hd.members_eq b hb] at hv
  simpa using (List.mem_filter.mp hv).2

lemma Divide.share_iff (hd : Divide g bs) (hv : v ∈ g.nodes) (hw : w ∈ g.nodes) :
    (∃ b ∈ bs, v ∈ b.members ∧ w ∈ b.members) ↔ g.topmost v.id = g.topmost w.id := by
  constructor
  · rintro ⟨b, hb, hvb, hwb⟩
    rw [hd.label_eq hb hvb, hd.label_eq hb hwb]
  · intro htop
    obtain ⟨b, ⟨hb, hvb⟩, -⟩ := hd.exactly_one v hv
    refine ⟨b, hb, hvb, ?_⟩
    rw [hd.members_eq b hb, List.mem_filter, ← htop, hd.label_eq hb hvb]
    exact ⟨hw, by simp⟩

end Sharing

end Dot

namespace Graph

open Dot Hierarchy Relation Text

lemma dotExport_tree (g : Graph) (focusText nodeSize : String) :
    g.dotExport focusText .tree nodeSize =
      ranked ((g.focus focusText).nodes.map (nodeLine nodeSize)) (g.focus focusText) :=
  rfl

lemma dotExport_cluster (g : Graph) (focusText nodeSize : String) :
    g.dotExport focusText .cluster nodeSize =
      ranked (boxLines nodeSize (boxes (g.focus focusText))) (g.focus focusText) := by
  rw [dotExport, statements, nodeLines_cluster]
  rfl

/-- The cluster layout only regroups. For every graph the walks to the topmost ancestors end. The text
has the node statements of the tree layout, divided among boxes and indented, and then the same link
statements. Where the links that are written form a forest, two nodes share a box exactly if the links
connect them. -/
theorem cluster_regroups (g : Graph) (focusText nodeSize : String) :
    let shown := g.focus focusText
    (∀ id top, Ascends shown.parentOf? [id] id top ↔ top = shown.topmost id) ∧
    g.dotExport focusText .tree nodeSize = ranked (shown.nodes.map (nodeLine nodeSize)) shown ∧
    ∃ bs, Divide shown bs ∧
      g.dotExport focusText .cluster nodeSize = ranked (boxLines nodeSize bs) shown ∧
      (shown.LinksFormForest → ∀ v ∈ shown.nodes, ∀ w ∈ shown.nodes,
        ((∃ b ∈ bs, v ∈ b.members ∧ w ∈ b.members) ↔ EqvGen shown.Linked v.id w.id)) := by
  intro shown
  have hd := divide_boxes shown
  refine ⟨fun id top => ascends_iff_topmost, dotExport_tree g focusText nodeSize, boxes shown, hd,
    dotExport_cluster g focusText nodeSize, ?_⟩
  intro hforest v hv w hw
  rw [hd.share_iff hv hw, hforest.topmost_eq_iff]

theorem cluster_regroups_tangled :
    (ofHierarchy (link tangled none "User") true).LinksFormForest ∧
    ∃ bs, Divide (ofHierarchy (link tangled none "User") true) bs ∧
      ∀ v ∈ (ofHierarchy (link tangled none "User") true).nodes,
        ∀ w ∈ (ofHierarchy (link tangled none "User") true).nodes,
          ((∃ b ∈ bs, v ∈ b.members ∧ w ∈ b.members) ↔
            EqvGen (ofHierarchy (link tangled none "User") true).Linked v.id w.id) := by
  have hforest := (ofHierarchy_isForest (link tangled none "User") true).linksFormForest
  obtain ⟨-, -, bs, hdivide, -, hshare⟩ :=
    cluster_regroups (ofHierarchy (link tangled none "User") true) "" "uniform"
  exact ⟨hforest, bs, hdivide, hshare hforest⟩

end Graph

end TypeLineage
