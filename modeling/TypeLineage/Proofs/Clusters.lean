import Mathlib.Logic.Relation
import Mathlib.Tactic.Common
import TypeLineage.Proofs.Boxes
import TypeLineage.Proofs.Focusing

/-!
# Clusters of a focused hierarchy

The cluster layout looks for topmost ancestors along the links that the focus has kept. A node that is
shown only as the parent of a match has lost its own link. So the boxes tell the topmost ancestors that
are shown, as the whole hierarchy has them, exactly if no such node lies below another shown node.
-/

namespace TypeLineage

namespace Graph

open Hierarchy Relation Text

/-- Some nodes and links of a graph, with the ends of the links. -/
structure IsPart (g shown : Graph) : Prop where
  nodes_subset : shown.nodes ⊆ g.nodes
  links_subset : shown.links ⊆ g.links
  source_shown : ∀ {a b : String}, shown.Linked a b → ∃ u ∈ shown.nodes, u.id = a

/-- The topmost of the ancestors that are shown, the node itself among them. Ancestors are those of the
whole graph. -/
structure IsTopmostShown (g shown : Graph) (top id : String) : Prop where
  among : ∃ u ∈ shown.nodes, u.id = top
  above : ReflTransGen g.Linked top id
  topmost : ∀ u ∈ shown.nodes, ReflTransGen g.Linked u.id id → ReflTransGen g.Linked top u.id

/-- Every shown node that lies below another shown node has kept the link that leads to it. -/
def KeepsTies (g shown : Graph) : Prop :=
  ∀ u ∈ shown.nodes, ∀ v ∈ shown.nodes, TransGen g.Linked u.id v.id → ∃ a, shown.Linked a v.id

section Parts

variable {g shown : Graph} {a b id top : String} {v w : GraphNode}

lemma IsPart.above (hp : g.IsPart shown) (hab : ReflTransGen shown.Linked a b) :
    ReflTransGen g.Linked a b :=
  ReflTransGen.mono (fun _ _ h => hp.links_subset h) _ _ hab

lemma IsPart.forest (hp : g.IsPart shown) (hg : g.LinksFormForest) : shown.LinksFormForest :=
  hg.of_subset hp.links_subset

lemma IsPart.topmost_shown (hp : g.IsPart shown) (hv : v ∈ shown.nodes) :
    ∃ u ∈ shown.nodes, u.id = shown.topmost v.id := by
  rcases (shown.topmost_reaches v.id).cases_head with heq | ⟨b, hlink, -⟩
  · exact ⟨v, hv, heq.symm⟩
  · exact hp.source_shown hlink

lemma IsTopmostShown.unique (hg : g.LinksFormForest) (ha : IsTopmostShown g shown a id)
    (hb : IsTopmostShown g shown b id) : a = b := by
  obtain ⟨u, hu, rfl⟩ := ha.among
  obtain ⟨w, hw, rfl⟩ := hb.among
  exact hg.eq_of_above (ha.topmost w hw hb.above) (hb.topmost u hu ha.above)

lemma IsTopmostShown.self (h : IsTopmostShown g shown top id) : IsTopmostShown g shown top top where
  among := h.among
  above := .refl
  topmost u hu habove := h.topmost u hu (habove.trans h.above)

lemma LinksFormForest.exists_topmost_among (hg : g.LinksFormForest) (l : List GraphNode)
    (start : String) : ∃ m, (m = start ∨ ∃ u ∈ l, u.id = m) ∧ ReflTransGen g.Linked m start ∧
      ∀ u ∈ l, ReflTransGen g.Linked u.id start → ReflTransGen g.Linked m u.id := by
  induction l with
  | nil => exact ⟨start, .inl rfl, .refl, by simp⟩
  | cons u l ih =>
    obtain ⟨m, hm, hstart, hall⟩ := ih
    have hm' : m = start ∨ ∃ w ∈ u :: l, w.id = m :=
      hm.imp_right fun ⟨w, hw, hid⟩ => ⟨w, List.mem_cons_of_mem _ hw, hid⟩
    by_cases hu : ReflTransGen g.Linked u.id start
    · rcases hg.total hu hstart with hum | hmu
      · refine ⟨u.id, .inr ⟨u, List.mem_cons_self, rfl⟩, hu, fun w hw hws => ?_⟩
        rcases List.mem_cons.mp hw with rfl | hw
        · exact .refl
        · exact hum.trans (hall w hw hws)
      · refine ⟨m, hm', hstart, fun w hw hws => ?_⟩
        rcases List.mem_cons.mp hw with rfl | hw
        · exact hmu
        · exact hall w hw hws
    · refine ⟨m, hm', hstart, fun w hw hws => ?_⟩
      rcases List.mem_cons.mp hw with rfl | hw
      · exact absurd hws hu
      · exact hall w hw hws

lemma LinksFormForest.exists_isTopmostShown (hg : g.LinksFormForest) (hv : v ∈ shown.nodes) :
    ∃ top, IsTopmostShown g shown top v.id := by
  obtain ⟨m, hm, habove, hall⟩ := hg.exists_topmost_among shown.nodes v.id
  exact ⟨m, hm.elim (fun h => ⟨v, hv, h.symm⟩) id, habove, hall⟩

lemma KeepsTies.isTopmostShown (hties : KeepsTies g shown) (hg : g.LinksFormForest)
    (hp : g.IsPart shown) (hv : v ∈ shown.nodes) :
    IsTopmostShown g shown (shown.topmost v.id) v.id := by
  obtain ⟨t, ht, htid⟩ := hp.topmost_shown hv
  have habove := hp.above (shown.topmost_reaches v.id)
  refine ⟨⟨t, ht, htid⟩, habove, fun u hu huv => ?_⟩
  rcases hg.total habove huv with h | h
  · exact h
  · rcases reflTransGen_iff_eq_or_transGen.mp h with heq | hut
    · rw [heq]
    · obtain ⟨a, ha⟩ := hties u hu t ht (htid ▸ hut)
      exact absurd (htid ▸ ha) (((hp.forest hg).isTopOf_topmost v.id).no_parent a)

lemma keepsTies_of_isTopmostShown (hg : g.LinksFormForest) (hp : g.IsPart shown)
    (htop : ∀ v ∈ shown.nodes, IsTopmostShown g shown (shown.topmost v.id) v.id) :
    KeepsTies g shown := by
  intro u hu v hv huv
  by_contra hnone
  have hself : shown.topmost v.id = v.id :=
    (hp.forest hg).topmost_eq_iff_isTopOf.mpr ⟨.refl, not_exists.mp hnone⟩
  have hvu := (htop v hv).topmost u hu huv.to_reflTransGen
  rw [hself] at hvu
  exact hg.acyclic _ (huv.trans_left hvu)

lemma keepsTies_of_topmost_eq (hg : g.LinksFormForest) (hp : g.IsPart shown)
    (hsame : ∀ v ∈ shown.nodes, ∀ w ∈ shown.nodes, IsTopmostShown g shown w.id v.id →
      shown.topmost v.id = shown.topmost w.id) : KeepsTies g shown := by
  intro u hu v hv huv
  by_contra hnone
  have hself : shown.topmost v.id = v.id :=
    (hp.forest hg).topmost_eq_iff_isTopOf.mpr ⟨.refl, not_exists.mp hnone⟩
  obtain ⟨top, htop⟩ := hg.exists_isTopmostShown hv
  obtain ⟨w, hw, rfl⟩ := htop.among
  -- The walk from `w` would have to end at `v`, which lies below it.
  have hvw := shown.topmost_reaches w.id
  rw [← hsame v hv w hw htop, hself] at hvw
  have hwu := htop.topmost u hu huv.to_reflTransGen
  exact hg.acyclic _ (huv.trans_left ((hp.above hvw).trans hwu))

end Parts

end Graph

namespace Dot

open TypeLineage.Graph Relation

section Boxes

variable {g shown : Graph} {bs : List Box}

/-- The labels are the topmost ancestors that are shown exactly if no tie is lost. -/
theorem Divide.labels_topmost_iff (hd : Divide shown bs) (hg : g.LinksFormForest)
    (hp : g.IsPart shown) :
    (∀ b ∈ bs, ∀ v ∈ b.members, IsTopmostShown g shown b.label v.id) ↔ KeepsTies g shown := by
  constructor
  · intro hlabels
    refine keepsTies_of_isTopmostShown hg hp fun v hv => ?_
    obtain ⟨b, ⟨hb, hvb⟩, -⟩ := hd.exactly_one v hv
    rw [hd.label_eq hb hvb]
    exact hlabels b hb v hvb
  · intro hties b hb v hvb
    rw [← hd.label_eq hb hvb]
    refine hties.isTopmostShown hg hp ?_
    rw [hd.members_eq b hb] at hvb
    exact (List.mem_filter.mp hvb).1

/-- Nodes share a box exactly with those of the same topmost ancestor shown if no tie is lost, and only
then. -/
theorem Divide.shares_topmost_iff (hd : Divide shown bs) (hg : g.LinksFormForest)
    (hp : g.IsPart shown) :
    (∀ v ∈ shown.nodes, ∀ w ∈ shown.nodes, (∃ b ∈ bs, v ∈ b.members ∧ w ∈ b.members) ↔
      ∃ top, IsTopmostShown g shown top v.id ∧ IsTopmostShown g shown top w.id) ↔
    KeepsTies g shown := by
  constructor
  · intro hshare
    refine keepsTies_of_topmost_eq hg hp fun v hv w hw htop => ?_
    exact (hd.share_iff hv hw).mp ((hshare v hv w hw).mpr ⟨w.id, htop, htop.self⟩)
  · intro hties v hv w hw
    rw [hd.share_iff hv hw]
    have hv' := hties.isTopmostShown hg hp hv
    have hw' := hties.isTopmostShown hg hp hw
    constructor
    · exact fun heq => ⟨_, hv', heq ▸ hw'⟩
    · rintro ⟨top, hvtop, hwtop⟩
      rw [hv'.unique hg hvtop, hw'.unique hg hwtop]

end Boxes

end Dot

namespace Graph

open Declaration Dot Hierarchy Relation Text

section Focused

variable {g : Graph} {text : String}

lemma focus_cases (g : Graph) (text : String) :
    (text ≠ "" ∧ ∃ v ∈ g.nodes, GraphNode.mentions text v = true) ∨
      g.focus text = g ∧ (text = "" ∨ ¬ ∃ v ∈ g.nodes, GraphNode.mentions text v = true) := by
  by_cases hforce : text ≠ "" ∧ ∃ v ∈ g.nodes, GraphNode.mentions text v = true
  · exact .inl hforce
  · have hnot : text = "" ∨ ¬ ∃ v ∈ g.nodes, GraphNode.mentions text v = true :=
      (not_and_or.mp hforce).imp_left not_not.mp
    refine .inr ⟨?_, hnot⟩
    rw [focus, if_pos]
    refine hnot.imp (fun htext => by simp [htext]) fun hnone => ?_
    simpa using hnone

lemma mentions_empty (v : GraphNode) : GraphNode.mentions "" v = true :=
  mentions_iff.mpr (.inl List.nil_infix)

lemma keepsTies_self (g : Graph) : KeepsTies g g := by
  intro u _ v _ huv
  obtain ⟨a, -, ha⟩ := TransGen.tail'_iff.mp huv
  exact ⟨a, ha⟩

lemma Nested.focus_isPart (hg : g.Nested) (text : String) : g.IsPart (g.focus text) := by
  rcases focus_cases g text with ⟨htext, hfound⟩ | ⟨hself, -⟩
  · have hk := hg.keepsSubtrees htext hfound
    refine ⟨?_, ?_, fun hab => (hk.ends_shown _ hab).1⟩
    · rw [hk.nodes_eq]
      exact List.filter_subset_self _
    · rw [hk.links_eq]
      exact List.filter_subset_self _
  · rw [hself]
    refine ⟨List.Subset.refl _, List.Subset.refl _, fun hab => ?_⟩
    obtain ⟨u, hu, -, -, hid, -⟩ := hg.forest.exists_ends hab
    exact ⟨u, hu, hid⟩

/-- A tie is lost exactly where a node that does not mention the text of the focus is shown together with
an ancestor. -/
lemma Nested.keepsTies_focus_iff (hg : g.Nested) (text : String) :
    KeepsTies g (g.focus text) ↔
      ((∃ v ∈ g.nodes, GraphNode.mentions text v = true) →
        ∀ u ∈ (g.focus text).nodes, ∀ v ∈ (g.focus text).nodes,
          TransGen g.Linked u.id v.id → GraphNode.mentions text v = true) := by
  rcases focus_cases g text with ⟨htext, hfound⟩ | ⟨hself, hnot⟩
  · have hk := hg.keepsSubtrees htext hfound
    have hp := hg.focus_isPart text
    rw [KeepsTies, imp_iff_right hfound]
    refine forall₂_congr fun u hu => forall₂_congr fun v hv => forall_congr' fun huv => ?_
    constructor
    · rintro ⟨a, ha⟩
      by_contra hm
      exact hk.unmatched_top v hv (by simpa using hm) a ha
    · intro hm
      obtain ⟨a, -, ha⟩ := TransGen.tail'_iff.mp huv
      refine ⟨a, ?_⟩
      rw [Linked, hk.links_eq, List.mem_filter]
      exact ⟨ha, decide_eq_true ⟨v, hp.nodes_subset hv, hm, rfl⟩⟩
  · rw [hself]
    refine iff_of_true (keepsTies_self g) fun hfound u _ v _ _ => ?_
    obtain rfl := hnot.resolve_right (not_not.mpr hfound)
    exact mentions_empty v

end Focused

/-- The boxes of linked declarations under any focus. They are the parts that the kept links connect, and
each is labelled with its top. The labels are the topmost ancestors that are shown, by the links of the
whole graph, exactly if no node that does not mention the text is shown together with an ancestor; and
exactly then two nodes share a box if and only if they have the same topmost ancestor that is shown. -/
theorem clusters_of_any_focus (ds : List Declaration) (hnames : (ds.map (·.name)).Nodup)
    (hdots : ∀ d ∈ ds, '.' ∉ d.name.toList) (file : Option String) (suffix : String)
    (inherit : Bool) (focusText nodeSize : String) :
    let g := ofHierarchy (link ds file suffix) inherit
    let shown := g.focus focusText
    let together := (∃ v ∈ g.nodes, GraphNode.mentions focusText v = true) →
      ∀ u ∈ shown.nodes, ∀ v ∈ shown.nodes, TransGen g.Linked u.id v.id →
        GraphNode.mentions focusText v = true
    ∃ bs, Divide shown bs ∧
      g.dotExport focusText .cluster nodeSize = ranked (boxLines nodeSize bs) shown ∧
      (∀ b ∈ bs, ∀ v ∈ b.members, shown.IsTopOf b.label v.id) ∧
      (∀ v ∈ shown.nodes, ∀ w ∈ shown.nodes,
        ((∃ b ∈ bs, v ∈ b.members ∧ w ∈ b.members) ↔ EqvGen shown.Linked v.id w.id)) ∧
      ((∀ b ∈ bs, ∀ v ∈ b.members, IsTopmostShown g shown b.label v.id) ↔ together) ∧
      ((∀ v ∈ shown.nodes, ∀ w ∈ shown.nodes, (∃ b ∈ bs, v ∈ b.members ∧ w ∈ b.members) ↔
        ∃ top, IsTopmostShown g shown top v.id ∧ IsTopmostShown g shown top w.id) ↔ together) := by
  intro g shown together
  have hg : g.Nested := link_nested hnames hdots file suffix inherit
  have hforest := hg.forest.linksFormForest
  have hp : g.IsPart shown := hg.focus_isPart focusText
  have hd := divide_boxes shown
  have hties : KeepsTies g shown ↔ together := hg.keepsTies_focus_iff focusText
  refine ⟨boxes shown, hd, dotExport_cluster g focusText nodeSize, ?_, ?_,
    (hd.labels_topmost_iff hforest hp).trans hties, (hd.shares_topmost_iff hforest hp).trans hties⟩
  · intro b hb v hv
    rw [← hd.label_eq hb hv]
    exact (hp.forest hforest).isTopOf_topmost v.id
  · intro v hv w hw
    rw [hd.share_iff hv hw, (hp.forest hforest).topmost_eq_iff]

/-- Focused on `B`, the crossing types are in boxes of their topmost ancestors. Focused on `X` they are
not: `A.B` is shown with a box of its own, below `A`. -/
theorem clusters_of_any_focus_crossing :
    (crossing.map (·.name)).Nodup ∧ (∀ d ∈ crossing, '.' ∉ d.name.toList) ∧
    (∃ bs, Divide ((ofHierarchy (link crossing none "") true).focus "B") bs ∧
      ∀ b ∈ bs, ∀ v ∈ b.members, IsTopmostShown (ofHierarchy (link crossing none "") true)
        ((ofHierarchy (link crossing none "") true).focus "B") b.label v.id) ∧
    ∃ bs, Divide ((ofHierarchy (link crossing none "") true).focus "X") bs ∧
      ¬ ∀ b ∈ bs, ∀ v ∈ b.members, IsTopmostShown (ofHierarchy (link crossing none "") true)
        ((ofHierarchy (link crossing none "") true).focus "X") b.label v.id := by
  have hnames : (crossing.map (·.name)).Nodup := by decide
  have hdots : ∀ d ∈ crossing, '.' ∉ d.name.toList := by decide
  refine ⟨hnames, hdots, ?_, ?_⟩
  · obtain ⟨bs, hd, -, -, -, hlabels, -⟩ :=
      clusters_of_any_focus crossing hnames hdots none "" true "B" "uniform"
    have hshown : ∀ v ∈ ((ofHierarchy (link crossing none "") true).focus "B").nodes,
        GraphNode.mentions "B" v = true ∨
          ∀ e ∈ (ofHierarchy (link crossing none "") true).links, e.target ≠ v.id := by
      decide +kernel
    refine ⟨bs, hd, hlabels.mpr fun _ u _ v hv huv => (hshown v hv).resolve_right fun hnone => ?_⟩
    obtain ⟨a, -, ha⟩ := TransGen.tail'_iff.mp huv
    exact hnone _ ha rfl
  · obtain ⟨bs, hd, -, -, -, hlabels, -⟩ :=
      clusters_of_any_focus crossing hnames hdots none "" true "X" "uniform"
    have hfound : ∃ v ∈ (ofHierarchy (link crossing none "") true).nodes,
        GraphNode.mentions "X" v = true := by
      decide +kernel
    obtain ⟨u, hu, v, hv, huv, hm⟩ :
        ∃ u ∈ ((ofHierarchy (link crossing none "") true).focus "X").nodes,
          ∃ v ∈ ((ofHierarchy (link crossing none "") true).focus "X").nodes,
            (ofHierarchy (link crossing none "") true).Linked u.id v.id ∧
              GraphNode.mentions "X" v = false := by
      decide +kernel
    refine ⟨bs, hd, fun hright => ?_⟩
    simp [hlabels.mp hright hfound u hu v hv (.single huv)] at hm

end Graph

end TypeLineage
