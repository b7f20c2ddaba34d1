import Mathlib.Data.List.Chain
import Mathlib.Data.List.Forall2
import Mathlib.Data.List.Nodup
import Mathlib.Tactic.Common
import TypeLineage.Proofs.Keyed
import TypeLineage.Proofs.Lineage

/-!
# Inherited properties

The links of the graph of a hierarchy lead down to each of its nodes in one way. The properties of the
node are merged from the fields of the types on this way, and nothing that hangs elsewhere adds to them.
-/

namespace TypeLineage

mutual

lemma Branch.ancestor_mem_lineages {n : Nat} {ancestors as : List (Fin n)} {a i : Fin n}
    (b : Branch n) (hc : ⟨as ++ [a], i⟩ ∈ b.lineages ancestors) :
    as ++ [a] = ancestors ∨ ⟨as, a⟩ ∈ b.lineages ancestors := by
  obtain ⟨j, below⟩ := b
  rw [lineages, List.mem_cons, Lineage.mk.injEq] at hc
  rw [lineages, List.mem_cons, Lineage.mk.injEq]
  rcases hc with ⟨hown, -⟩ | hc
  · exact .inl hown
  · rcases ancestor_mem_lineagesAll below hc with heq | hmem
    · obtain ⟨rfl, ha⟩ := List.append_inj' heq rfl
      exact .inr (.inl ⟨rfl, List.singleton_inj.mp ha⟩)
    · exact .inr (.inr hmem)

lemma Branch.ancestor_mem_lineagesAll {n : Nat} {ancestors as : List (Fin n)} {a i : Fin n}
    (bs : List (Branch n)) (hc : ⟨as ++ [a], i⟩ ∈ Branch.lineagesAll ancestors bs) :
    as ++ [a] = ancestors ∨ ⟨as, a⟩ ∈ Branch.lineagesAll ancestors bs := by
  cases bs with
  | nil => cases hc
  | cons b rest =>
    rw [lineagesAll, List.mem_append] at hc ⊢
    rcases hc with hc | hc
    · exact (ancestor_mem_lineages b hc).imp_right .inl
    · exact (ancestor_mem_lineagesAll rest hc).imp_right .inr

end

namespace Graph

/-- Properties are merged from lists of fields, outermost first: every name stands where it is mentioned
first, with the field of the innermost list that has it. -/
structure IsMerge (levels : List (List Field)) (properties : List Field) : Prop where
  names : properties.map (·.name) = (levels.flatten.map (·.name)).eraseDups
  nodup : (properties.map (·.name)).Nodup
  innermost : ∀ f ∈ properties, ∃ outer own inner, levels = outer ++ own :: inner ∧ f ∈ own ∧
    ∀ g ∈ inner.flatten, g.name ≠ f.name

/-- The types of a lineage are shown, and the links of the graph lead down through them from depth 0. -/
structure LeadsDown (r : Rooted) (g : Graph) (c : Lineage r.hierarchy.Index) : Prop where
  shown : ∀ i ∈ c.chain, i ∈ emitted r
  top : ∀ i ∈ c.chain.head?, ∃ v ∈ g.nodes, v.id = (r.hierarchy.node i).path ∧ v.depth = 0
  linked : c.chain.IsChain fun i j =>
    ⟨(r.hierarchy.node i).path, (r.hierarchy.node j).path⟩ ∈ g.links

section Merging

variable {levels more : List (List Field)} {properties properties' : List Field}

theorem isMerge_foldl (levels : List (List Field)) :
    IsMerge levels (levels.foldl Field.merge []) := by
  have hmerge : levels.foldl Field.merge [] = Keyed.ofList Field.name levels.flatten :=
    List.foldl_flatten.symm
  rw [hmerge]
  refine ⟨Keyed.map_key_ofList _ _, Keyed.nodup_keys_ofList _ _, fun f hf => ?_⟩
  obtain ⟨before, after, hflatten, hafter⟩ := Keyed.mem_ofList_iff.mp hf
  rcases List.flatten_eq_append_iff.mp hflatten with
    ⟨outer, back, rfl, -, hback⟩ | ⟨outer, front, g, rest, inner, rfl, -, hback⟩
  · obtain ⟨empty, rest, inner, rfl, -, rfl⟩ := List.flatten_eq_cons_iff.mp hback.symm
    exact ⟨outer ++ empty, f :: rest, inner, by simp, List.mem_cons_self,
      fun g hg => hafter g (List.mem_append_right _ hg)⟩
  · obtain ⟨rfl, rfl⟩ := List.cons.inj hback
    exact ⟨outer, front ++ f :: rest, inner, rfl, by simp,
      fun g hg => hafter g (List.mem_append_right _ hg)⟩

lemma IsMerge.names_append (h : IsMerge levels properties)
    (h' : IsMerge (levels ++ more) properties') :
    properties.map (·.name) <+: properties'.map (·.name) := by
  rw [h.names, h'.names, List.flatten_append, List.map_append, List.eraseDups_append]
  exact List.prefix_append _ _

end Merging

section Entries

variable {h : Hierarchy} {inherit : Bool}

lemma lineageEntry_properties (h : Hierarchy) (c : Lineage h.Index) :
    (lineageEntry h true c).node.properties =
      (c.chain.map fun i => (h.node i).fields).foldl Field.merge [] := by
  simp [lineageEntry, entry, Place.properties, Place.inherited_along, Lineage.chain, List.foldl_map]

lemma lineageEntry_depth (c : Lineage h.Index) :
    (lineageEntry h inherit c).node.depth = c.ancestors.length := by
  simp [lineageEntry, entry, Place.depth_along]

lemma lineageEntry_link_concat (as : List h.Index) (a i : h.Index) :
    (lineageEntry h inherit ⟨as ++ [a], i⟩).link = some ⟨(h.node a).path, (h.node i).path⟩ := by
  simp [lineageEntry, entry, Place.above_along]

end Entries

section Chains

variable {r : Rooted} {inherit : Bool} {c d : Lineage r.hierarchy.Index}
  {as : List r.hierarchy.Index} {a i : r.hierarchy.Index}

lemma eq_of_path (hc : c ∈ lineages r) (hd : d ∈ lineages r)
    (hpath : (r.hierarchy.node c.own).path = (r.hierarchy.node d.own).path) : c = d := by
  have hnodup := emitted_paths_nodup r
  rw [emitted_eq, List.map_map] at hnodup
  exact List.inj_on_of_nodup_map hnodup hc hd hpath

lemma ancestor_mem (hc : ⟨as ++ [a], i⟩ ∈ lineages r) : ⟨as, a⟩ ∈ lineages r :=
  (Branch.ancestor_mem_lineagesAll _ hc).resolve_left (by simp)

lemma exists_of_mem_links {e : GraphLink} (he : e ∈ (ofHierarchy r inherit).links) :
    ∃ as a i, ⟨as ++ [a], i⟩ ∈ lineages r ∧
      e = ⟨(r.hierarchy.node a).path, (r.hierarchy.node i).path⟩ := by
  rw [ofHierarchy_lineages, List.mem_filterMap] at he
  obtain ⟨⟨as, i⟩, hc, hlink⟩ := he
  cases as using List.reverseRecOn with
  | nil => cases hlink
  | append_singleton as a =>
    rw [lineageEntry_link_concat] at hlink
    exact ⟨as, a, i, hc, (Option.some.inj hlink).symm⟩

lemma LeadsDown.ancestor {g : Graph} (hc : LeadsDown r g ⟨as ++ [a], i⟩) :
    LeadsDown r g ⟨as, a⟩ where
  shown j hj := hc.shown j (List.mem_append_left _ hj)
  top j hj := hc.top j (by rwa [Lineage.head?_chain_concat])
  linked := hc.linked.left_of_append

lemma mem_emitted (hc : c ∈ lineages r) : c.own ∈ emitted r := by
  rw [emitted_eq]
  exact List.mem_map_of_mem hc

lemma exists_of_mem_emitted (hi : i ∈ emitted r) : ∃ c ∈ lineages r, c.own = i := by
  rwa [emitted_eq, List.mem_map] at hi

lemma mem_nodes (hc : c ∈ lineages r) :
    (lineageEntry r.hierarchy inherit c).node ∈ (ofHierarchy r inherit).nodes := by
  rw [ofHierarchy_lineages]
  exact List.mem_map_of_mem hc

lemma exists_of_mem_nodes {v : GraphNode} (hv : v ∈ (ofHierarchy r inherit).nodes) :
    ∃ c ∈ lineages r, (lineageEntry r.hierarchy inherit c).node = v := by
  rwa [ofHierarchy_lineages, List.mem_map] at hv

lemma leadsDown_of_mem (hc : c ∈ lineages r) : LeadsDown r (ofHierarchy r inherit) c := by
  obtain ⟨as, i⟩ := c
  induction as using List.reverseRecOn generalizing i with
  | nil =>
    refine ⟨fun j hj => ?_, fun j hj => ?_, .singleton i⟩
    · obtain rfl := List.mem_singleton.mp hj
      exact mem_emitted hc
    · obtain rfl : i = j := by simpa [Lineage.chain] using hj
      exact ⟨_, mem_nodes hc, rfl, lineageEntry_depth _⟩
  | append_singleton as a ih =>
    have ha := ih a (ancestor_mem hc)
    have hlink : ⟨(r.hierarchy.node a).path, (r.hierarchy.node i).path⟩ ∈
        (ofHierarchy r inherit).links := by
      rw [ofHierarchy_lineages]
      exact List.mem_filterMap.mpr ⟨_, hc, lineageEntry_link_concat as a i⟩
    refine ⟨fun j hj => ?_, fun j hj => ?_, ?_⟩
    · rcases List.mem_append.mp hj with hj | hj
      · exact ha.shown j hj
      · obtain rfl := List.mem_singleton.mp hj
        exact mem_emitted hc
    · rw [Lineage.head?_chain_concat] at hj
      exact ha.top j hj
    · exact List.isChain_append.mpr ⟨ha.linked, .singleton i, by simpa using hlink⟩

lemma LeadsDown.mem (hc : LeadsDown r (ofHierarchy r inherit) c) : c ∈ lineages r := by
  obtain ⟨as, i⟩ := c
  obtain ⟨d, hd, rfl⟩ := exists_of_mem_emitted (hc.shown i (by simp [Lineage.chain]))
  induction as using List.reverseRecOn generalizing d with
  | nil =>
    obtain ⟨v, hv, hid, hdepth⟩ := hc.top d.own (by simp [Lineage.chain])
    obtain ⟨e, he, rfl⟩ := exists_of_mem_nodes hv
    obtain rfl := eq_of_path he hd hid
    rw [lineageEntry_depth] at hdepth
    obtain ⟨as, i⟩ := e
    obtain rfl : as = [] := by simpa using hdepth
    exact hd
  | append_singleton as a ih =>
    obtain ⟨e, he, rfl⟩ := exists_of_mem_emitted (hc.shown a (by simp [Lineage.chain]))
    have ha := ih e he hc.ancestor
    have hlink := List.isChain_iff_forall_rel_of_append_cons_cons.mp hc.linked
      (show _ = as ++ e.own :: d.own :: [] by simp [Lineage.chain])
    obtain ⟨as', a', i', hmem, heq⟩ := exists_of_mem_links hlink
    rw [GraphLink.mk.injEq] at heq
    obtain rfl := eq_of_path hd hmem heq.2
    have habove := eq_of_path ha (ancestor_mem hmem) heq.1
    rw [Lineage.mk.injEq] at habove
    rw [habove.1, habove.2]
    exact hd

/-- The links lead down through the lineages that the visit has grown, and no others. -/
theorem leadsDown_iff : LeadsDown r (ofHierarchy r inherit) c ↔ c ∈ lineages r :=
  ⟨LeadsDown.mem, leadsDown_of_mem⟩

lemma chain_of_link (hc : c ∈ lineages r) (hd : d ∈ lineages r)
    (hlink : ⟨(r.hierarchy.node d.own).path, (r.hierarchy.node c.own).path⟩ ∈
      (ofHierarchy r inherit).links) : c.chain = d.chain ++ [c.own] := by
  obtain ⟨as, a, i, hmem, heq⟩ := exists_of_mem_links hlink
  rw [GraphLink.mk.injEq] at heq
  obtain rfl := eq_of_path hc hmem heq.2
  obtain rfl := eq_of_path hd (ancestor_mem hmem) heq.1
  rfl

lemma forall₂_nodes {R : r.hierarchy.Index → GraphNode → Prop}
    (hR : ∀ c ∈ lineages r, R c.own (lineageEntry r.hierarchy inherit c).node) :
    List.Forall₂ R (emitted r) (ofHierarchy r inherit).nodes := by
  rw [emitted_eq, ofHierarchy_lineages, List.forall₂_map_left_iff, List.forall₂_map_right_iff,
    List.forall₂_same]
  exact hR

end Chains

/-- The properties in the graph of any hierarchy whose types have fields with distinct names. Without
inheritance a node has the fields of its type. With it the links lead down to the node in one way; its
properties are merged from the fields along that way, and those of the node above come first by name. -/
theorem properties_of_any_hierarchy (r : Rooted)
    (hfields : ∀ i, ((r.hierarchy.node i).fields.map (·.name)).Nodup) :
    List.Forall₂ (fun i v => Depicts (r.hierarchy.node i) v ∧
        v.properties = (r.hierarchy.node i).fields)
      (emitted r) (ofHierarchy r false).nodes ∧
    List.Forall₂ (fun i v => Depicts (r.hierarchy.node i) v ∧
        (∃ c, (∀ d, d.own = i ∧ LeadsDown r (ofHierarchy r true) d ↔ d = c) ∧
          IsMerge (c.chain.map fun j => (r.hierarchy.node j).fields) v.properties) ∧
        ∀ u ∈ (ofHierarchy r true).nodes, ⟨u.id, v.id⟩ ∈ (ofHierarchy r true).links →
          u.properties.map (·.name) <+: v.properties.map (·.name))
      (emitted r) (ofHierarchy r true).nodes := by
  have hmerge : ∀ c : Lineage r.hierarchy.Index,
      IsMerge (c.chain.map fun j => (r.hierarchy.node j).fields)
        (lineageEntry r.hierarchy true c).node.properties := by
    intro c
    rw [lineageEntry_properties]
    exact isMerge_foldl _
  constructor
  · refine forall₂_nodes fun c hc => ⟨⟨rfl, rfl, rfl⟩, ?_⟩
    exact Keyed.ofList_of_nodup (hfields c.own)
  · refine forall₂_nodes fun c hc => ⟨⟨rfl, rfl, rfl⟩, ⟨c, fun d => ?_, hmerge c⟩, fun u hu hlink => ?_⟩
    · rw [leadsDown_iff]
      constructor
      · rintro ⟨hown, hd⟩
        exact eq_of_path hd hc (by rw [hown])
      · rintro rfl
        exact ⟨rfl, hc⟩
    · obtain ⟨d, hd, rfl⟩ := exists_of_mem_nodes hu
      have hchain := chain_of_link hc hd hlink
      have hlevels := hmerge c
      rw [hchain, List.map_append] at hlevels
      exact (hmerge d).names_append hlevels

/-- A root with two children, one of which has a child that leads back to it. Fields are overridden on the
way down. -/
def winding : Rooted where
  hierarchy :=
    { size := 4
      nodes := #v[
        ⟨"Base", [⟨"id", "string", false, .plain⟩, ⟨"size", "number", false, .plain⟩], "a.ts", 1, 0,
          "Base", none, [1, 2]⟩,
        ⟨"Left", [⟨"size", "string", true, .plain⟩, ⟨"left", "number", false, .plain⟩], "a.ts", 2, 0,
          "Base.Left", some 0, [3]⟩,
        ⟨"Right", [⟨"right", "number", false, .plain⟩], "a.ts", 3, 0, "Base.Right", some 0, []⟩,
        ⟨"Leaf", [⟨"leaf", "number", false, .plain⟩, ⟨"id", "number", false, .plain⟩], "a.ts", 4, 0,
          "Base.Left.Leaf", some 1, [1, 0]⟩] }
  roots := [(0 : Fin 4), (3 : Fin 4)]

theorem properties_of_any_hierarchy_winding :
    (∀ i, ((winding.hierarchy.node i).fields.map (·.name)).Nodup) ∧
    List.Forall₂ (fun i v => Depicts (winding.hierarchy.node i) v ∧
        v.properties = (winding.hierarchy.node i).fields)
      (emitted winding) (ofHierarchy winding false).nodes ∧
    (ofHierarchy winding true).nodes.map (fun v => v.properties.map fun f => (f.name, f.type)) =
      [[("id", "string"), ("size", "number")],
        [("id", "string"), ("size", "string"), ("left", "number")],
        [("id", "number"), ("size", "string"), ("left", "number"), ("leaf", "number")],
        [("id", "string"), ("size", "number"), ("right", "number")]] := by
  have hfields : ∀ i, ((winding.hierarchy.node i).fields.map (·.name)).Nodup := by decide
  exact ⟨hfields, (properties_of_any_hierarchy winding hfields).1, by decide +kernel⟩

end Graph

end TypeLineage
