import Mathlib.Data.List.Nodup
import Mathlib.Data.List.Forall2
import Mathlib.Tactic.Common
import TypeLineage.Graph.Flatten
import TypeLineage.Proofs.Visit

/-!
# Graphs of hierarchies are forests

Whatever the children of a hierarchy are, with cycles, shared nodes or several nodes of one path,
its graph is a forest: the links lead from earlier nodes one level down and reach every node but
the roots once. The argument runs over the entries that branches give. Each entry stands at the top
or rests on an earlier one.
-/

namespace TypeLineage.Graph

/-- The nodes of a graph form a forest under its links. -/
structure IsForest (g : Graph) : Prop where
  ids_nodup : (g.nodes.map (·.id)).Nodup
  isRoot_iff : ∀ v ∈ g.nodes, v.isRoot = true ↔ v.depth = 0
  depth_nonneg : ∀ v ∈ g.nodes, 0 ≤ v.depth
  root_iff : ∀ v ∈ g.nodes, v.depth = 0 ↔ ∀ e ∈ g.links, e.target ≠ v.id
  targets : g.links.map (·.target) = (g.nodes.filter (0 < ·.depth)).map (·.id)
  sources : ∀ e ∈ g.links, ∃ before v after, g.nodes = before ++ v :: after ∧ v.id = e.target ∧
    ∃ u ∈ before, u.id = e.source ∧ v.depth = u.depth + 1

/-- A graph node tells path, name and location of a type. -/
def Depicts {n : Nat} (t : TypeNode n) (v : GraphNode) : Prop :=
  v.id = t.path ∧ v.name = t.name ∧ v.location = ⟨t.file, t.line, t.column⟩

/-- An entry stands at the top, or its link comes from an earlier entry one level up. -/
def Entry.Rests (earlier : List Entry) (e : Entry) : Prop :=
  (e.node.depth = 0 ∧ e.link = none) ∨
    ∃ a ∈ earlier, e.node.depth = a.node.depth + 1 ∧ e.link = some ⟨a.node.id, e.node.id⟩

/-- Each entry rests on the ones before it. -/
def Grounded (earlier : List Entry) : List Entry → Prop
  | [] => True
  | e :: rest => e.Rests earlier ∧ Grounded (earlier ++ [e]) rest

/-- A place is the top, or lies one level below an earlier entry. -/
def Place.Within (earlier : List Entry) (p : Place) : Prop :=
  (p.depth = 0 ∧ p.above = none) ∨
    ∃ a ∈ earlier, (p.depth : Int) = a.node.depth + 1 ∧ p.above = some a.node.id

section Entries

variable {h : Hierarchy} {inherit : Bool} {earlier more : List Entry} {p : Place} {n : Nat}

lemma Place.within_top : Place.top.Within earlier :=
  .inl ⟨rfl, rfl⟩

lemma Place.Within.append_right (hp : p.Within earlier) : p.Within (earlier ++ more) := by
  rcases hp with hp | ⟨a, ha, hp⟩
  · exact .inl hp
  · exact .inr ⟨a, List.mem_append_left _ ha, hp⟩

lemma Place.within_below {t : TypeNode n} (he : entry inherit p t ∈ earlier) :
    (p.below inherit t).Within earlier :=
  .inr ⟨_, he, by simp [Place.below, entry], rfl⟩

lemma Place.Within.rests {t : TypeNode n} (hp : p.Within earlier) :
    (entry inherit p t).Rests earlier := by
  rcases hp with ⟨hd, ha⟩ | ⟨a, hmem, hd, ha⟩
  · exact .inl ⟨by simp [entry, hd], by simp [entry, ha]⟩
  · exact .inr ⟨a, hmem, hd, by simp [entry, ha]⟩

lemma grounded_append {xs ys : List Entry} :
    Grounded earlier (xs ++ ys) ↔ Grounded earlier xs ∧ Grounded (earlier ++ xs) ys := by
  induction xs generalizing earlier with
  | nil => simp [Grounded]
  | cons e rest ih => simp [Grounded, ih, and_assoc]

mutual

theorem entriesOf_grounded {earlier : List Entry} {p : Place} (hp : p.Within earlier)
    (b : Branch h.size) :
    Grounded earlier (entriesOf h inherit p b) := by
  obtain ⟨i, below⟩ := b
  rw [entriesOf, Grounded]
  exact ⟨hp.rests, entriesOfAll_grounded (Place.within_below (by simp)) below⟩

theorem entriesOfAll_grounded {earlier : List Entry} {p : Place} (hp : p.Within earlier)
    (bs : List (Branch h.size)) :
    Grounded earlier (entriesOfAll h inherit p bs) := by
  cases bs with
  | nil => simp [entriesOfAll, Grounded]
  | cons b rest =>
    rw [entriesOfAll, grounded_append]
    exact ⟨entriesOf_grounded hp b, entriesOfAll_grounded hp.append_right rest⟩

end

mutual

lemma exists_entry_of_mem {p : Place} (b : Branch h.size) {e : Entry}
    (he : e ∈ entriesOf h inherit p b) : ∃ q i, e = entry inherit q (h.node i) := by
  obtain ⟨i, below⟩ := b
  rw [entriesOf, List.mem_cons] at he
  rcases he with rfl | he
  · exact ⟨p, i, rfl⟩
  · exact exists_entry_of_mem_all below he

lemma exists_entry_of_mem_all {p : Place} (bs : List (Branch h.size)) {e : Entry}
    (he : e ∈ entriesOfAll h inherit p bs) : ∃ q i, e = entry inherit q (h.node i) := by
  cases bs with
  | nil => simp [entriesOfAll] at he
  | cons b rest =>
    rw [entriesOfAll, List.mem_append] at he
    rcases he with he | he
    · exact exists_entry_of_mem b he
    · exact exists_entry_of_mem_all rest he

end

mutual

theorem entriesOf_depicts (p : Place) (b : Branch h.size) :
    List.Forall₂ (fun i e => Depicts (h.node i) e.node) b.preorder (entriesOf h inherit p b) := by
  obtain ⟨i, below⟩ := b
  rw [entriesOf, Branch.preorder]
  exact .cons ⟨rfl, rfl, rfl⟩ (entriesOfAll_depicts _ below)

theorem entriesOfAll_depicts (p : Place) (bs : List (Branch h.size)) :
    List.Forall₂ (fun i e => Depicts (h.node i) e.node) (Branch.preorderAll bs)
      (entriesOfAll h inherit p bs) := by
  cases bs with
  | nil => simp [entriesOfAll, Branch.preorderAll]
  | cons b rest =>
    rw [entriesOfAll, Branch.preorderAll]
    exact List.rel_append (entriesOf_depicts p b) (entriesOfAll_depicts p rest)

end

lemma Grounded.targets {es : List Entry} (hg : Grounded earlier es)
    (hpos : ∀ e ∈ earlier ++ es, 0 ≤ e.node.depth) :
    (es.filterMap (·.link)).map (·.target) =
      ((es.map (·.node)).filter (0 < ·.depth)).map (·.id) := by
  induction es generalizing earlier with
  | nil => rfl
  | cons e rest ih =>
    obtain ⟨he, hrest⟩ := hg
    have hi := ih hrest (by simpa using hpos)
    rcases he with ⟨hd, hl⟩ | ⟨a, ha, hd, hl⟩
    · simp [hd, hl, hi]
    · have ha := hpos a (List.mem_append_left _ ha)
      have hlt : 0 < e.node.depth := by omega
      simp [hl, hlt, hi]

lemma Grounded.sources {es : List Entry} (hg : Grounded earlier es) :
    ∀ l ∈ es.filterMap (·.link), ∃ before v after,
      (earlier ++ es).map (·.node) = before ++ v :: after ∧ v.id = l.target ∧
        ∃ u ∈ before, u.id = l.source ∧ v.depth = u.depth + 1 := by
  induction es generalizing earlier with
  | nil => simp
  | cons e rest ih =>
    intro l hl
    obtain ⟨he, hrest⟩ := hg
    rw [List.filterMap_cons] at hl
    rcases he with ⟨_, hnone⟩ | ⟨a, ha, hd, hsome⟩
    · rw [hnone] at hl
      simpa using ih hrest l hl
    · rw [hsome, List.mem_cons] at hl
      rcases hl with rfl | hl
      · exact ⟨earlier.map (·.node), e.node, rest.map (·.node), by simp, rfl, a.node,
          List.mem_map_of_mem ha, rfl, hd⟩
      · simpa using ih hrest l hl

end Entries

variable (r : Rooted) (inherit : Bool)

/-- The nodes that the graph of a hierarchy shows, in order. -/
def emitted (r : Rooted) : List r.hierarchy.Index :=
  Branch.preorderAll (r.hierarchy.forest r.roots)

theorem ofHierarchy_depicts :
    List.Forall₂ (fun i v => Depicts (r.hierarchy.node i) v) (emitted r)
      (ofHierarchy r inherit).nodes := by
  rw [ofHierarchy, List.forall₂_map_right_iff]
  exact entriesOfAll_depicts _ _

lemma ofHierarchy_ids :
    (ofHierarchy r inherit).nodes.map (·.id) =
      (emitted r).map fun i => (r.hierarchy.node i).path := by
  have hd := ofHierarchy_depicts r inherit
  generalize (ofHierarchy r inherit).nodes = nodes at hd ⊢
  generalize emitted r = shown at hd ⊢
  induction hd with
  | nil => rfl
  | cons hv _ ih => simp [hv.1, ih]

lemma emitted_paths_nodup : ((emitted r).map fun i => (r.hierarchy.node i).path).Nodup := by
  have hv := r.hierarchy.forest_visits r.roots
  have ht := hv.nodup List.nodup_nil
  rw [hv.taken_eq, List.append_nil, List.nodup_reverse] at ht
  exact ht

/-- The graph of any hierarchy is a forest. -/
theorem ofHierarchy_isForest : (ofHierarchy r inherit).IsForest := by
  let es := entriesOfAll r.hierarchy inherit .top (r.hierarchy.forest r.roots)
  have hentry : ∀ e ∈ es, ∃ q i, e = entry inherit q (r.hierarchy.node i) :=
    fun _ he => exists_entry_of_mem_all _ he
  have hg : Grounded [] es := entriesOfAll_grounded Place.within_top _
  have hids : ((ofHierarchy r inherit).nodes.map (·.id)).Nodup := by
    rw [ofHierarchy_ids]
    exact emitted_paths_nodup r
  have hpos : ∀ v ∈ (ofHierarchy r inherit).nodes, 0 ≤ v.depth := by
    intro v hv
    obtain ⟨e, he, rfl⟩ := List.mem_map.mp hv
    obtain ⟨q, i, rfl⟩ := hentry e he
    exact Int.natCast_nonneg _
  have htargets : (ofHierarchy r inherit).links.map (·.target) =
      ((ofHierarchy r inherit).nodes.filter (0 < ·.depth)).map (·.id) :=
    hg.targets fun e he => hpos _ (List.mem_map_of_mem (by simpa using he))
  refine ⟨hids, ?_, hpos, ?_, htargets, hg.sources⟩
  · intro v hv
    obtain ⟨e, he, rfl⟩ := List.mem_map.mp hv
    obtain ⟨q, i, rfl⟩ := hentry e he
    simp [entry]
  · intro v hv
    have hmem : v.id ∈ (ofHierarchy r inherit).links.map (·.target) ↔ 0 < v.depth := by
      rw [htargets, List.mem_map]
      constructor
      · rintro ⟨w, hw, hid⟩
        rw [List.mem_filter] at hw
        rw [← List.inj_on_of_nodup_map hids hw.1 hv hid]
        simpa using hw.2
      · exact fun hd => ⟨v, List.mem_filter.mpr ⟨hv, by simpa using hd⟩, rfl⟩
    have hd := hpos v hv
    constructor
    · intro hzero e he hid
      have := hmem.mp (List.mem_map.mpr ⟨e, he, hid⟩)
      omega
    · intro hnone
      by_contra hne
      obtain ⟨e, he, hid⟩ := List.mem_map.mp (hmem.mpr (by omega))
      exact hnone e he hid

/-- Flattening ends for every hierarchy: the visit of the roots, taken without a bound on its
levels, has one outcome, and the graph is read off it. The graph is a forest that misses no root and
no child of a node it shows. -/
theorem flattening_ends_in_forest :
    (∀ grown taken, r.hierarchy.Visits [] r.roots grown taken ↔
      grown = r.hierarchy.forest r.roots ∧
        taken = ((ofHierarchy r inherit).nodes.map (·.id)).reverse) ∧
    List.Forall₂ (fun i v => Depicts (r.hierarchy.node i) v) (emitted r)
      (ofHierarchy r inherit).nodes ∧
    (ofHierarchy r inherit).IsForest ∧
    (∀ i ∈ r.roots, (r.hierarchy.node i).path ∈ (ofHierarchy r inherit).nodes.map (·.id)) ∧
    ∀ i ∈ emitted r, ∀ j ∈ (r.hierarchy.node i).children,
      (r.hierarchy.node j).path ∈ (ofHierarchy r inherit).nodes.map (·.id) := by
  have hv := r.hierarchy.forest_visits r.roots
  have hids := ofHierarchy_ids r inherit
  have htaken : ∀ path, path ∈ (ofHierarchy r inherit).nodes.map (·.id) ↔
      path ∈ (Hierarchy.grow r.hierarchy r.hierarchy.size [] r.roots).2 := by
    intro path
    rw [hv.mem_taken_iff, hids]
    simp [emitted]
  refine ⟨?_, ofHierarchy_depicts r inherit, ofHierarchy_isForest r inherit, ?_, ?_⟩
  · intro grown taken
    rw [Hierarchy.visits_iff_forest, hids]
    constructor <;> rintro ⟨rfl, rfl⟩ <;> exact ⟨rfl, rfl⟩
  · exact fun i hi => (htaken _).mpr (hv.path_mem i hi)
  · exact fun i hi j hj => (htaken _).mpr (hv.child_path_mem i hi j hj)

end TypeLineage.Graph
