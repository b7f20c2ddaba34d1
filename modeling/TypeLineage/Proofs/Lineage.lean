import Mathlib.Data.List.Chain
import Mathlib.Data.Fin.Basic
import Mathlib.Tactic.Common
import TypeLineage.Proofs.Forest

/-!
# Lineages of the nodes of a forest

A lineage is a node with its ancestors. The depth-first forest is a list of lineages, and the entries
of a graph can be told from them alone. Where the children of a hierarchy are the nodes that name
their parent, the forest holds exactly the lineages that start at a root, in lexicographic order.
-/

namespace TypeLineage

/-- Something together with its ancestors, outermost first. -/
structure Lineage (α : Type) where
  ancestors : List α
  own : α
  deriving DecidableEq

namespace Lineage

variable {α β : Type}

def chain (c : Lineage α) : List α :=
  c.ancestors ++ [c.own]

def map (f : α → β) (c : Lineage α) : Lineage β :=
  ⟨c.ancestors.map f, f c.own⟩

@[simp] lemma chain_map (f : α → β) (c : Lineage α) : (c.map f).chain = c.chain.map f := by
  simp [chain, map]

lemma chain_injective : Function.Injective (chain (α := α)) := by
  rintro ⟨as, a⟩ ⟨bs, b⟩ hc
  obtain ⟨rfl, hb⟩ := List.append_inj' hc rfl
  cases hb
  rfl

@[simp] lemma chain_ne_nil (c : Lineage α) : c.chain ≠ [] := by
  simp [chain]

lemma head?_chain_concat (ancestors : List α) (a b : α) :
    (⟨ancestors ++ [a], b⟩ : Lineage α).chain.head? = (⟨ancestors, a⟩ : Lineage α).chain.head? := by
  simp [chain, List.head?_append]

lemma prefix_chain_mk (ancestors : List α) (a : α) :
    ancestors ++ [a] <+: (⟨ancestors, a⟩ : Lineage α).chain :=
  List.prefix_rfl

lemma exists_chain_eq {l : List α} (hl : l ≠ []) : ∃ c : Lineage α, c.chain = l :=
  ⟨⟨l.dropLast, l.getLast hl⟩, List.dropLast_append_getLast hl⟩

end Lineage

mutual

/-- The lineages of the nodes of a branch that hangs below given ancestors. -/
def Branch.lineages {n : Nat} (ancestors : List (Fin n)) : Branch n → List (Lineage (Fin n))
  | .mk i below => ⟨ancestors, i⟩ :: Branch.lineagesAll (ancestors ++ [i]) below

def Branch.lineagesAll {n : Nat} (ancestors : List (Fin n)) :
    List (Branch n) → List (Lineage (Fin n))
  | [] => []
  | b :: rest => b.lineages ancestors ++ Branch.lineagesAll ancestors rest

end

mutual

lemma Branch.map_own_lineages {n : Nat} (ancestors : List (Fin n)) (b : Branch n) :
    (b.lineages ancestors).map (·.own) = b.preorder := by
  obtain ⟨i, below⟩ := b
  simp [lineages, preorder, map_own_lineagesAll _ below]

lemma Branch.map_own_lineagesAll {n : Nat} (ancestors : List (Fin n)) (bs : List (Branch n)) :
    (Branch.lineagesAll ancestors bs).map (·.own) = Branch.preorderAll bs := by
  cases bs with
  | nil => rfl
  | cons b rest =>
    simp [lineagesAll, preorderAll, map_own_lineages ancestors b, map_own_lineagesAll _ rest]

end

namespace Graph

/-- The place below a chain of types. -/
def Place.along {n : Nat} (inherit : Bool) (ts : List (TypeNode n)) : Place :=
  ts.foldl (Place.below inherit) .top

/-- The entry of a node at the end of its lineage. -/
def lineageEntry (h : Hierarchy) (inherit : Bool) (c : Lineage h.Index) : Entry :=
  entry inherit (.along inherit (c.ancestors.map h.node)) (h.node c.own)

lemma Place.along_concat {h : Hierarchy} {inherit : Bool} (ancestors : List h.Index)
    (i : h.Index) :
    Place.along inherit ((ancestors ++ [i]).map h.node) =
      (Place.along inherit (ancestors.map h.node)).below inherit (h.node i) := by
  simp [Place.along]

section Along

variable {n : Nat} {inherit : Bool}

lemma Place.depth_along (ts : List (TypeNode n)) :
    (Place.along inherit ts).depth = ts.length := by
  induction ts using List.reverseRecOn with
  | nil => rfl
  | append_singleton ts t ih => simpa [Place.along, Place.below] using ih

lemma Place.above_along (ts : List (TypeNode n)) :
    (Place.along inherit ts).above = ts.getLast?.map (·.path) := by
  induction ts using List.reverseRecOn with
  | nil => rfl
  | append_singleton ts t ih => simp [Place.along, Place.below]

lemma Place.inherited_along (ts : List (TypeNode n)) :
    (Place.along inherit ts).inherited =
      ts.foldl (fun above t => Field.merge (if inherit then above else []) t.fields) [] := by
  induction ts using List.reverseRecOn with
  | nil => rfl
  | append_singleton ts t ih =>
    simp only [Place.along, List.foldl_append, List.foldl_cons, List.foldl_nil] at ih ⊢
    rw [← ih]
    rfl

end Along

mutual

lemma entriesOf_along (h : Hierarchy) (inherit : Bool) (ancestors : List h.Index)
    (b : Branch h.size) :
    entriesOf h inherit (.along inherit (ancestors.map h.node)) b =
      (b.lineages ancestors).map (lineageEntry h inherit) := by
  obtain ⟨i, below⟩ := b
  rw [entriesOf, Branch.lineages, ← Place.along_concat, entriesOfAll_along h inherit _ below]
  rfl

lemma entriesOfAll_along (h : Hierarchy) (inherit : Bool) (ancestors : List h.Index)
    (bs : List (Branch h.size)) :
    entriesOfAll h inherit (.along inherit (ancestors.map h.node)) bs =
      (Branch.lineagesAll ancestors bs).map (lineageEntry h inherit) := by
  cases bs with
  | nil => rfl
  | cons b rest =>
    rw [entriesOfAll, Branch.lineagesAll, List.map_append, entriesOf_along h inherit ancestors b,
      entriesOfAll_along h inherit ancestors rest]

end

/-- The lineages of the nodes that the graph of a hierarchy shows, in order. -/
def lineages (r : Rooted) : List (Lineage r.hierarchy.Index) :=
  Branch.lineagesAll [] (r.hierarchy.forest r.roots)

lemma emitted_eq (r : Rooted) : emitted r = (lineages r).map (·.own) :=
  (Branch.map_own_lineagesAll [] _).symm

/-- A graph is told by the lineages of its nodes. -/
theorem ofHierarchy_lineages (r : Rooted) (inherit : Bool) :
    ofHierarchy r inherit =
      ⟨(lineages r).map fun c => (lineageEntry r.hierarchy inherit c).node,
        (lineages r).filterMap fun c => (lineageEntry r.hierarchy inherit c).link⟩ := by
  have he := entriesOfAll_along r.hierarchy inherit [] (r.hierarchy.forest r.roots)
  simp only [ofHierarchy]
  rw [show (Place.top) = .along inherit (([] : List r.hierarchy.Index).map r.hierarchy.node)
    from rfl, he]
  simp [lineages, Function.comp_def]

end Graph

namespace Hierarchy

/-- The lineage starts at a root, and each of its nodes is the parent of the next. -/
structure Descends (h : Hierarchy) (roots : List h.Index) (c : Lineage h.Index) : Prop where
  linked : c.chain.IsChain fun i j => (h.node j).parent = some i
  top : ∀ i ∈ c.chain.head?, i ∈ roots

/-- The children of a node are those whose parent it is, in order of number, and the path of a node
below the roots tells its lineage. -/
structure Arranged (h : Hierarchy) (roots : List h.Index) : Prop where
  mem_children : ∀ i j, j ∈ (h.node i).children ↔ (h.node j).parent = some i
  children_sorted : ∀ i, (h.node i).children.Pairwise (· < ·)
  roots_sorted : roots.Pairwise (· < ·)
  path_inj : ∀ c d, h.Descends roots c → h.Descends roots d →
    (h.node c.own).path = (h.node d.own).path → c = d

/-- The lineage goes through one of the nodes, below the given ancestors. -/
def Through {n : Nat} (ancestors nodes : List (Fin n)) (c : Lineage (Fin n)) : Prop :=
  ∃ i ∈ nodes, ancestors ++ [i] <+: c.chain

/-- What holds when the visit of siblings begins: none of the lineages through them is taken. -/
structure Ready (h : Hierarchy) (roots : List h.Index) (taken : List String)
    (ancestors nodes : List h.Index) : Prop where
  sorted : nodes.Pairwise (· < ·)
  descends : ∀ i ∈ nodes, h.Descends roots ⟨ancestors, i⟩
  free : ∀ c, h.Descends roots c → Through ancestors nodes c → (h.node c.own).path ∉ taken

section Visiting

variable {h : Hierarchy} {roots : List h.Index} {taken within taken' : List String}
  {ancestors rest nodes : List h.Index} {i : h.Index} {below grown : List (Branch h.size)}

lemma Descends.concat {j : h.Index} (hi : h.Descends roots ⟨ancestors, i⟩)
    (hj : (h.node j).parent = some i) : h.Descends roots ⟨ancestors ++ [i], j⟩ := by
  obtain ⟨hlinked, htop⟩ := hi
  constructor
  · refine List.isChain_append.mpr ⟨hlinked, .singleton j, ?_⟩
    simpa using hj
  · intro k hk
    rw [Lineage.head?_chain_concat] at hk
    exact htop k hk

lemma Descends.eq_or_through (ha : h.Arranged roots) {c : Lineage h.Index}
    (hc : h.Descends roots c) (hi : ancestors ++ [i] <+: c.chain) :
    c = ⟨ancestors, i⟩ ∨ Through (ancestors ++ [i]) (h.node i).children c := by
  obtain ⟨tail, htail⟩ := hi
  cases tail with
  | nil =>
    left
    apply Lineage.chain_injective
    rw [← htail, List.append_nil]
    rfl
  | cons j tail =>
    right
    have hlinked := hc.linked
    rw [← htail, List.append_assoc, List.isChain_append] at hlinked
    have hj : (h.node j).parent = some i := (List.isChain_cons_cons.mp hlinked.2.1).1
    exact ⟨j, (ha.mem_children i j).mpr hj, tail, by simpa using htail⟩

lemma through_cons {c : Lineage h.Index} :
    Through ancestors (i :: rest) c ↔
      ancestors ++ [i] <+: c.chain ∨ Through ancestors rest c := by
  simp [Through]

lemma Through.prefix_chain {c : Lineage h.Index} (hc : Through ancestors nodes c) :
    ancestors <+: c.chain := by
  obtain ⟨i, _, hi⟩ := hc
  exact (List.prefix_append _ _).trans hi

lemma not_through_of_prefix {c : Lineage h.Index} (hi : ancestors ++ [i] <+: c.chain)
    (hn : i ∉ rest) : ¬ Through ancestors rest c := by
  rintro ⟨j, hj, hpre⟩
  have heq := List.prefix_of_prefix_length_le hi hpre (by simp)
  have heq := heq.eq_of_length (by simp)
  simp only [List.append_cancel_left_eq, List.cons.injEq, and_true] at heq
  exact hn (heq ▸ hj)

lemma Ready.not_mem_rest (hr : h.Ready roots taken ancestors (i :: rest)) : i ∉ rest := by
  intro hi
  exact lt_irrefl i ((List.pairwise_cons.mp hr.sorted).1 i hi)

/-- A node that is up for a visit is never passed over. -/
lemma Ready.path_not_mem (hr : h.Ready roots taken ancestors (i :: rest)) :
    (h.node i).path ∉ taken :=
  hr.free _ (hr.descends i (by simp)) ⟨i, by simp, Lineage.prefix_chain_mk _ _⟩

lemma Ready.children (ha : h.Arranged roots) (hr : h.Ready roots taken ancestors (i :: rest)) :
    h.Ready roots ((h.node i).path :: taken) (ancestors ++ [i]) (h.node i).children := by
  have hi := hr.descends i (by simp)
  refine ⟨ha.children_sorted i, ?_, ?_⟩
  · intro j hj
    exact hi.concat ((ha.mem_children i j).mp hj)
  · intro c hc hthrough hmem
    rcases List.mem_cons.mp hmem with hpath | hmem
    · obtain rfl := ha.path_inj _ _ hc hi hpath
      obtain ⟨j, _, hj⟩ := hthrough
      have := hj.length_le
      simp [Lineage.chain] at this
    · exact hr.free c hc (through_cons.mpr (.inl hthrough.prefix_chain)) hmem

lemma Ready.siblings (ha : h.Arranged roots) (hr : h.Ready roots taken ancestors (i :: rest))
    (hv : Visits h ((h.node i).path :: taken) (h.node i).children below within)
    (hbelow : ∀ c ∈ Branch.lineagesAll (ancestors ++ [i]) below, h.Descends roots c ∧
      Through (ancestors ++ [i]) (h.node i).children c) :
    h.Ready roots within ancestors rest := by
  have hn := hr.not_mem_rest
  refine ⟨hr.sorted.tail, fun j hj => hr.descends j (by simp [hj]), ?_⟩
  intro c hc hthrough hmem
  rw [hv.mem_taken_iff, ← Branch.map_own_lineagesAll (ancestors ++ [i]), List.mem_cons] at hmem
  rcases hmem with (hpath | hmem) | hmem
  · obtain rfl := ha.path_inj _ _ hc (hr.descends i (by simp)) hpath
    exact not_through_of_prefix (Lineage.prefix_chain_mk _ _) hn hthrough
  · exact hr.free c hc (through_cons.mpr (.inr hthrough)) hmem
  · simp only [List.map_map, List.mem_map, Function.comp_apply] at hmem
    obtain ⟨d, hd, hpath⟩ := hmem
    obtain ⟨hdesc, hdthrough⟩ := hbelow d hd
    obtain rfl := ha.path_inj _ _ hdesc hc hpath
    exact not_through_of_prefix hdthrough.prefix_chain hn hthrough

theorem Visits.mem_lineages (ha : h.Arranged roots) (hv : Visits h taken nodes grown taken')
    (hr : h.Ready roots taken ancestors nodes) (c : Lineage h.Index) :
    c ∈ Branch.lineagesAll ancestors grown ↔ h.Descends roots c ∧ Through ancestors nodes c := by
  induction hv generalizing ancestors c with
  | done => simp [Branch.lineagesAll, Through]
  | pass hi => exact absurd hi hr.path_not_mem
  | @enter taken within taken' i rest below grown hi hbelow hrest ihbelow ihrest =>
    have hmem := ihbelow (hr.children ha)
    have hr' := hr.siblings ha hbelow fun d hd => (hmem d).mp hd
    rw [Branch.lineagesAll, Branch.lineages, List.mem_append, List.mem_cons, hmem, ihrest hr',
      through_cons]
    constructor
    · rintro ((rfl | ⟨hc, hthrough⟩) | ⟨hc, hthrough⟩)
      · exact ⟨hr.descends i (by simp), .inl (Lineage.prefix_chain_mk _ _)⟩
      · exact ⟨hc, .inl hthrough.prefix_chain⟩
      · exact ⟨hc, .inr hthrough⟩
    · rintro ⟨hc, hpre | hthrough⟩
      · rcases hc.eq_or_through ha hpre with rfl | hthrough
        · exact .inl (.inl rfl)
        · exact .inl (.inr ⟨hc, hthrough⟩)
      · exact .inr ⟨hc, hthrough⟩

lemma lt_of_through {c d : Lineage h.Index} (hc : ancestors ++ [i] <+: c.chain)
    (hd : Through ancestors rest d) (hlt : ∀ j ∈ rest, i < j) : c.chain < d.chain := by
  obtain ⟨s, hs⟩ := hc
  obtain ⟨j, hj, t, ht⟩ := hd
  rw [← hs, ← ht, List.append_assoc, List.append_assoc]
  exact List.append_left_lt (List.cons_lt_cons_iff.mpr (.inl (hlt j hj)))

lemma lt_of_through_child {c : Lineage h.Index} (hc : Through (ancestors ++ [i]) nodes c) :
    (⟨ancestors, i⟩ : Lineage h.Index).chain < c.chain := by
  obtain ⟨j, _, t, ht⟩ := hc
  rw [← ht, List.append_assoc, show (⟨ancestors, i⟩ : Lineage h.Index).chain = ancestors ++ [i] ++ []
    by simp [Lineage.chain]]
  exact List.append_left_lt (List.nil_lt_cons _ _)

theorem Visits.lineages_sorted (ha : h.Arranged roots) (hv : Visits h taken nodes grown taken')
    (hr : h.Ready roots taken ancestors nodes) :
    (Branch.lineagesAll ancestors grown).Pairwise fun c d => c.chain < d.chain := by
  induction hv generalizing ancestors with
  | done => simp [Branch.lineagesAll]
  | pass hi => exact absurd hi hr.path_not_mem
  | @enter taken within taken' i rest below grown hi hbelow hrest ihbelow ihrest =>
    have hmem := hbelow.mem_lineages ha (hr.children ha)
    have hr' := hr.siblings ha hbelow fun d hd => (hmem d).mp hd
    have hmemrest := hrest.mem_lineages ha hr'
    have hlt := (List.pairwise_cons.mp hr.sorted).1
    rw [Branch.lineagesAll, Branch.lineages, List.pairwise_append, List.pairwise_cons]
    refine ⟨⟨?_, ihbelow (hr.children ha)⟩, ihrest hr', ?_⟩
    · exact fun c hc => lt_of_through_child ((hmem c).mp hc).2
    · intro c hc d hd
      have hd := ((hmemrest d).mp hd).2
      rcases List.mem_cons.mp hc with rfl | hc
      · exact lt_of_through (Lineage.prefix_chain_mk _ _) hd hlt
      · exact lt_of_through ((hmem c).mp hc).2.prefix_chain hd hlt

end Visiting

lemma Arranged.ready {h : Hierarchy} {roots : List h.Index} (ha : h.Arranged roots) :
    h.Ready roots [] [] roots where
  sorted := ha.roots_sorted
  descends i hi := ⟨.singleton i, by simpa [Lineage.chain] using hi⟩
  free := by simp

end Hierarchy

namespace Graph

open Hierarchy

variable {r : Rooted}

/-- The graph of an arranged hierarchy shows the lineages that start at a root. -/
theorem mem_lineages (ha : r.hierarchy.Arranged r.roots) (c : Lineage r.hierarchy.Index) :
    c ∈ lineages r ↔ r.hierarchy.Descends r.roots c := by
  rw [lineages, (r.hierarchy.forest_visits r.roots).mem_lineages ha ha.ready]
  refine ⟨And.left, fun hc => ⟨hc, ?_⟩⟩
  obtain ⟨i, l, hl⟩ := List.exists_cons_of_ne_nil c.chain_ne_nil
  exact ⟨i, hc.top i (by simp [hl]), l, by simp [hl]⟩

theorem lineages_sorted (ha : r.hierarchy.Arranged r.roots) :
    (lineages r).Pairwise fun c d => c.chain < d.chain :=
  (r.hierarchy.forest_visits r.roots).lineages_sorted ha ha.ready

end Graph

end TypeLineage
