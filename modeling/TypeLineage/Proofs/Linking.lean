import Mathlib.Data.List.Chain
import Mathlib.Data.List.FinRange
import Mathlib.Tactic.Common
import TypeLineage.Hierarchy.Link
import TypeLineage.Proofs.Climb
import TypeLineage.Proofs.Lineage

/-!
# What linking declarations means

The graph of linked declarations has a meaning that mentions neither numbers nor visits: a declared
lineage leads from a declaration without parent, whose name has the root suffix, down to another one
by names of parents. The graph shows every declared lineage once, and its order is that of the
declarations.
-/

namespace TypeLineage

namespace Declaration

/-- The lineage of a declaration whose names of parents lead up to a root: a declaration that has no
parent, or an empty one, and whose name ends with the suffix. -/
structure Leads (ds : List Declaration) (suffix : String) (c : Lineage Declaration) : Prop where
  declared : ∀ d ∈ c.chain, d ∈ ds
  nodup : (c.chain.map (·.name)).Nodup
  linked : c.chain.IsChain fun p d => d.parent = some p.name ∧ p.name ≠ ""
  top : ∀ d ∈ c.chain.head?,
    (d.parent = none ∨ d.parent = some "") ∧ suffix.toList <:+ d.name.toList

lemma parentName?_eq_some_iff {d : Declaration} {name : String} :
    d.parentName? = some name ↔ d.parent = some name ∧ name ≠ "" := by
  simp [parentName?, Option.filter_eq_some_iff]

lemma parentName?_eq_none_iff {d : Declaration} :
    d.parentName? = none ↔ d.parent = none ∨ d.parent = some "" := by
  cases h : d.parent <;> simp [parentName?, h, Option.filter]

lemma isTop_iff {d : Declaration} {suffix : String} :
    (d.parentName?.isNone && d.hasSuffix suffix) = true ↔
      (d.parent = none ∨ d.parent = some "") ∧ suffix.toList <:+ d.name.toList := by
  rw [Bool.and_eq_true, Option.isNone_iff_eq_none, parentName?_eq_none_iff, hasSuffix,
    List.isSuffixOf_iff_suffix]

end Declaration

namespace Lineage

/-- The graph node of a declaration: the path leads through the names of its lineage, and its depth
is the number of its ancestors. -/
def graphNode (file : Option String) (inherit : Bool) (c : Lineage Declaration) : GraphNode where
  id := Hierarchy.dotted (c.chain.map (·.name))
  name := c.own.name
  depth := c.ancestors.length
  isRoot := c.ancestors.isEmpty
  properties :=
    c.chain.foldl (fun above d => Field.merge (if inherit then above else []) d.fields) []
  location := ⟨file.getD c.own.file, c.own.line, 0⟩

/-- The link to a declaration from the one above it. -/
def graphLink? (c : Lineage Declaration) : Option GraphLink :=
  if c.ancestors.isEmpty then none
  else some ⟨Hierarchy.dotted (c.ancestors.map (·.name)), Hierarchy.dotted (c.chain.map (·.name))⟩

end Lineage

namespace Hierarchy

open Declaration

lemma dotted_injective {names names' : List String} (hn : names ≠ []) (hn' : names' ≠ [])
    (hdot : ∀ s ∈ names, '.' ∉ s.toList) (hdot' : ∀ s ∈ names', '.' ∉ s.toList)
    (heq : dotted names = dotted names') : names = names' := by
  have hlist := congrArg String.toList heq
  simp only [dotted, String.toList_intercalate] at hlist
  have hsplit := congrArg (List.splitOn '.') hlist
  rw [show ".".toList = ['.'] from rfl, List.splitOn_intercalate '.' (by simpa using hdot)
    (by simpa using hn), List.splitOn_intercalate '.' (by simpa using hdot') (by simpa using hn')]
    at hsplit
  exact List.map_injective_iff.mpr (fun _ _ h => String.toList_inj.mp h) hsplit

/-- The position of the parent of the declaration at a position. -/
def parentOf (ds : List Declaration) (i : Fin ds.length) : Option (Fin ds.length) :=
  parentIndex? ds (ds.get i)

section Positions

variable {ds : List Declaration} {file : Option String} {suffix : String}

lemma node_ofDeclarations (i : Fin ds.length) :
    (ofDeclarations ds file).node i =
      { name := (ds.get i).name
        fields := (ds.get i).fields
        file := file.getD (ds.get i).file
        line := (ds.get i).line
        column := 0
        path := dotted ((chain (parentOf ds) i).reverse.map fun j => (ds.get j).name)
        parent := parentOf ds i
        children := (List.finRange ds.length).filter fun j => parentOf ds j = some i } := by
  have hp : (fun j : Fin ds.length => (Vector.ofFn fun i => parentIndex? ds ds[i])[j]) =
      parentOf ds := by
    funext j
    simp [parentOf]
  simp only [node, linkedNodes, Fin.getElem_fin, Vector.getElem_ofFn] at hp ⊢
  simp only [hp, parentOf]
  rfl

lemma parentOf_of_top {i : Fin ds.length} (hi : i ∈ tops ds suffix) : parentOf ds i = none := by
  have hnone : (ds.get i).parentName? = none := by
    simp only [tops, List.mem_filter, Bool.and_eq_true, Option.isNone_iff_eq_none] at hi
    exact hi.2.1
  rw [parentOf, parentIndex?, hnone]
  rfl

variable {c : Lineage (ofDeclarations ds file).Index}

lemma Descends.ascent (hc : (ofDeclarations ds file).Descends (tops ds suffix) c) :
    Ascent (parentOf ds) (c.own :: c.ancestors.reverse) := by
  have hrev : c.own :: c.ancestors.reverse = c.chain.reverse := by simp [Lineage.chain]
  rw [hrev]
  constructor
  · rw [List.isChain_reverse]
    simpa [node_ofDeclarations] using hc.linked
  · intro i hi
    rw [List.getLast?_reverse] at hi
    exact parentOf_of_top (hc.top i hi)

lemma Descends.path_eq (hc : (ofDeclarations ds file).Descends (tops ds suffix) c) :
    ((ofDeclarations ds file).node c.own).path = dotted (c.chain.map fun i => (ds.get i).name) := by
  rw [node_ofDeclarations, hc.ascent.chain_eq]
  simp [Lineage.chain]

lemma Descends.nodup (hc : (ofDeclarations ds file).Descends (tops ds suffix) c) :
    c.chain.Nodup := by
  have hn := hc.ascent.nodup
  rwa [show c.own :: c.ancestors.reverse = c.chain.reverse by simp [Lineage.chain],
    List.nodup_reverse] at hn

variable (hnames : (ds.map (·.name)).Nodup)

include hnames

lemma get_injective : Function.Injective ds.get := by
  have hn := List.nodup_iff_injective_get.mp hnames.of_map
  exact fun i j hij => hn hij

lemma name_injective : Function.Injective fun i : Fin ds.length => (ds.get i).name := by
  intro i j hij
  exact get_injective hnames (List.inj_on_of_nodup_map hnames (by simp) (by simp) hij)

lemma parentOf_eq_some_iff (i j : Fin ds.length) :
    parentOf ds j = some i ↔
      (ds.get j).parent = some (ds.get i).name ∧ (ds.get i).name ≠ "" := by
  rw [← parentName?_eq_some_iff, parentOf, parentIndex?, Option.bind_eq_some_iff]
  constructor
  · rintro ⟨name, hname, hfind⟩
    rw [List.findFinIdx?_eq_some_iff] at hfind
    have hi : (ds.get i).name = name := of_decide_eq_true hfind.1
    rw [hname, hi]
  · intro hname
    refine ⟨_, hname, List.findFinIdx?_eq_some_iff.mpr ⟨by simp, ?_⟩⟩
    intro k hk hkname
    exact absurd (name_injective hnames (of_decide_eq_true hkname)) (ne_of_lt hk)

theorem link_arranged (file : Option String) (suffix : String)
    (hdots : ∀ d ∈ ds, '.' ∉ d.name.toList) :
    (ofDeclarations ds file).Arranged (tops ds suffix) where
  mem_children i j := by simp [node_ofDeclarations]
  children_sorted i := by
    rw [node_ofDeclarations]
    exact (List.pairwise_lt_finRange _).filter _
  roots_sorted := (List.pairwise_lt_finRange _).filter _
  path_inj c d hc hd hpath := by
    rw [hc.path_eq, hd.path_eq] at hpath
    have hfree : ∀ l : List (Fin ds.length), ∀ s ∈ l.map fun i => (ds.get i).name,
        '.' ∉ s.toList := by
      simp only [List.mem_map, forall_exists_index, and_imp]
      rintro l s i - rfl
      exact hdots _ (by simp)
    have hlist := dotted_injective (by simp) (by simp) (hfree _) (hfree _) hpath
    exact Lineage.chain_injective (List.map_injective_iff.mpr (name_injective hnames) hlist)

/-- The declared lineages are those of the positions, told by their declarations. -/
theorem leads_iff_descends (file : Option String) (c : Lineage Declaration) :
    Leads ds suffix c ↔ ∃ k : Lineage (ofDeclarations ds file).Index,
      (ofDeclarations ds file).Descends (tops ds suffix) k ∧ k.map ds.get = c := by
  constructor
  · intro hc
    have hpos : ∃ l : List (Fin ds.length), l.map ds.get = c.chain := by
      have hrange : ∀ d ∈ c.chain, ∃ i : Fin ds.length, ds.get i = d := by
        intro d hd
        obtain ⟨i, hi⟩ := List.mem_iff_get.mp (hc.declared d hd)
        exact ⟨i, hi⟩
      generalize c.chain = l at hrange
      induction l with
      | nil => exact ⟨[], rfl⟩
      | cons d l ih =>
        obtain ⟨i, hi⟩ := hrange d (by simp)
        obtain ⟨is, his⟩ := ih fun e he => hrange e (by simp [he])
        exact ⟨i :: is, by simp [← hi, ← his]⟩
    obtain ⟨l, hl⟩ := hpos
    have hne : l ≠ [] := by
      rintro rfl
      exact c.chain_ne_nil hl.symm
    obtain ⟨k, rfl⟩ := Lineage.exists_chain_eq hne
    refine ⟨k, ⟨?_, ?_⟩, Lineage.chain_injective (by rw [Lineage.chain_map, hl])⟩
    · have hlinked := hc.linked
      rw [← hl, List.isChain_map] at hlinked
      refine hlinked.imp fun i j hij => ?_
      rw [node_ofDeclarations]
      exact (parentOf_eq_some_iff hnames i j).mpr hij
    · intro i hi
      have htop := hc.top (ds.get i) (by simpa [← hl] using ⟨i, hi, rfl⟩)
      exact List.mem_filter.mpr ⟨List.mem_finRange i, isTop_iff.mpr htop⟩
  · rintro ⟨k, hk, rfl⟩
    constructor
    · intro d hd
      simp only [Lineage.chain_map, List.mem_map] at hd
      obtain ⟨i, -, rfl⟩ := hd
      simp
    · rw [Lineage.chain_map, List.map_map]
      exact hk.nodup.map (name_injective hnames)
    · rw [Lineage.chain_map, List.isChain_map]
      refine hk.linked.imp fun i j hij => ?_
      rw [node_ofDeclarations] at hij
      exact (parentOf_eq_some_iff hnames i j).mp hij
    · intro d hd
      rw [Lineage.chain_map, List.head?_map] at hd
      obtain ⟨i, hi, rfl⟩ := Option.mem_map.mp hd
      exact isTop_iff.mp (List.mem_filter.mp (hk.top i hi)).2

end Positions

end Hierarchy

namespace Graph

open Declaration Hierarchy

section Shown

variable {ds : List Declaration} {file : Option String} {suffix : String} {inherit : Bool}

lemma Descends.ancestor {as : List (Fin ds.length)} {a i : Fin ds.length}
    (hc : (ofDeclarations ds file).Descends (tops ds suffix) ⟨as ++ [a], i⟩) :
    (ofDeclarations ds file).Descends (tops ds suffix) ⟨as, a⟩ where
  linked := hc.linked.left_of_append
  top j hj := hc.top j (by rwa [Lineage.head?_chain_concat])

lemma lineageEntry_node {k : Lineage (Fin ds.length)}
    (hk : (ofDeclarations ds file).Descends (tops ds suffix) k) :
    (lineageEntry (ofDeclarations ds file) inherit k).node =
      (k.map ds.get).graphNode file inherit := by
  have hpath := hk.path_eq
  simp only [node_ofDeclarations] at hpath
  simp only [lineageEntry, entry, Lineage.graphNode, Place.depth_along, Place.properties,
    Place.inherited_along, node_ofDeclarations, hpath, Lineage.chain, Lineage.map,
    List.map_append, List.foldl_append, List.foldl_map, List.length_map]
  simp only [Function.comp_def, List.map_cons, List.map_nil, List.map_map]
  cases k.ancestors <;> simp

lemma lineageEntry_link {k : Lineage (Fin ds.length)}
    (hk : (ofDeclarations ds file).Descends (tops ds suffix) k) :
    (lineageEntry (ofDeclarations ds file) inherit k).link =
      (k.map ds.get).graphLink? := by
  obtain ⟨as, i⟩ := k
  have hpath := hk.path_eq
  cases as using List.reverseRecOn with
  | nil => rfl
  | append_singleton as a =>
    have habove := (Descends.ancestor hk).path_eq
    simp [lineageEntry, entry, Place.above_along, Lineage.graphLink?, Lineage.map, hpath, habove,
      Lineage.chain, Function.comp_def]

/-- What the graph of linked declarations shows. -/
structure ShowsLineages (ds : List Declaration) (suffix : String) (file : Option String)
    (inherit : Bool) (cs : List (Lineage Declaration)) (g : Graph) : Prop where
  mem_iff : ∀ c, c ∈ cs ↔ Leads ds suffix c
  sorted : cs.Pairwise fun c d => c.chain.map (ds.idxOf ·) < d.chain.map (ds.idxOf ·)
  owns_nodup : (cs.map (·.own)).Nodup
  nodes_eq : g.nodes = cs.map (Lineage.graphNode file inherit)
  links_eq : g.links = cs.filterMap Lineage.graphLink?

theorem link_shows_lineages (file : Option String) (suffix : String) (inherit : Bool)
    (hnames : (ds.map (·.name)).Nodup)
    (hdots : ∀ d ∈ ds, '.' ∉ d.name.toList) :
    ∃ cs, ShowsLineages ds suffix file inherit cs (ofHierarchy (link ds file suffix) inherit) := by
  have ha := link_arranged hnames file suffix hdots
  have hmem := mem_lineages (r := link ds file suffix) ha
  refine ⟨(lineages (link ds file suffix)).map (Lineage.map ds.get), ?_, ?_, ?_, ?_, ?_⟩
  · intro c
    rw [leads_iff_descends hnames file, List.mem_map]
    simp only [hmem]
  · rw [List.pairwise_map]
    refine (lineages_sorted (r := link ds file suffix) ha).imp fun {c d} hlt => ?_
    have hidx : ∀ l : List (Fin ds.length), (l.map ds.get).map (ds.idxOf ·) =
        l.map fun i => i.val := by
      intro l
      simp [hnames.of_map.idxOf_getElem]
    rw [Lineage.chain_map, Lineage.chain_map, hidx, hidx]
    exact List.map_lt (fun _ _ h => h) hlt
  · have hn := (emitted_paths_nodup (link ds file suffix)).of_map.map (get_injective hnames)
    rw [emitted_eq, List.map_map] at hn
    rwa [List.map_map]
  · rw [ofHierarchy_lineages, List.map_map]
    exact List.map_congr_left fun k hk => lineageEntry_node ((hmem k).mp hk)
  · rw [ofHierarchy_lineages, List.filterMap_map]
    exact List.filterMap_congr fun k hk => lineageEntry_link ((hmem k).mp hk)

lemma ShowsLineages.perm {ds' : List Declaration} {cs cs' : List (Lineage Declaration)}
    {g g' : Graph} (hs : ShowsLineages ds suffix file inherit cs g)
    (hs' : ShowsLineages ds' suffix file inherit cs' g') (hperm : ds'.Perm ds) :
    g'.nodes.Perm g.nodes ∧ g'.links.Perm g.links := by
  have hmem : ∀ c, c ∈ cs' ↔ c ∈ cs := by
    intro c
    rw [hs.mem_iff, hs'.mem_iff]
    constructor
    · exact fun hc => { hc with declared := fun d hd => hperm.mem_iff.mp (hc.declared d hd) }
    · exact fun hc => { hc with declared := fun d hd => hperm.mem_iff.mpr (hc.declared d hd) }
  have hcs : cs'.Perm cs :=
    (List.perm_ext_iff_of_nodup hs'.owns_nodup.of_map hs.owns_nodup.of_map).mpr hmem
  rw [hs.nodes_eq, hs'.nodes_eq, hs.links_eq, hs'.links_eq]
  exact ⟨hcs.map _, hcs.filterMap _⟩

end Shown

/-- The meaning of linking and flattening declarations with distinct names. Climbing to the names of
a path ends for every declaration, on a cycle of parents too. The graph shows the declared lineages
and nothing else, under distinct identifiers, in the order of the declarations; what it shows of
each declaration is the same for every order. -/
theorem link_graph_meaning (ds : List Declaration) (hnames : (ds.map (·.name)).Nodup)
    (hdots : ∀ d ∈ ds, '.' ∉ d.name.toList) (file : Option String) (suffix : String)
    (inherit : Bool) :
    (∀ i : Fin ds.length, ∃ up, Climbs (parentOf ds) [] (some i) up ∧
      ((ofDeclarations ds file).node i).path = dotted (up.reverse.map fun j => (ds.get j).name)) ∧
    (∃ cs, ShowsLineages ds suffix file inherit cs
      (ofHierarchy (link ds file suffix) inherit)) ∧
    ((ofHierarchy (link ds file suffix) inherit).nodes.map (·.id)).Nodup ∧
    ∀ ds' : List Declaration, ds'.Perm ds →
      (ofHierarchy (link ds' file suffix) inherit).nodes.Perm
        (ofHierarchy (link ds file suffix) inherit).nodes ∧
      (ofHierarchy (link ds' file suffix) inherit).links.Perm
        (ofHierarchy (link ds file suffix) inherit).links := by
  obtain ⟨cs, hcs⟩ := link_shows_lineages file suffix inherit hnames hdots
  refine ⟨?_, ⟨cs, hcs⟩, (ofHierarchy_isForest _ inherit).ids_nodup, ?_⟩
  · intro i
    exact ⟨chain (parentOf ds) i, chain_climbs (parentOf ds) i, by rw [node_ofDeclarations]⟩
  · intro ds' hperm
    obtain ⟨cs', hcs'⟩ := link_shows_lineages file suffix inherit
      ((hperm.map (·.name)).nodup_iff.mpr hnames)
      fun d hd => hdots d (hperm.mem_iff.mp hd)
    exact hcs.perm hcs' hperm

/-- A type declared before its parent, a type that extends itself, a dangling one and one below a
cycle. -/
def tangled : List Declaration :=
  [⟨"Admin", some "User", [], 1, ""⟩, ⟨"Loop", some "Loop", [], 2, ""⟩, ⟨"User", none, [], 3, ""⟩,
    ⟨"Lost", some "Nowhere", [], 4, ""⟩, ⟨"Tail", some "Loop", [], 5, ""⟩]

/-- More types: one whose parent has no name, one below another, and one without the suffix. -/
def untangled : List Declaration :=
  [⟨"SuperUser", some "", [], 6, ""⟩, ⟨"Owner", some "Admin", [], 7, ""⟩, ⟨"Free", none, [], 8, ""⟩]

theorem link_graph_meaning_tangled :
    let g := ofHierarchy (link (tangled ++ untangled) none "User") true
    let g' := ofHierarchy (link (tangled ++ untangled).reverse none "User") true
    ((tangled ++ untangled).map (·.name)).Nodup ∧
    (∀ d ∈ tangled ++ untangled, '.' ∉ d.name.toList) ∧
    (∃ cs, ShowsLineages (tangled ++ untangled) "User" none true cs g) ∧
    g.nodes.map (fun v => (v.id, v.depth)) =
      [("User", 0), ("User.Admin", 1), ("User.Admin.Owner", 2), ("SuperUser", 0)] ∧
    g.links = [⟨"User", "User.Admin"⟩, ⟨"User.Admin", "User.Admin.Owner"⟩] ∧
    g'.nodes.Perm g.nodes ∧ g'.links.Perm g.links := by
  have hnames : ((tangled ++ untangled).map (·.name)).Nodup := by decide
  have hdots : ∀ d ∈ tangled ++ untangled, '.' ∉ d.name.toList := by decide
  obtain ⟨-, hshows, -, hperm⟩ :=
    link_graph_meaning (tangled ++ untangled) hnames hdots none "User" true
  have hreverse := hperm _ (tangled ++ untangled).reverse_perm
  exact ⟨hnames, hdots, hshows, by decide, by decide, hreverse.1, hreverse.2⟩

end Graph

end TypeLineage
