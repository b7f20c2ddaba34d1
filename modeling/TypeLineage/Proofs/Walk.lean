import Mathlib.Algebra.BigOperators.Fin
import Mathlib.Logic.Relation
import Mathlib.Tactic.Common
import TypeLineage.Proofs.Linking
import TypeLineage.Proofs.NormalForm
import TypeLineage.Workspace.Loader

/-!
# Walking with a stack

`Walks` takes nodes from a stack with no bound on the number of steps: one that was seen before is
passed over, any other is listed and its children go on top. The walk ends for every hierarchy, and
it lists what can be reached from the roots. Where nodes that can be reached have different paths, it
lists the nodes of the depth-first forest in their order, though one looks at nodes and the other at
paths.
-/

namespace TypeLineage

namespace Hierarchy

/-- A walk: the nodes seen before, the stack, the nodes that are listed. -/
inductive Walks (h : Hierarchy) : List h.Index → List h.Index → List h.Index → Prop where
  | done (seen : List h.Index) : Walks h seen [] []
  | again {seen stack listed : List h.Index} {i : h.Index} (hi : i ∈ seen)
      (hrest : Walks h seen stack listed) : Walks h seen (i :: stack) listed
  | step {seen stack listed : List h.Index} {i : h.Index} (hi : i ∉ seen)
      (hrest : Walks h (i :: seen) ((h.node i).children ++ stack) listed) :
      Walks h seen (i :: stack) (i :: listed)

/-- A node is a child of another. -/
def Child (h : Hierarchy) (i j : h.Index) : Prop :=
  j ∈ (h.node i).children

/-- A node can be reached from one of some nodes by way of children. -/
def Reaches (h : Hierarchy) (roots : List h.Index) (j : h.Index) : Prop :=
  ∃ i ∈ roots, Relation.ReflTransGen h.Child i j

section Steps

variable (h : Hierarchy)

/-- The number of times that something can still be taken from the stack: each node on it, and once
each child of a node not seen yet. -/
def pending (seen stack : List h.Index) : Nat :=
  stack.length + ∑ i ∈ Finset.univ \ seen.toFinset, (h.node i).children.length

lemma pending_step {seen stack : List h.Index} {i : h.Index} (hi : i ∉ seen) :
    h.pending (i :: seen) ((h.node i).children ++ stack) + 1 = h.pending seen (i :: stack) := by
  have hmem : i ∈ Finset.univ \ seen.toFinset := by simpa using hi
  have herase : Finset.univ \ (i :: seen).toFinset = (Finset.univ \ seen.toFinset).erase i := by
    ext j
    simp [not_or]
  have hsum := Finset.add_sum_erase _ (fun j : h.Index => (h.node j).children.length) hmem
  rw [pending, pending, herase, ← hsum, List.length_append, List.length_cons]
  omega

lemma pending_nil (roots : List h.Index) : h.pending [] roots = h.entries roots := by
  have hnodes : h.nodes.toList = (List.finRange h.size).map h.node := by
    apply List.ext_getElem
    · simp
    · intro k hk hk'
      simp [node]
  have hfold : ∀ (l : List h.Index) (start : Nat),
      (l.map h.node).foldl (fun total t => total + t.children.length) start =
        start + (l.map fun i => (h.node i).children.length).sum := by
    intro l
    induction l with
    | nil => simp
    | cons i l ih =>
      intro start
      rw [List.map_cons, List.foldl_cons, ih, List.map_cons, List.sum_cons, Nat.add_assoc]
  rw [pending, entries, hnodes, hfold, ← Fin.sum_univ_def]
  simp

/-- With a step for everything that can be taken from the stack the bound of `walk` is never met. -/
theorem walk_walks (steps : Nat) (seen stack : List h.Index) (hsteps : h.pending seen stack ≤ steps) :
    Walks h seen stack (walk h steps seen stack) := by
  induction steps generalizing seen stack with
  | zero =>
    have hnil : stack = [] := by
      apply List.eq_nil_of_length_eq_zero
      rw [pending] at hsteps
      omega
    subst hnil
    exact .done seen
  | succ steps ih =>
    cases stack with
    | nil => exact .done seen
    | cons i stack =>
      rw [walk]
      by_cases hi : i ∈ seen
      · rw [if_pos hi]
        apply Walks.again hi
        apply ih
        rw [pending, List.length_cons] at hsteps
        rw [pending]
        omega
      · rw [if_neg hi]
        apply Walks.step hi
        apply ih
        have hstep : h.pending (i :: seen) ((h.node i).children ++ stack) + 1 =
            h.pending seen (i :: stack) := h.pending_step hi
        omega

theorem reachable_walks (roots : List h.Index) : Walks h [] roots (h.reachable roots) :=
  h.walk_walks _ [] roots (h.pending_nil roots).le

end Steps

namespace Walks

variable {h : Hierarchy} {seen stack listed : List h.Index} {i j : h.Index}

theorem outcome_unique (hw : Walks h seen stack listed) {listed' : List h.Index}
    (hw' : Walks h seen stack listed') : listed = listed' := by
  induction hw generalizing listed' with
  | done =>
    cases hw'
    rfl
  | again hi _ ih =>
    cases hw' with
    | again _ hrest => exact ih hrest
    | step hn => exact absurd hi hn
  | step hn _ ih =>
    cases hw' with
    | again hi => exact absurd hi hn
    | step _ hrest => rw [ih hrest]

lemma not_mem_seen (hw : Walks h seen stack listed) : ∀ j ∈ listed, j ∉ seen := by
  induction hw with
  | done => simp
  | again _ _ ih => exact ih
  | step hn _ ih =>
    intro j hj
    rcases List.mem_cons.mp hj with rfl | hj
    · exact hn
    · exact fun hmem => ih j hj (List.mem_cons_of_mem _ hmem)

theorem nodup (hw : Walks h seen stack listed) : listed.Nodup := by
  induction hw with
  | done => exact List.nodup_nil
  | again _ _ ih => exact ih
  | step _ hrest ih =>
    refine List.nodup_cons.mpr ⟨fun hmem => ?_, ih⟩
    exact hrest.not_mem_seen _ hmem List.mem_cons_self

lemma reaches (hw : Walks h seen stack listed) : ∀ j ∈ listed, h.Reaches stack j := by
  induction hw with
  | done => simp
  | again _ _ ih =>
    intro j hj
    obtain ⟨k, hk, hpath⟩ := ih j hj
    exact ⟨k, List.mem_cons_of_mem _ hk, hpath⟩
  | @step seen stack listed i _ _ ih =>
    intro j hj
    rcases List.mem_cons.mp hj with rfl | hj
    · exact ⟨j, List.mem_cons_self, .refl⟩
    · obtain ⟨k, hk, hpath⟩ := ih j hj
      rcases List.mem_append.mp hk with hk | hk
      · exact ⟨i, List.mem_cons_self, .head hk hpath⟩
      · exact ⟨k, List.mem_cons_of_mem _ hk, hpath⟩

/-- The stack is used up: all that was on it has been seen or is listed. -/
lemma mem_of_mem_stack (hw : Walks h seen stack listed) :
    ∀ j ∈ stack, j ∈ seen ∨ j ∈ listed := by
  induction hw with
  | done => simp
  | again hi _ ih =>
    intro j hj
    rcases List.mem_cons.mp hj with rfl | hj
    · exact .inl hi
    · exact ih j hj
  | step _ _ ih =>
    intro j hj
    rcases List.mem_cons.mp hj with rfl | hj
    · exact .inr List.mem_cons_self
    · have hmem := ih j (List.mem_append_right _ hj)
      rw [List.mem_cons] at hmem ⊢
      tauto

lemma mem_of_child (hw : Walks h seen stack listed) :
    ∀ i ∈ listed, ∀ j, h.Child i j → j ∈ seen ∨ j ∈ listed := by
  induction hw with
  | done => simp
  | again _ _ ih => exact ih
  | @step seen stack listed k _ hrest ih =>
    intro i hi j hj
    have hmem : j ∈ k :: seen ∨ j ∈ listed := by
      rcases List.mem_cons.mp hi with rfl | hi
      · exact hrest.mem_of_mem_stack j (List.mem_append_left _ hj)
      · exact ih i hi j hj
    rw [List.mem_cons] at hmem ⊢
    tauto

theorem mem_iff (hw : Walks h [] stack listed) : j ∈ listed ↔ h.Reaches stack j := by
  refine ⟨hw.reaches j, ?_⟩
  rintro ⟨i, hi, hpath⟩
  induction hpath with
  | refl => simpa using hw.mem_of_mem_stack i hi
  | tail _ hchild ih => simpa using hw.mem_of_child _ ih _ hchild

end Walks

theorem walks_iff_reachable (h : Hierarchy) (roots listed : List h.Index) :
    Walks h [] roots listed ↔ listed = h.reachable roots := by
  have hw := h.reachable_walks roots
  constructor
  · exact fun hl => hl.outcome_unique hw
  · rintro rfl
    exact hw

/-- Nodes that can be reached from the roots have different paths. -/
def TellsApart (h : Hierarchy) (roots : List h.Index) : Prop :=
  ∀ i j, h.Reaches roots i → h.Reaches roots j → (h.node i).path = (h.node j).path → i = j

section Agreement

variable {h : Hierarchy} {roots seen stack listed nodes : List h.Index} {taken taken' : List String}
  {grown : List (Branch h.size)} {i j : h.Index}

lemma Reaches.child (hi : h.Reaches roots i) (hj : h.Child i j) : h.Reaches roots j := by
  obtain ⟨k, hk, hpath⟩ := hi
  exact ⟨k, hk, hpath.tail hj⟩

lemma Visits.reaches (hv : Visits h taken nodes grown taken')
    (hnodes : ∀ i ∈ nodes, h.Reaches roots i) :
    ∀ j ∈ Branch.preorderAll grown, h.Reaches roots j := by
  induction hv with
  | done => simp [Branch.preorderAll]
  | pass _ _ ih => exact ih fun i hi => hnodes i (List.mem_cons_of_mem _ hi)
  | @enter _ _ _ i rest _ _ _ _ _ ihbelow ihrest =>
    have hi : h.Reaches roots i := hnodes i List.mem_cons_self
    intro j hj
    simp only [Branch.preorderAll, Branch.preorder, List.cons_append, List.mem_cons,
      List.mem_append] at hj
    rcases hj with rfl | hj | hj
    · exact hi
    · exact ihbelow (fun k hk => hi.child hk) j hj
    · exact ihrest (fun k hk => hnodes k (List.mem_cons_of_mem _ hk)) j hj

/-- The taken paths are those of the seen nodes, as far as nodes can be reached. -/
def Matches (h : Hierarchy) (roots seen : List h.Index) (taken : List String) : Prop :=
  ∀ i, h.Reaches roots i → ((h.node i).path ∈ taken ↔ i ∈ seen)

lemma Matches.visits (hapart : h.TellsApart roots) (hmatch : h.Matches roots seen taken)
    (hv : Visits h taken nodes grown taken') (hnodes : ∀ i ∈ nodes, h.Reaches roots i) :
    h.Matches roots ((Branch.preorderAll grown).reverse ++ seen) taken' := by
  intro i hi
  have hpath : (h.node i).path ∈ (Branch.preorderAll grown).map (fun j => (h.node j).path) ↔
      i ∈ Branch.preorderAll grown := by
    constructor
    · intro hmem
      obtain ⟨j, hj, heq⟩ := List.mem_map.mp hmem
      exact hapart j i (hv.reaches hnodes j hj) hi heq ▸ hj
    · exact fun hmem => List.mem_map_of_mem hmem
  rw [hv.mem_taken_iff, hmatch i hi, hpath, List.mem_append, List.mem_reverse, or_comm]

lemma Matches.cons (hapart : h.TellsApart roots) (hmatch : h.Matches roots seen taken)
    (hi : h.Reaches roots i) : h.Matches roots (i :: seen) ((h.node i).path :: taken) := by
  intro j hj
  have hpath : (h.node j).path = (h.node i).path ↔ j = i :=
    ⟨hapart j i hj hi, fun heq => heq ▸ rfl⟩
  rw [List.mem_cons, List.mem_cons, hpath, hmatch j hj]

/-- A visit of nodes is a walk that has these nodes on top of its stack, and goes on with the rest
of the stack afterwards. -/
theorem Visits.walks (hapart : h.TellsApart roots) (hv : Visits h taken nodes grown taken')
    (hmatch : h.Matches roots seen taken) (hnodes : ∀ i ∈ nodes, h.Reaches roots i)
    (hrest : Walks h ((Branch.preorderAll grown).reverse ++ seen) stack listed) :
    Walks h seen (nodes ++ stack) (Branch.preorderAll grown ++ listed) := by
  -- The siblings still to be visited are part of the stack while the children are.
  induction hv generalizing seen stack listed with
  | done => exact hrest
  | @pass _ _ i rest _ hi _ ih =>
    have hseen : i ∈ seen := (hmatch i (hnodes i List.mem_cons_self)).mp hi
    exact .again hseen (ih hmatch (fun k hk => hnodes k (List.mem_cons_of_mem _ hk)) hrest)
  | @enter taken within taken' i rest below grown hi hbelow hlater ihbelow ihrest =>
    have hreach : h.Reaches roots i := hnodes i List.mem_cons_self
    have hchildren : ∀ k ∈ (h.node i).children, h.Reaches roots k := fun k hk => hreach.child hk
    have hmatchi := hmatch.cons hapart hreach
    have hmatchrest := hmatchi.visits hapart hbelow hchildren
    have hseen : i ∉ seen := fun hmem => hi ((hmatch i hreach).mpr hmem)
    have hsiblings : Walks h ((Branch.preorderAll below).reverse ++ i :: seen) (rest ++ stack)
        (Branch.preorderAll grown ++ listed) := by
      apply ihrest hmatchrest fun k hk => hnodes k (List.mem_cons_of_mem _ hk)
      simpa [Branch.preorderAll, Branch.preorder] using hrest
    have hwalk := ihbelow hmatchi hchildren hsiblings
    simpa [Branch.preorderAll, Branch.preorder] using Walks.step hseen hwalk

/-- The walk lists the nodes of the forest in their order. -/
theorem reachable_eq_preorder (hapart : h.TellsApart roots) :
    h.reachable roots = Branch.preorderAll (h.forest roots) := by
  have hmatch : h.Matches roots [] [] := by simp [Matches]
  have hroots : ∀ i ∈ roots, h.Reaches roots i := fun i hi => ⟨i, hi, .refl⟩
  have hw := (h.forest_visits roots).walks hapart hmatch hroots (.done _)
  rw [List.append_nil, List.append_nil] at hw
  exact (h.reachable_walks roots).outcome_unique hw

end Agreement

section Linked

variable {ds : List Declaration} {file : Option String} {suffix : String}

lemma Arranged.exists_descends {h : Hierarchy} {roots : List h.Index} (ha : h.Arranged roots)
    {j : h.Index} (hj : h.Reaches roots j) : ∃ c, h.Descends roots c ∧ c.own = j := by
  obtain ⟨i, hi, hpath⟩ := hj
  induction hpath with
  | refl => exact ⟨⟨[], i⟩, ha.ready.descends i hi, rfl⟩
  | @tail k j _ hchild ih =>
    obtain ⟨⟨ancestors, own⟩, hc, rfl⟩ := ih
    exact ⟨⟨ancestors ++ [own], j⟩, hc.concat ((ha.mem_children own j).mp hchild), rfl⟩

lemma Arranged.tellsApart {h : Hierarchy} {roots : List h.Index} (ha : h.Arranged roots) :
    h.TellsApart roots := by
  intro i j hi hj hpath
  obtain ⟨c, hc, rfl⟩ := ha.exists_descends hi
  obtain ⟨d, hd, rfl⟩ := ha.exists_descends hj
  rw [ha.path_inj c d hc hd hpath]

lemma link_tellsApart (text : List Char) (file : String) (source : Option String)
    (suffix : String) :
    (ofDeclarations (Declaration.parse text file) source).TellsApart
      (tops (Declaration.parse text file) suffix) := by
  have ha := link_arranged (Declaration.nodup_parse text file) source suffix
    fun d hd => Declaration.dot_not_mem_name_of_mem_parse hd
  exact ha.tellsApart

end Linked

end Hierarchy

namespace Graph

open Hierarchy

lemma ids_eq_reachable {r : Rooted} (hapart : r.hierarchy.TellsApart r.roots) (inherit : Bool) :
    (ofHierarchy r inherit).nodes.map (·.id) =
      (r.hierarchy.reachable r.roots).map fun i => (r.hierarchy.node i).path := by
  rw [ofHierarchy_ids, reachable_eq_preorder hapart]
  rfl

lemma length_nodes_eq {r : Rooted} (hapart : r.hierarchy.TellsApart r.roots) (inherit : Bool) :
    (ofHierarchy r inherit).nodes.length = (r.hierarchy.reachable r.roots).length := by
  have hlength := congrArg List.length (ids_eq_reachable hapart inherit)
  simpa using hlength

/-- The walk ends, lists each node that can be reached from the roots once and nothing else, and
where these have different paths, the paths are the identifiers of the graph in their order. So the
number of types that is told to be reachable, for whatever text was parsed, is that of the graph. -/
theorem walk_agrees_with_graph (r : Rooted) (inherit : Bool)
    (hapart : r.hierarchy.TellsApart r.roots) :
    (∀ listed, r.hierarchy.Walks [] r.roots listed ↔ listed = r.hierarchy.reachable r.roots) ∧
    (r.hierarchy.reachable r.roots).Nodup ∧
    (∀ j, j ∈ r.hierarchy.reachable r.roots ↔ r.hierarchy.Reaches r.roots j) ∧
    ((r.hierarchy.reachable r.roots).map fun i => (r.hierarchy.node i).path) =
      (ofHierarchy r inherit).nodes.map (·.id) ∧
    ∀ (text : List Char) (file suffix : String) (types count roots : Nat),
      let ds := Declaration.parse text file
      let linked : Rooted := link ds (some file) suffix
      Notice.reached types count roots ∈ Workspace.linkNotices ds linked ↔
        types = ds.length ∧ count = (ofHierarchy linked inherit).nodes.length ∧
          roots = linked.roots.length := by
  have hw := r.hierarchy.reachable_walks r.roots
  refine ⟨r.hierarchy.walks_iff_reachable r.roots, hw.nodup, fun j => hw.mem_iff,
    (ids_eq_reachable hapart inherit).symm, ?_⟩
  intro text file suffix types count roots
  dsimp only
  have hcount := length_nodes_eq (r := link (Declaration.parse text file) (some file) suffix)
    (link_tellsApart text file (some file) suffix) inherit
  rw [hcount, Workspace.linkNotices]
  split <;> simp

/-- Three types that are children of each other, two of them roots. -/
def entangled : Rooted where
  hierarchy :=
    { size := 3
      nodes := #v[⟨"A", [], "a.ts", 1, 0, "A", none, [1, 2]⟩, ⟨"B", [], "a.ts", 2, 0, "A.B", some 0, [2, 0]⟩,
        ⟨"C", [], "a.ts", 3, 0, "C", none, [1]⟩] }
  roots := [(0 : Fin 3), (2 : Fin 3)]

theorem walk_agrees_with_graph_entangled :
    entangled.hierarchy.TellsApart entangled.roots ∧
    (ofHierarchy entangled true).nodes.map (·.id) = ["A", "A.B", "C"] := by
  have hpaths : ∀ i j : Fin 3, (entangled.hierarchy.node i).path = (entangled.hierarchy.node j).path →
      i = j := by decide
  have hapart : entangled.hierarchy.TellsApart entangled.roots := fun i j _ _ => hpaths i j
  obtain ⟨-, -, -, hids, -⟩ := walk_agrees_with_graph entangled true hapart
  have hwalk : (entangled.hierarchy.reachable entangled.roots).map
      (fun i => (entangled.hierarchy.node i).path) = ["A", "A.B", "C"] := by decide
  exact ⟨hapart, hids.symm.trans hwalk⟩

end Graph

end TypeLineage
