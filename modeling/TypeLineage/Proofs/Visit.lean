import Mathlib.Data.Fintype.Card
import Mathlib.Data.List.Nodup
import Mathlib.Tactic.Common
import TypeLineage.Hierarchy.Traversal

/-!
# The recursion behind the depth-first forest

`Visits` is the visiting of a hierarchy with no bound on its levels: a node whose path is taken is
passed over, any other takes its path and is followed by the visit of its children. This file shows
that the visit ends for every hierarchy, that `forest` is its outcome, and which paths are taken by
then.
-/

namespace TypeLineage

mutual

/-- The nodes of a branch, each in front of what hangs below it. -/
def Branch.preorder {n : Nat} : Branch n → List (Fin n)
  | .mk i below => i :: Branch.preorderAll below

def Branch.preorderAll {n : Nat} : List (Branch n) → List (Fin n)
  | [] => []
  | b :: rest => b.preorder ++ Branch.preorderAll rest

end

namespace Hierarchy

/-- A visit of nodes in order: the taken paths before, the nodes, the branches grown and the taken
paths afterwards. -/
inductive Visits (h : Hierarchy) :
    List String → List h.Index → List (Branch h.size) → List String → Prop where
  | done (taken : List String) : Visits h taken [] [] taken
  | pass {taken taken' : List String} {i : h.Index} {rest : List h.Index}
      {grown : List (Branch h.size)} (hi : (h.node i).path ∈ taken)
      (hrest : Visits h taken rest grown taken') :
      Visits h taken (i :: rest) grown taken'
  | enter {taken within taken' : List String} {i : h.Index} {rest : List h.Index}
      {below grown : List (Branch h.size)} (hi : (h.node i).path ∉ taken)
      (hbelow : Visits h ((h.node i).path :: taken) (h.node i).children below within)
      (hrest : Visits h within rest grown taken') :
      Visits h taken (i :: rest) (.mk i below :: grown) taken'

section Growing

variable (h : Hierarchy)

lemma grow_nil (levels : Nat) (taken : List String) : grow h levels taken [] = ([], taken) := by
  cases levels <;> rfl

lemma grow_foldl_append (levels : Nat) (nodes : List h.Index) (done : List (Branch h.size))
    (taken : List String) :
    nodes.foldl
      (fun (done, taken) i =>
        let path := (h.node i).path
        if path ∈ taken then (done, taken)
        else
          let (below, taken) := grow h levels (path :: taken) (h.node i).children
          (done ++ [Branch.mk i below], taken))
      (done, taken) =
    (done ++ (grow h (levels + 1) taken nodes).1, (grow h (levels + 1) taken nodes).2) := by
  rw [grow]
  induction nodes generalizing done taken with
  | nil => simp
  | cons i rest ih =>
    simp only [List.foldl_cons]
    split
    · exact ih done taken
    · rw [ih, ih ([] ++ _)]
      simp

lemma grow_pass (levels : Nat) {taken : List String} {i : h.Index} (rest : List h.Index)
    (hi : (h.node i).path ∈ taken) :
    grow h (levels + 1) taken (i :: rest) = grow h (levels + 1) taken rest := by
  rw [grow, grow, List.foldl_cons]
  simp only [hi, if_true]

lemma grow_enter (levels : Nat) {taken : List String} {i : h.Index} (rest : List h.Index)
    (hi : (h.node i).path ∉ taken) :
    grow h (levels + 1) taken (i :: rest) =
      let inner := grow h levels ((h.node i).path :: taken) (h.node i).children
      let later := grow h (levels + 1) inner.2 rest
      (.mk i inner.1 :: later.1, later.2) := by
  conv_lhs => rw [grow, List.foldl_cons]
  simp only [hi, if_false, List.nil_append]
  rw [grow_foldl_append]
  rfl

/-- The number of nodes whose paths are free. It goes down at every level of the recursion. -/
def free (taken : List String) : Nat :=
  (Finset.univ.filter fun i : h.Index => (h.node i).path ∉ taken).card

lemma free_nil : h.free [] = h.size := by
  simp [free]

lemma free_le_of_subset {taken taken' : List String} (hsub : taken ⊆ taken') :
    h.free taken' ≤ h.free taken := by
  apply Finset.card_le_card
  intro i hi
  simp only [Finset.mem_filter, Finset.mem_univ, true_and] at hi ⊢
  exact fun hmem => hi (hsub hmem)

lemma free_cons_lt {taken : List String} {i : h.Index} (hi : (h.node i).path ∉ taken) :
    h.free ((h.node i).path :: taken) < h.free taken := by
  apply Finset.card_lt_card
  refine Finset.ssubset_iff_of_subset ?_ |>.mpr ⟨i, ?_, ?_⟩
  · intro j hj
    simp only [Finset.mem_filter, Finset.mem_univ, true_and, List.mem_cons, not_or] at hj ⊢
    exact hj.2
  · simpa using hi
  · simp

end Growing

namespace Visits

variable {h : Hierarchy} {taken taken' : List String} {nodes : List h.Index}
  {grown : List (Branch h.size)}

theorem taken_eq (hv : Visits h taken nodes grown taken') :
    taken' = ((Branch.preorderAll grown).map fun i => (h.node i).path).reverse ++ taken := by
  induction hv with
  | done => rfl
  | pass _ _ ih => exact ih
  | enter _ _ _ ihbelow ihrest =>
    rw [ihrest, ihbelow]
    simp [Branch.preorderAll, Branch.preorder]

lemma subset (hv : Visits h taken nodes grown taken') : taken ⊆ taken' := by
  rw [hv.taken_eq]
  exact List.subset_append_right _ _

lemma mem_taken_iff (hv : Visits h taken nodes grown taken') {path : String} :
    path ∈ taken' ↔
      path ∈ taken ∨ path ∈ (Branch.preorderAll grown).map fun i => (h.node i).path := by
  rw [hv.taken_eq, List.mem_append, List.mem_reverse, or_comm]

theorem nodup (hv : Visits h taken nodes grown taken') (hn : taken.Nodup) : taken'.Nodup := by
  induction hv with
  | done => exact hn
  | pass _ _ ih => exact ih hn
  | enter hi _ _ ihbelow ihrest => exact ihrest (ihbelow (List.nodup_cons.mpr ⟨hi, hn⟩))

theorem path_mem (hv : Visits h taken nodes grown taken') :
    ∀ i ∈ nodes, (h.node i).path ∈ taken' := by
  induction hv with
  | done => simp
  | pass hi hrest ih =>
    rintro j hj
    rcases List.mem_cons.mp hj with rfl | hj
    · exact hrest.subset hi
    · exact ih j hj
  | enter _ hbelow hrest _ ih =>
    rintro j hj
    rcases List.mem_cons.mp hj with rfl | hj
    · exact hrest.subset (hbelow.subset (by simp))
    · exact ih j hj

theorem child_path_mem (hv : Visits h taken nodes grown taken') :
    ∀ i ∈ Branch.preorderAll grown, ∀ j ∈ (h.node i).children, (h.node j).path ∈ taken' := by
  induction hv with
  | done => simp [Branch.preorderAll]
  | pass _ _ ih => exact ih
  | enter _ hbelow hrest ihbelow ihrest =>
    intro k hk j hj
    simp only [Branch.preorderAll, Branch.preorder, List.cons_append, List.mem_cons,
      List.mem_append] at hk
    rcases hk with rfl | hk | hk
    · exact hrest.subset (hbelow.path_mem j hj)
    · exact hrest.subset (ihbelow k hk j hj)
    · exact ihrest k hk j hj

theorem outcome_unique (hv : Visits h taken nodes grown taken') {grown₂ : List (Branch h.size)}
    {taken₂ : List String} (hv₂ : Visits h taken nodes grown₂ taken₂) :
    grown = grown₂ ∧ taken' = taken₂ := by
  induction hv generalizing grown₂ taken₂ with
  | done =>
    cases hv₂
    exact ⟨rfl, rfl⟩
  | pass hi _ ih =>
    cases hv₂ with
    | pass _ hrest => exact ih hrest
    | enter hn => exact absurd hi hn
  | enter hn _ _ ihbelow ihrest =>
    cases hv₂ with
    | pass hi => exact absurd hi hn
    | enter _ hbelow hrest =>
      obtain ⟨rfl, rfl⟩ := ihbelow hbelow
      obtain ⟨rfl, rfl⟩ := ihrest hrest
      exact ⟨rfl, rfl⟩

end Visits

/-- With a level for every free node the bound of `grow` is never met. -/
theorem grow_visits (h : Hierarchy) (levels : Nat) (taken : List String) (nodes : List h.Index)
    (hl : h.free taken ≤ levels) :
    Visits h taken nodes (grow h levels taken nodes).1 (grow h levels taken nodes).2 := by
  induction levels generalizing taken nodes with
  | zero =>
    have hall : ∀ i, (h.node i).path ∈ taken := by
      intro i
      by_contra hi
      have := h.free_cons_lt hi
      omega
    show Visits h taken nodes [] taken
    induction nodes with
    | nil => exact .done taken
    | cons i rest ih => exact .pass (hall i) ih
  | succ levels ihlevels =>
    induction nodes generalizing taken with
    | nil =>
      rw [grow_nil]
      exact .done taken
    | cons i rest ihrest =>
      by_cases hi : (h.node i).path ∈ taken
      · rw [grow_pass h levels rest hi]
        exact .pass hi (ihrest taken hl)
      · rw [grow_enter h levels rest hi]
        have hlt := h.free_cons_lt hi
        have hbelow := ihlevels ((h.node i).path :: taken) (h.node i).children (by omega)
        have hle := h.free_le_of_subset hbelow.subset
        exact .enter hi hbelow (ihrest _ (by omega))

/-- The visit of any nodes ends, and the forest is what it has grown by then. -/
theorem forest_visits (h : Hierarchy) (roots : List h.Index) :
    Visits h [] roots (h.forest roots) (grow h h.size [] roots).2 :=
  grow_visits h h.size [] roots (h.free_nil).le

theorem visits_iff_forest (h : Hierarchy) (roots : List h.Index) (grown : List (Branch h.size))
    (taken : List String) :
    Visits h [] roots grown taken ↔
      grown = h.forest roots ∧
        taken = ((Branch.preorderAll grown).map fun i => (h.node i).path).reverse := by
  have hf := h.forest_visits roots
  constructor
  · intro hv
    exact ⟨(hv.outcome_unique hf).1, by simpa using hv.taken_eq⟩
  · rintro ⟨rfl, rfl⟩
    have ht := hf.taken_eq
    rw [List.append_nil] at ht
    rwa [ht] at hf

end Hierarchy

end TypeLineage
