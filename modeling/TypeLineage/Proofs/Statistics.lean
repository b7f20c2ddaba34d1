import Mathlib.Algebra.BigOperators.Group.Finset.Basic
import Mathlib.Data.List.Sort
import TypeLineage.Graph.Depths
import TypeLineage.Proofs.Ancestry
import TypeLineage.Proofs.Nearest
import TypeLineage.Workspace.Loader

/-!
# Statistics of graphs of hierarchies

The depths that occur are counted in ascending order. In a forest every node that is not a root hangs
one level below another, so that no depth is left out, and there is one link for each of these nodes.
-/

namespace TypeLineage

namespace DepthStats

section Repetitions

lemma eraseRepsBy_loop {α : Type} (r : α → α → Bool) (x : α) (xs acc : List α) :
    List.eraseRepsBy.loop r x xs acc = acc.reverse ++ List.eraseRepsBy.loop r x xs [] := by
  induction xs generalizing x acc with
  | nil => simp [List.eraseRepsBy.loop]
  | cons y ys ih =>
    simp only [List.eraseRepsBy.loop]
    split
    · exact ih x acc
    · rw [ih y (x :: acc), ih y [x]]
      simp

variable {α : Type} [BEq α] [LawfulBEq α]

lemma eraseReps_cons_cons (x y : α) (ys : List α) :
    (x :: y :: ys).eraseReps = if x == y then (y :: ys).eraseReps else x :: (y :: ys).eraseReps := by
  simp only [List.eraseReps, List.eraseRepsBy, List.eraseRepsBy.loop]
  by_cases hxy : x == y
  · rw [hxy, if_pos rfl, eq_of_beq hxy]
  · rw [Bool.eq_false_of_not_eq_true hxy, if_neg (by simp)]
    exact eraseRepsBy_loop _ y ys [x]

lemma mem_eraseReps {z : α} {xs : List α} : z ∈ xs.eraseReps ↔ z ∈ xs := by
  induction xs with
  | nil => exact Iff.rfl
  | cons x rest ih =>
    cases rest with
    | nil => exact Iff.rfl
    | cons y ys =>
      rw [eraseReps_cons_cons]
      split <;> simp_all

lemma eraseReps_sorted {xs : List Int} (hxs : xs.Pairwise (· ≤ ·)) :
    xs.eraseReps.Pairwise (· < ·) := by
  induction xs with
  | nil => exact .nil
  | cons x rest ih =>
    cases rest with
    | nil => exact List.pairwise_singleton _ _
    | cons y ys =>
      rw [List.pairwise_cons] at hxs
      rw [eraseReps_cons_cons]
      split
      · exact ih hxs.2
      · rename_i hxy
        have hlt : x < y := lt_of_le_of_ne (hxs.1 y (by simp)) (by simpa using hxy)
        refine List.pairwise_cons.mpr ⟨fun z hz => ?_, ih hxs.2⟩
        rcases List.mem_cons.mp (mem_eraseReps.mp hz) with rfl | hz
        · exact hlt
        · exact hlt.trans_le ((List.pairwise_cons.mp hxs.2).1 z hz)

end Repetitions

section Counts

variable (depths : List Int)

/-- The depths that occur, ascending. -/
def occurring : List Int :=
  (depths.mergeSort (· ≤ ·)).eraseReps

lemma byDepth_ofDepths :
    (ofDepths depths).byDepth = (occurring depths).map fun d => (d, depths.count d) :=
  rfl

lemma mem_occurring {d : Int} : d ∈ occurring depths ↔ d ∈ depths := by
  rw [occurring, mem_eraseReps, List.mem_mergeSort]

lemma occurring_sorted : (occurring depths).Pairwise (· < ·) := by
  refine eraseReps_sorted ?_
  have hsorted : (depths.mergeSort (· ≤ ·)).Pairwise fun d d' => decide (d ≤ d') = true := by
    refine List.pairwise_mergeSort (fun a b c hab hbc => ?_) (fun a b => ?_) depths
    · exact decide_eq_true ((of_decide_eq_true hab).trans (of_decide_eq_true hbc))
    · simpa using le_total a b
  simpa using hsorted

lemma sum_occurring {M : Type} [AddCommMonoid M] (f : Int → M) :
    ((occurring depths).map fun d => depths.count d • f d).sum = (depths.map f).sum := by
  have hset : (occurring depths).toFinset = depths.toFinset := by
    ext d
    simp [mem_occurring]
  rw [← List.sum_toFinset _ ((occurring_sorted depths).imp fun h => ne_of_lt h), hset,
    Finset.sum_list_map_count]

lemma getD_lookup_byDepth (d : Int) :
    ((ofDepths depths).byDepth.lookup d).getD 0 = depths.count d := by
  rw [byDepth_ofDepths]
  by_cases hd : d ∈ depths
  · rw [List.lookup_graph _ ((mem_occurring depths).mpr hd), Option.getD_some]
  · have hnone : ((occurring depths).map fun d => (d, depths.count d)).lookup d = none := by
      rw [List.lookup_eq_none_iff]
      rintro p hp
      obtain ⟨d', hd', rfl⟩ := List.mem_map.mp hp
      exact bne_iff_ne.mpr fun heq => hd (heq ▸ (mem_occurring depths).mp hd')
    rw [hnone, Option.getD_none, List.count_eq_zero_of_not_mem hd]

lemma average_rounds (hnonneg : ∀ d ∈ depths, 0 ≤ d) :
    Binary64.Rounds ((depths.map fun d : Int => (d : ℚ)).sum / depths.length)
      (ofDepths depths).average := by
  have htotal : (ofDepths depths).total = depths.sum := List.sum_eq_foldl.symm
  have hsum : ((depths.map fun d : Int => (d : ℚ)).sum) = (depths.sum : ℤ) :=
    (map_list_sum (Int.castRingHom ℚ) depths).symm
  obtain ⟨k, hk⟩ := Int.eq_ofNat_of_zero_le (List.sum_nonneg hnonneg)
  rw [average, htotal, hsum, hk]
  change Binary64.Rounds _ (if depths.length = 0 then _ else _)
  split
  · rename_i hzero
    have := Binary64.ofRatio_rounds 0 Nat.one_pos
    simpa [hzero, Binary64.ofRatio] using this
  · rename_i hlength
    rw [Int.natAbs_natCast, decide_eq_false (by omega : ¬ (k : ℤ) < 0), Int.cast_natCast]
    exact Binary64.ofRatio_rounds k (Nat.pos_of_ne_zero hlength)

end Counts

end DepthStats

/-- What depth statistics tell about a graph. -/
structure DepthStats.Fit (s : DepthStats) (g : Graph) : Prop where
  keys : s.byDepth.map (·.1) =
    if g.nodes = [] then [] else (List.range (s.deepest.toNat + 1)).map Int.ofNat
  deepest_nonneg : 0 ≤ s.deepest
  depth_le : ∀ v ∈ g.nodes, v.depth ≤ s.deepest
  counts : ∀ d n, (d, n) ∈ s.byDepth → n = g.nodes.countP (·.depth = d) ∧ 0 < n
  count_sum : (s.byDepth.map (·.2)).sum = g.nodes.length
  mean : Binary64.Rounds ((s.byDepth.map fun (d, n) => (n : ℚ) * d).sum / g.nodes.length) s.average

namespace Graph

section Forests

variable {g : Graph}

lemma count_depths (g : Graph) (d : Int) :
    (g.nodes.map (·.depth)).count d = g.nodes.countP (·.depth = d) := by
  rw [List.count, List.countP_map]
  rfl

lemma IsForest.exists_depth_pred (hg : g.IsForest) {v : GraphNode} (hv : v ∈ g.nodes)
    (hd : 0 < v.depth) : ∃ u ∈ g.nodes, u.depth = v.depth - 1 := by
  have hmem : v.id ∈ g.links.map (·.target) := by
    rw [hg.targets]
    exact List.mem_map_of_mem (List.mem_filter.mpr ⟨hv, by simpa using hd⟩)
  obtain ⟨e, he, htarget⟩ := List.mem_map.mp hmem
  obtain ⟨before, w, after, hnodes, hw, u, hu, -, hdepth⟩ := hg.sources e he
  have hwmem : w ∈ g.nodes := by simp [hnodes]
  obtain rfl := hg.eq_of_id hv hwmem (htarget.symm.trans hw.symm)
  exact ⟨u, by simp [hnodes, hu], by omega⟩

lemma IsForest.exists_depth (hg : g.IsForest) {v : GraphNode} (hv : v ∈ g.nodes) (k : Nat)
    (hk : k ≤ v.depth) : ∃ u ∈ g.nodes, u.depth = k := by
  obtain ⟨steps, hsteps⟩ := Int.eq_ofNat_of_zero_le (sub_nonneg.mpr hk)
  induction steps generalizing v with
  | zero => exact ⟨v, hv, by omega⟩
  | succ steps ih =>
    obtain ⟨u, hu, hdepth⟩ := hg.exists_depth_pred hv (by omega)
    exact ih hu (by omega) (by omega)

lemma IsForest.deepest_spec (hg : g.IsForest) :
    0 ≤ g.depthStats.deepest ∧ (∀ v ∈ g.nodes, v.depth ≤ g.depthStats.deepest) ∧
      (g.nodes ≠ [] → ∃ v ∈ g.nodes, v.depth = g.depthStats.deepest) := by
  rw [depthStats, DepthStats.ofDepths]
  cases hmax : (g.nodes.map (·.depth)).max? with
  | none => simp_all
  | some deepest =>
    obtain ⟨hmem, hle⟩ := List.max?_eq_some_iff.mp hmax
    obtain ⟨v, hv, rfl⟩ := List.mem_map.mp hmem
    exact ⟨hg.depth_nonneg v hv, fun w hw => hle _ (List.mem_map_of_mem hw), fun _ => ⟨v, hv, rfl⟩⟩

lemma IsForest.byDepth_keys (hg : g.IsForest) :
    g.depthStats.byDepth.map (·.1) =
      if g.nodes = [] then [] else (List.range (g.depthStats.deepest.toNat + 1)).map Int.ofNat := by
  have hkeys : g.depthStats.byDepth.map (·.1) =
      DepthStats.occurring (g.nodes.map (·.depth)) := by
    simp [depthStats, DepthStats.byDepth_ofDepths, Function.comp_def]
  obtain ⟨hnonneg, hle, hreached⟩ := hg.deepest_spec
  rw [hkeys]
  split
  · rename_i hnone
    simp [hnone, DepthStats.occurring, List.eraseReps, List.eraseRepsBy]
  · rename_i hsome
    -- Both lists are in order and have the same members.
    have hrange : ((List.range (g.depthStats.deepest.toNat + 1)).map Int.ofNat).Pairwise (· < ·) :=
      List.pairwise_map.mpr (List.pairwise_lt_range.imp fun h => Int.ofNat_lt.mpr h)
    refine List.Perm.eq_of_pairwise (fun _ _ _ _ h h' => absurd h h'.not_gt)
      (DepthStats.occurring_sorted _) hrange ?_
    rw [List.perm_ext_iff_of_nodup ((DepthStats.occurring_sorted _).imp fun h => ne_of_lt h)
      (hrange.imp fun h => ne_of_lt h)]
    intro d
    rw [DepthStats.mem_occurring, List.mem_map, List.mem_map]
    constructor
    · rintro ⟨v, hv, rfl⟩
      have hv' := hg.depth_nonneg v hv
      exact ⟨v.depth.toNat, List.mem_range.mpr (by have := hle v hv; omega),
        Int.toNat_of_nonneg hv'⟩
    · rintro ⟨k, hk, rfl⟩
      obtain ⟨v, hv, hdeepest⟩ := hreached hsome
      have := List.mem_range.mp hk
      exact hg.exists_depth hv k (by omega)

lemma IsForest.links_length (hg : g.IsForest) :
    g.links.length + g.nodes.countP (·.depth = 0) = g.nodes.length := by
  have hlinks : g.links.length = g.nodes.countP (0 < ·.depth) := by
    rw [← List.length_map (·.target), hg.targets, List.length_map, List.countP_eq_length_filter]
  rw [hlinks, List.length_eq_countP_add_countP (fun v => decide (0 < v.depth))]
  congr 1
  refine List.countP_congr fun v hv => ?_
  have := hg.depth_nonneg v hv
  simp
  omega

theorem IsForest.depthStats_fit (hg : g.IsForest) : g.depthStats.Fit g where
  keys := hg.byDepth_keys
  deepest_nonneg := hg.deepest_spec.1
  depth_le := hg.deepest_spec.2.1
  counts := by
    intro d n hdn
    rw [depthStats, DepthStats.byDepth_ofDepths, List.mem_map] at hdn
    obtain ⟨d, hd, heq⟩ := hdn
    obtain ⟨rfl, rfl⟩ := Prod.mk.inj heq
    exact ⟨count_depths g d, List.count_pos_iff.mpr ((DepthStats.mem_occurring _).mp hd)⟩
  count_sum := by
    have hsum := DepthStats.sum_occurring (g.nodes.map (·.depth)) fun _ => 1
    simpa [depthStats, DepthStats.byDepth_ofDepths, Function.comp_def] using hsum
  mean := by
    have hsum := DepthStats.sum_occurring (g.nodes.map (·.depth)) fun d : Int => (d : ℚ)
    have hrounds := DepthStats.average_rounds (g.nodes.map (·.depth))
      (by simpa using hg.depth_nonneg)
    rw [← hsum] at hrounds
    simpa [depthStats, DepthStats.byDepth_ofDepths, Function.comp_def] using hrounds

end Forests

/-- Statistics fit the graph of any hierarchy. There are as many links as nodes below depth zero. -/
theorem statistics_of_any_hierarchy (r : Rooted) (inherit : Bool) (l : Loader) :
    let g := ofHierarchy r inherit
    g.depthStats.Fit g ∧
      ∃ t, (⟨l, r, some g⟩ : Provider).stats? = some t ∧
        t.types = g.nodes.length ∧ t.deepest = g.depthStats.deepest ∧
        t.relationships + (g.depthStats.byDepth.lookup 0).getD 0 = t.types := by
  intro g
  have hg : g.IsForest := ofHierarchy_isForest r inherit
  refine ⟨hg.depthStats_fit, g.stats, rfl, rfl, rfl, ?_⟩
  rw [depthStats, DepthStats.getD_lookup_byDepth, count_depths]
  exact hg.links_length

end Graph

end TypeLineage
