import Mathlib.Logic.Relation
import Mathlib.Tactic.Common
import TypeLineage.Export.Dot
import TypeLineage.Proofs.Forest

/-!
# Topmost ancestors by the links of a graph

`Ascends` is the walk along parents with no bound on its steps. It ends for the links of every graph,
cyclic and dangling ones too, and `topmost` is its outcome. Where the links form a forest, the outcome
is the only top above an identifier, and it is the same for exactly the identifiers that the links
connect.
-/

namespace TypeLineage.Graph

open Relation

/-- A walk along parents: the identifiers seen before, the one it has come to, the one it ends at. -/
inductive Ascends (parent? : String → Option String) : List String → String → String → Prop where
  | top {seen : List String} {id : String} (hid : parent? id = none) : Ascends parent? seen id id
  | again {seen : List String} {id above : String} (hid : parent? id = some above)
      (hseen : above ∈ seen) : Ascends parent? seen id id
  | step {seen : List String} {id above top : String} (hid : parent? id = some above)
      (hseen : above ∉ seen) (hup : Ascends parent? (above :: seen) above top) :
      Ascends parent? seen id top

section Walk

variable {parent? : String → Option String} {seen : List String} {id top top' : String}

theorem Ascends.outcome_unique (ha : Ascends parent? seen id top)
    (ha' : Ascends parent? seen id top') : top = top' := by
  induction ha generalizing top' with
  | top hid =>
    cases ha' with
    | top => rfl
    | again => rfl
    | step hid' => simp [hid] at hid'
  | again hid hseen =>
    cases ha' with
    | top => rfl
    | again => rfl
    | step hid' hseen' =>
      obtain rfl := Option.some.inj (hid.symm.trans hid')
      exact absurd hseen hseen'
  | step hid hseen _ ih =>
    cases ha' with
    | top hid' => simp [hid] at hid'
    | again hid' hseen' =>
      obtain rfl := Option.some.inj (hid.symm.trans hid')
      exact absurd hseen' hseen
    | step hid' _ hup' =>
      obtain rfl := Option.some.inj (hid.symm.trans hid')
      exact ih hup'

/-- With a step for every source that is not seen yet, the bound of `climbParents` is never met. -/
theorem climbParents_ascends (sources : List String)
    (hsources : ∀ id above, parent? id = some above → above ∈ sources) (steps : Nat)
    (seen : List String) (id : String) (hfree : (sources.filter (· ∉ seen)).length ≤ steps) :
    Ascends parent? seen id (climbParents parent? steps seen id) := by
  induction steps generalizing seen id with
  | zero =>
    rw [climbParents]
    cases hid : parent? id with
    | none => exact .top hid
    | some above =>
      refine .again hid ?_
      by_contra hseen
      have hmem : above ∈ sources.filter (· ∉ seen) := by simp [hsources id above hid, hseen]
      have := List.length_pos_of_mem hmem
      omega
  | succ steps ih =>
    rw [climbParents]
    cases hid : parent? id with
    | none => exact .top hid
    | some above =>
      by_cases hseen : above ∈ seen
      · simpa [hseen] using Ascends.again hid hseen
      · -- One source fewer is left to be seen, so the bound carries over to the next step.
        have hless : (sources.filter (· ∉ above :: seen)).length <
            (sources.filter (· ∉ seen)).length := by
          have hsplit : sources.filter (· ∉ above :: seen) =
              (sources.filter (· ∉ seen)).filter (· ≠ above) := by
            rw [List.filter_filter]
            exact List.filter_congr fun s _ => by simp
          rw [hsplit, List.length_filter_lt_length_iff_exists]
          exact ⟨above, by simp [hsources id above hid, hseen], by simp⟩
        simpa [hseen] using Ascends.step hid hseen (ih (above :: seen) above (by omega))

end Walk

/-- A link leads from one identifier to another. -/
def Linked (g : Graph) (source target : String) : Prop :=
  ⟨source, target⟩ ∈ g.links

instance (g : Graph) (source target : String) : Decidable (g.Linked source target) :=
  inferInstanceAs (Decidable (_ ∈ g.links))

section Links

variable {g : Graph} {id above top : String} {seen : List String}

lemma linked_of_parentOf? (h : g.parentOf? id = some above) : g.Linked above id := by
  obtain ⟨⟨source, target⟩, hfind, rfl⟩ := Option.map_eq_some_iff.mp h
  obtain rfl : target = id := by simpa using List.find?_some hfind
  exact List.mem_reverse.mp (List.mem_of_find?_eq_some hfind)

lemma parentOf?_eq_none_iff : g.parentOf? id = none ↔ ∀ above, ¬ g.Linked above id := by
  simp only [parentOf?, Option.map_eq_none_iff, List.find?_eq_none, List.mem_reverse,
    decide_eq_true_eq, Linked]
  constructor
  · exact fun h above he => h _ he rfl
  · rintro h ⟨source, target⟩ he rfl
    exact h source he

/-- The walk along the links of a graph ends, at the topmost ancestor. -/
theorem ascends_iff_topmost : Ascends g.parentOf? [id] id top ↔ top = g.topmost id := by
  have htable : (g.parents[·]?) = g.parentOf? := funext (getElem?_parents g)
  have ha : Ascends g.parentOf? [id] id (g.topmost id) := by
    rw [topmost, topmostIn, htable]
    refine climbParents_ascends (g.links.map (·.source)) ?_ _ _ _ ?_
    · exact fun id above h => List.mem_map.mpr ⟨_, linked_of_parentOf? h, rfl⟩
    · simpa using List.length_filter_le _ (g.links.map (·.source))
  exact ⟨fun h => h.outcome_unique ha, fun h => h ▸ ha⟩

lemma Ascends.reaches (ha : Ascends g.parentOf? seen id top) : ReflTransGen g.Linked top id := by
  induction ha with
  | top => exact .refl
  | again => exact .refl
  | step hid _ _ ih => exact ih.tail (linked_of_parentOf? hid)

lemma topmost_reaches (g : Graph) (id : String) : ReflTransGen g.Linked (g.topmost id) id :=
  (ascends_iff_topmost.mpr rfl).reaches

end Links

/-- Each identifier has at most one parent, and no way along the links leads back to its start. -/
structure LinksFormForest (g : Graph) : Prop where
  parent_unique : ∀ {a b id : String}, g.Linked a id → g.Linked b id → a = b
  acyclic : ∀ id, ¬ TransGen g.Linked id id

/-- An identifier above another one, or that one itself, to which no link leads. -/
structure IsTopOf (g : Graph) (top id : String) : Prop where
  above : ReflTransGen g.Linked top id
  no_parent : ∀ a, ¬ g.Linked a top

namespace LinksFormForest

variable {g : Graph} {a b id top : String} {seen : List String}

lemma total (hg : g.LinksFormForest) (ha : ReflTransGen g.Linked a id)
    (hb : ReflTransGen g.Linked b id) : ReflTransGen g.Linked a b ∨ ReflTransGen g.Linked b a := by
  have hunique : Relator.RightUnique (Function.swap g.Linked) :=
    fun _ _ _ h h' => hg.parent_unique h h'
  rcases ReflTransGen.total_of_right_unique hunique (reflTransGen_swap.mpr ha)
    (reflTransGen_swap.mpr hb) with hba | hab
  · exact .inr (reflTransGen_swap.mp hba)
  · exact .inl (reflTransGen_swap.mp hab)

lemma eq_of_above (hg : g.LinksFormForest) (hab : ReflTransGen g.Linked a b)
    (hba : ReflTransGen g.Linked b a) : a = b := by
  rcases reflTransGen_iff_eq_or_transGen.mp hab with rfl | hab
  · rfl
  · exact absurd (hab.trans_left hba) (hg.acyclic a)

lemma isTopOf_unique (hg : g.LinksFormForest) (ha : g.IsTopOf a id) (hb : g.IsTopOf b id) :
    a = b := by
  rcases hg.total ha.above hb.above with hab | hba
  · exact (hab.cases_tail.resolve_right fun ⟨c, _, hc⟩ => hb.no_parent c hc).symm
  · exact hba.cases_tail.resolve_right fun ⟨c, _, hc⟩ => ha.no_parent c hc

/-- In a forest a walk is never stopped by what it has seen: that would all lie below. -/
lemma no_parent_of_ascends (hg : g.LinksFormForest) (ha : Ascends g.parentOf? seen id top)
    (hseen : ∀ s ∈ seen, ReflTransGen g.Linked id s) : ∀ a, ¬ g.Linked a top := by
  induction ha with
  | top hid => exact parentOf?_eq_none_iff.mp hid
  | @again seen id above hid habove =>
    have hloop : TransGen g.Linked id id :=
      .tail' (hseen above habove) (linked_of_parentOf? hid)
    exact absurd hloop (hg.acyclic id)
  | step hid _ _ ih =>
    refine ih fun s hs => ?_
    rcases List.mem_cons.mp hs with rfl | hs
    · exact .refl
    · exact .head (linked_of_parentOf? hid) (hseen s hs)

theorem isTopOf_topmost (hg : g.LinksFormForest) (id : String) : g.IsTopOf (g.topmost id) id where
  above := g.topmost_reaches id
  no_parent := by
    refine hg.no_parent_of_ascends (ascends_iff_topmost.mpr rfl) fun s hs => ?_
    rw [List.mem_singleton.mp hs]

theorem topmost_eq_iff_isTopOf (hg : g.LinksFormForest) : g.topmost id = top ↔ g.IsTopOf top id :=
  ⟨fun h => h ▸ hg.isTopOf_topmost id, fun h => hg.isTopOf_unique (hg.isTopOf_topmost id) h⟩

theorem topmost_eq_iff (hg : g.LinksFormForest) :
    g.topmost a = g.topmost b ↔ EqvGen g.Linked a b := by
  constructor
  · intro h
    have ha := EqvGen.reflTransGen_le_eqvGen g.Linked _ _ (g.topmost_reaches a)
    have hb := EqvGen.reflTransGen_le_eqvGen g.Linked _ _ (g.topmost_reaches b)
    exact .trans _ _ _ (.symm _ _ ha) (h ▸ hb)
  · intro h
    induction h with
    | rel c d hcd =>
      have hc := hg.isTopOf_topmost c
      exact ((hg.topmost_eq_iff_isTopOf).mpr ⟨hc.above.tail hcd, hc.no_parent⟩).symm
    | refl => rfl
    | symm _ _ _ ih => exact ih.symm
    | trans _ _ _ _ _ ih ih' => exact ih.trans ih'

lemma of_subset {shown : Graph} (hg : g.LinksFormForest)
    (hsub : shown.links ⊆ g.links) : shown.LinksFormForest where
  parent_unique ha hb := hg.parent_unique (hsub ha) (hsub hb)
  acyclic id h := hg.acyclic id (TransGen.mono (fun _ _ hab => hsub hab) _ _ h)

end LinksFormForest

section Forests

variable {g : Graph}

lemma IsForest.eq_of_id (hg : g.IsForest) {v w : GraphNode} (hv : v ∈ g.nodes) (hw : w ∈ g.nodes)
    (hid : v.id = w.id) : v = w :=
  List.inj_on_of_nodup_map hg.ids_nodup hv hw hid

lemma IsForest.exists_ends (hg : g.IsForest) {a b : String} (hab : g.Linked a b) :
    ∃ u ∈ g.nodes, ∃ v ∈ g.nodes, u.id = a ∧ v.id = b ∧ u.depth < v.depth := by
  obtain ⟨before, v, after, hnodes, hv, u, hu, hsource, hdepth⟩ := hg.sources _ hab
  refine ⟨u, ?_, v, ?_, hsource, hv, by omega⟩
  · rw [hnodes]
    exact List.mem_append_left _ hu
  · rw [hnodes]
    simp

lemma IsForest.depth_lt (hg : g.IsForest) {a b : String} (hab : TransGen g.Linked a b) :
    ∃ u ∈ g.nodes, ∃ v ∈ g.nodes, u.id = a ∧ v.id = b ∧ u.depth < v.depth := by
  induction hab with
  | single hab => exact hg.exists_ends hab
  | tail _ hbc ih =>
    obtain ⟨u, hu, v, hv, hua, hvb, huv⟩ := ih
    obtain ⟨v', hv', w, hw, hvb', hwc, hvw⟩ := hg.exists_ends hbc
    obtain rfl := hg.eq_of_id hv hv' (hvb.trans hvb'.symm)
    exact ⟨u, hu, w, hw, hua, hwc, huv.trans hvw⟩

lemma IsForest.targets_nodup (hg : g.IsForest) : (g.links.map (·.target)).Nodup := by
  rw [hg.targets]
  exact hg.ids_nodup.sublist (List.filter_sublist.map _)

theorem IsForest.linksFormForest (hg : g.IsForest) : g.LinksFormForest where
  parent_unique ha hb :=
    congrArg GraphLink.source (List.inj_on_of_nodup_map hg.targets_nodup ha hb rfl)
  acyclic id h := by
    obtain ⟨u, hu, v, hv, hua, hvb, huv⟩ := hg.depth_lt h
    obtain rfl := hg.eq_of_id hu hv (hua.trans hvb.symm)
    exact lt_irrefl _ huv

end Forests

end TypeLineage.Graph
