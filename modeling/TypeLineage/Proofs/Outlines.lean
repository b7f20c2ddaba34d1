import Mathlib.Data.List.Forall2
import Mathlib.Tactic.Common
import TypeLineage.Outline
import TypeLineage.Proofs.Forest

/-!
# Outlines and graphs show the same hierarchy

`Draws` is the drawing of an outline by itself, with no bound on its levels and with its own list of
shown paths. This file shows that it ends in the outline of the hierarchy. Types are then read back
off an outline, by their labels alone: in preorder they are the nodes of the graph, each at the
level below its depth and inside the type that its link comes from.
-/

namespace TypeLineage

namespace Outline

open Hierarchy TypeLineage.Graph

/-- The label of a type holds its name, the number of its own fields, its file and its line. -/
def typeText (escape : List Char → List Char) {n : Nat} (t : TypeNode n) : List Char :=
  "[bold cyan]".toList ++ escape t.name.toList ++ "[/bold cyan] [dim](".toList ++
    (toString t.fields.length).toList ++ " props) ".toList ++
    escape (t.file ++ ":" ++ toString t.line).toList ++ "[/dim]".toList

/-- The label of a field holds its name, a question mark if it is optional, and its type. -/
def fieldText (escape : List Char → List Char) (f : Field) : List Char :=
  "[green]".toList ++ escape f.name.toList ++ (if f.optional then "?" else "").toList ++
    "[/green]: ".toList ++ escape f.type.toList

/-- One leaf for each own field of a type if fields are shown, and else none. -/
def ownLeaves (escape : List Char → List Char) (showFields : Bool) {n : Nat} (t : TypeNode n) :
    List Outline :=
  if showFields then t.fields.map fun f => .mk (fieldText escape f) [] else []

/-- The drawing of nodes in order: the paths shown before, the nodes, the items drawn and the paths
shown afterwards. -/
inductive Draws (escape : List Char → List Char) (h : Hierarchy) (showFields : Bool) :
    List String → List h.Index → List Outline → List String → Prop where
  | done (shown : List String) : Draws escape h showFields shown [] [] shown
  | pass {shown shown' : List String} {i : h.Index} {rest : List h.Index} {items : List Outline}
      (hi : (h.node i).path ∈ shown) (hrest : Draws escape h showFields shown rest items shown') :
      Draws escape h showFields shown (i :: rest) items shown'
  | enter {shown within shown' : List String} {i : h.Index} {rest : List h.Index}
      {below items : List Outline} (hi : (h.node i).path ∉ shown)
      (hbelow : Draws escape h showFields ((h.node i).path :: shown) (h.node i).children below
        within)
      (hrest : Draws escape h showFields within rest items shown') :
      Draws escape h showFields shown (i :: rest)
        (.mk (typeText escape (h.node i)) (ownLeaves escape showFields (h.node i) ++ below) ::
          items)
        shown'

section Texts

variable {escape : List Char → List Char} {n : Nat}

lemma toList_toString_nat (k : Nat) : (toString k).toList = Binary64.digits k :=
  String.toList_ofList

lemma toList_toString_int (k : Int) :
    (toString k).toList = Binary64.signText (k < 0) ++ Binary64.digits k.natAbs := by
  cases k with
  | ofNat k =>
    have hsign : ¬ (Int.ofNat k < 0) := by simp
    rw [Binary64.signText, decide_eq_false hsign]
    exact toList_toString_nat k
  | negSucc k =>
    rw [Binary64.signText, decide_eq_true (Int.negSucc_lt_zero k)]
    change ("-" ++ toString (k + 1)).toList = _
    rw [String.toList_append, toList_toString_nat]
    rfl

lemma typeLabel_eq (t : TypeNode n) : typeLabel escape t = typeText escape t := by
  have hlocation : (t.file ++ ":" ++ toString t.line).toList = t.file.toList ++ ':' ::
      (Binary64.signText (t.line < 0) ++ Binary64.digits t.line.natAbs) := by
    rw [← toList_toString_int, String.toList_append, String.toList_append, List.append_assoc]
    rfl
  unfold typeLabel typeText
  rw [hlocation, toList_toString_nat]

lemma fieldLeaves_eq (showFields : Bool) (t : TypeNode n) :
    fieldLeaves escape showFields t = ownLeaves escape showFields t := by
  have hfield : fieldLabel escape = fieldText escape := by
    funext f
    unfold fieldLabel fieldText
    cases f.optional <;> rfl
  rw [fieldLeaves, ownLeaves, hfield]

lemma ofBranch_mk (h : Hierarchy) (showFields : Bool) (i : h.Index) (below : List (Branch h.size)) :
    ofBranch escape h showFields (.mk i below) =
      .mk (typeText escape (h.node i))
        (ownLeaves escape showFields (h.node i) ++ ofBranches escape h showFields below) := by
  rw [ofBranch, typeLabel_eq, fieldLeaves_eq]

end Texts

section Drawing

variable {escape : List Char → List Char} {h : Hierarchy} {showFields : Bool}
  {shown shown' : List String} {nodes : List h.Index} {items : List Outline}

lemma draws_of_visits {grown : List (Branch h.size)} (hv : Visits h shown nodes grown shown') :
    Draws escape h showFields shown nodes (ofBranches escape h showFields grown) shown' := by
  induction hv with
  | done => exact .done _
  | pass hi _ ih => exact .pass hi ih
  | enter hi _ _ ihbelow ihrest =>
    rw [ofBranches, ofBranch_mk]
    exact .enter hi ihbelow ihrest

lemma visits_of_draws (hd : Draws escape h showFields shown nodes items shown') :
    ∃ grown, Visits h shown nodes grown shown' ∧ items = ofBranches escape h showFields grown := by
  induction hd with
  | done => exact ⟨[], .done _, rfl⟩
  | pass hi _ ih =>
    obtain ⟨grown, hv, rfl⟩ := ih
    exact ⟨grown, .pass hi hv, rfl⟩
  | @enter _ _ _ i _ _ _ hi _ _ ihbelow ihrest =>
    obtain ⟨below, hbelow, rfl⟩ := ihbelow
    obtain ⟨grown, hrest, rfl⟩ := ihrest
    exact ⟨.mk i below :: grown, .enter hi hbelow hrest, by rw [ofBranches, ofBranch_mk]⟩

/-- The drawing of the roots ends, and the outline is what it has drawn by then. -/
theorem draws_iff_ofHierarchy (escape : List Char → List Char) (r : Rooted) (showFields : Bool)
    (items : List Outline) (shown : List String) :
    Draws escape r.hierarchy showFields [] r.roots items shown ↔
      items = (ofHierarchy escape r showFields).items ∧
        shown = ((emitted r).map fun i => (r.hierarchy.node i).path).reverse := by
  have hforest := visits_iff_forest r.hierarchy r.roots
  constructor
  · intro hd
    obtain ⟨grown, hv, rfl⟩ := visits_of_draws hd
    obtain ⟨rfl, rfl⟩ := (hforest grown shown).mp hv
    exact ⟨rfl, rfl⟩
  · rintro ⟨rfl, rfl⟩
    exact draws_of_visits ((hforest _ _).mpr ⟨rfl, rfl⟩)

end Drawing

/-! ### Reading types off an outline -/

/-- Whether an item is the branch of a type, by the style that its label begins with. -/
def isType (o : Outline) : Bool :=
  "[bold cyan]".toList.isPrefixOf o.label

/-- A type in an outline: its nesting level, the number of the type around it, and its branch. -/
structure Sighting where
  level : Nat
  around : Option Nat
  branch : Outline

mutual

/-- The types of an item in preorder, numbered on from the given one. -/
def sightings (level : Nat) (around : Option Nat) (next : Nat) : Outline → List Sighting
  | .mk label items =>
    if isType (.mk label items) then
      ⟨level, around, .mk label items⟩ :: sightingsAll (level + 1) (some next) (next + 1) items
    else sightingsAll (level + 1) around next items

def sightingsAll (level : Nat) (around : Option Nat) (next : Nat) : List Outline → List Sighting
  | [] => []
  | o :: rest =>
    let here := sightings level around next o
    here ++ sightingsAll level around (next + here.length) rest

end

/-- The types of an outline in preorder. What stands right below its top has level one. -/
def types (o : Outline) : List Sighting :=
  sightingsAll 1 none 0 o.items

/-- The branch of a type has its label, begins with a leaf for each of its fields if they are shown,
and has nothing but types after them. -/
structure Presents (escape : List Char → List Char) {n : Nat} (showFields : Bool) (t : TypeNode n)
    (o : Outline) : Prop where
  label : o.label = typeText escape t
  leaves : o.items.takeWhile (fun item => !item.isType) = ownLeaves escape showFields t
  types : ∀ item ∈ o.items.dropWhile (fun item => !item.isType), item.isType = true

/-- A type in an outline stands where an entry of the graph hangs, among all entries. -/
structure StandsAt (all : List Graph.Entry) (s : Sighting) (e : Graph.Entry) : Prop where
  level : (s.level : Int) = e.node.depth + 1
  top : s.around = none → e.node.depth = 0 ∧ e.link = none
  inside : ∀ j, s.around = some j → ∃ a, all[j]? = some a ∧
    e.node.depth = a.node.depth + 1 ∧ e.link = some ⟨a.node.id, e.node.id⟩

/-- A level and a number of a type around that belong to a place. -/
structure Opens (all : List Graph.Entry) (p : Graph.Place) (level : Nat) (around : Option Nat) :
    Prop where
  level : level = p.depth + 1
  top : around = none → p.depth = 0 ∧ p.above = none
  inside : ∀ j, around = some j → ∃ a, all[j]? = some a ∧
    (p.depth : Int) = a.node.depth + 1 ∧ p.above = some a.node.id

section Sightings

variable {escape : List Char → List Char} {h : Hierarchy} {inherit showFields : Bool}
  {level next : Nat} {around : Option Nat} {all earlier later : List Graph.Entry} {p : Graph.Place}
  {n : Nat}

lemma isType_typeText (t : TypeNode n) (items : List Outline) :
    isType (.mk (typeText escape t) items) = true := by
  unfold isType label typeText
  simp only [List.append_assoc, List.isPrefixOf_iff_prefix]
  exact List.prefix_append _ _

lemma isType_fieldText (f : Field) (items : List Outline) :
    isType (.mk (fieldText escape f) items) = false := by
  have hgreen : ∀ rest, "[bold cyan]".toList.isPrefixOf ("[green]".toList ++ rest) = false :=
    fun _ => rfl
  unfold isType label fieldText
  simp only [List.append_assoc, hgreen]

lemma isType_of_mem_ofBranches {bs : List (Branch h.size)} :
    ∀ o ∈ ofBranches escape h showFields bs, isType o = true := by
  induction bs with
  | nil => simp [ofBranches]
  | cons b bs ih =>
    obtain ⟨i, below⟩ := b
    intro o ho
    rw [ofBranches, ofBranch_mk, List.mem_cons] at ho
    rcases ho with rfl | ho
    · exact isType_typeText _ _
    · exact ih o ho

lemma isType_of_mem_ownLeaves {t : TypeNode n} :
    ∀ o ∈ ownLeaves escape showFields t, isType o = false ∧ o.items = [] := by
  intro o ho
  rw [ownLeaves] at ho
  split at ho
  · obtain ⟨f, -, rfl⟩ := List.mem_map.mp ho
    exact ⟨isType_fieldText f [], rfl⟩
  · cases ho

lemma presents_ofBranch (i : h.Index) (below : List (Branch h.size)) :
    Presents escape showFields (h.node i) (ofBranch escape h showFields (.mk i below)) := by
  have hleaves : ∀ o ∈ ownLeaves escape showFields (h.node i), (!o.isType) = true := by
    intro o ho
    rw [(isType_of_mem_ownLeaves o ho).1]
    rfl
  have htypes : ∀ o ∈ ofBranches escape h showFields below, (!o.isType) = false := by
    intro o ho
    rw [isType_of_mem_ofBranches o ho]
    rfl
  have hnone : (ofBranches escape h showFields below).takeWhile (fun o => !o.isType) = [] := by
    cases hitems : ofBranches escape h showFields below with
    | nil => rfl
    | cons o items => rw [List.takeWhile_cons_of_neg (by simp [htypes o (by simp [hitems])])]
  rw [ofBranch_mk]
  refine ⟨rfl, ?_, ?_⟩
  · rw [items, List.takeWhile_append_of_pos hleaves, hnone, List.append_nil]
  · intro o ho
    rw [items, List.dropWhile_append_of_pos hleaves] at ho
    exact isType_of_mem_ofBranches o ((List.dropWhile_suffix _).subset ho)

lemma sightingsAll_ownLeaves_append (t : TypeNode n) (os : List Outline) :
    sightingsAll level around next (ownLeaves escape showFields t ++ os) =
      sightingsAll level around next os := by
  have hleaf : ∀ o ∈ ownLeaves escape showFields t, sightings level around next o = [] := by
    intro o ho
    obtain ⟨hleaf, hitems⟩ := isType_of_mem_ownLeaves o ho
    obtain ⟨label, items⟩ := o
    rw [Outline.items] at hitems
    rw [sightings, hleaf, hitems]
    rfl
  generalize ownLeaves escape showFields t = leaves at hleaf ⊢
  induction leaves with
  | nil => rfl
  | cons o leaves ih =>
    have ho := hleaf o List.mem_cons_self
    rw [List.cons_append, sightingsAll, ho]
    exact ih fun o' ho' => hleaf o' (List.mem_cons_of_mem _ ho')

lemma sightings_ofBranch (i : h.Index) (below : List (Branch h.size)) :
    sightings level around next (ofBranch escape h showFields (.mk i below)) =
      ⟨level, around, ofBranch escape h showFields (.mk i below)⟩ ::
        sightingsAll (level + 1) (some next) (next + 1)
          (ofBranches escape h showFields below) := by
  rw [ofBranch_mk, sightings, if_pos (isType_typeText _ _), sightingsAll_ownLeaves_append]

mutual

lemma sightings_present (level : Nat) (around : Option Nat) (next : Nat) (b : Branch h.size) :
    List.Forall₂ (fun s i => Presents escape showFields (h.node i) s.branch)
      (sightings level around next (ofBranch escape h showFields b)) b.preorder := by
  obtain ⟨i, below⟩ := b
  rw [sightings_ofBranch, Branch.preorder]
  exact .cons (presents_ofBranch i below) (sightingsAll_present _ _ _ below)

lemma sightingsAll_present (level : Nat) (around : Option Nat) (next : Nat)
    (bs : List (Branch h.size)) :
    List.Forall₂ (fun s i => Presents escape showFields (h.node i) s.branch)
      (sightingsAll level around next (ofBranches escape h showFields bs))
      (Branch.preorderAll bs) := by
  cases bs with
  | nil => exact .nil
  | cons b rest =>
    rw [ofBranches, sightingsAll, Branch.preorderAll]
    exact List.rel_append (sightings_present _ _ _ b) (sightingsAll_present _ _ _ rest)

end

lemma Opens.standsAt (ho : Opens all p level around) (t : TypeNode n) (o : Outline) :
    StandsAt all ⟨level, around, o⟩ (entry inherit p t) := by
  refine ⟨?_, ?_, ?_⟩
  · simp [entry, ho.level]
  · intro htop
    obtain ⟨hdepth, habove⟩ := ho.top htop
    exact ⟨by simp [entry, hdepth], by simp [entry, habove]⟩
  · intro j hj
    obtain ⟨a, ha, hdepth, habove⟩ := ho.inside j hj
    exact ⟨a, ha, hdepth, by simp [entry, habove]⟩

lemma Opens.below (ho : Opens all p level around) {t : TypeNode n}
    (hall : all = earlier ++ entry inherit p t :: later) :
    Opens all (p.below inherit t) (level + 1) (some earlier.length) := by
  refine ⟨?_, ?_, ?_⟩
  · rw [ho.level, Place.below]
  · simp
  · intro j hj
    obtain rfl := Option.some.inj hj
    exact ⟨entry inherit p t, by simp [hall], by simp [Place.below, entry], rfl⟩

mutual

lemma sightings_standAt {p : Graph.Place} {level : Nat} {around : Option Nat}
    {earlier later : List Graph.Entry} (ho : Opens all p level around) (b : Branch h.size)
    (hall : all = earlier ++ (entriesOf h inherit p b ++ later)) :
    List.Forall₂ (StandsAt all)
      (sightings level around earlier.length (ofBranch escape h showFields b))
      (entriesOf h inherit p b) := by
  obtain ⟨i, below⟩ := b
  rw [entriesOf] at hall
  rw [sightings_ofBranch, entriesOf]
  refine .cons (ho.standsAt _ _) ?_
  have hbelow := sightingsAll_standAt (ho.below hall) below
    (show all = earlier ++ [entry inherit p (h.node i)] ++ _ by simpa using hall)
  simpa using hbelow

lemma sightingsAll_standAt {p : Graph.Place} {level : Nat} {around : Option Nat}
    {earlier later : List Graph.Entry} (ho : Opens all p level around) (bs : List (Branch h.size))
    (hall : all = earlier ++ (entriesOfAll h inherit p bs ++ later)) :
    List.Forall₂ (StandsAt all)
      (sightingsAll level around earlier.length (ofBranches escape h showFields bs))
      (entriesOfAll h inherit p bs) := by
  cases bs with
  | nil => exact .nil
  | cons b rest =>
    rw [entriesOfAll, List.append_assoc] at hall
    rw [ofBranches, sightingsAll, entriesOfAll]
    have hhere := sightings_standAt ho b hall
    have hrest := sightingsAll_standAt ho rest
      (show all = earlier ++ entriesOf h inherit p b ++ _ by simpa using hall)
    refine List.rel_append hhere ?_
    rw [hhere.length_eq]
    simpa using hrest

end

end Sightings

/-- A type in an outline shows the same as a node of a graph: the node that both are made of, one
level below its depth, and inside of the type that its link comes from. -/
structure Shows (escape : List Char → List Char) (h : Hierarchy) (showFields : Bool) (g : Graph)
    (s : Sighting) (i : h.Index) (v : GraphNode) : Prop where
  depicts : Depicts (h.node i) v
  presents : Presents escape showFields (h.node i) s.branch
  level : (s.level : Int) = v.depth + 1
  top : s.around = none ↔ v.isRoot = true
  inside : ∀ source, ⟨source, v.id⟩ ∈ g.links ↔
    ∃ j u, s.around = some j ∧ g.nodes[j]? = some u ∧ u.id = source

section Agreement

lemma rel_of_getElem? {α β : Type} {R : α → β → Prop} {xs : List α} {ys : List β} {k : Nat} {x : α}
    {y : β} (h : List.Forall₂ R xs ys) (hx : xs[k]? = some x) (hy : ys[k]? = some y) : R x y := by
  obtain ⟨hk, rfl⟩ := List.getElem?_eq_some_iff.mp hx
  obtain ⟨hk', rfl⟩ := List.getElem?_eq_some_iff.mp hy
  exact (List.forall₂_iff_get.mp h).2 k hk hk'

variable {h : Hierarchy} {inherit : Bool} {all : List Graph.Entry} {s : Sighting} {e : Graph.Entry}

lemma target_eq_id {p : Graph.Place} {bs : List (Branch h.size)}
    (he : e ∈ entriesOfAll h inherit p bs) (l : GraphLink) (hl : e.link = some l) :
    l.target = e.node.id := by
  obtain ⟨q, i, rfl⟩ := exists_entry_of_mem_all bs he
  obtain ⟨source, -, rfl⟩ := Option.map_eq_some_iff.mp hl
  rfl

lemma StandsAt.isRoot_iff (hs : StandsAt all s e) (hpos : ∀ a ∈ all, 0 ≤ a.node.depth) :
    s.around = none ↔ e.node.depth = 0 := by
  constructor
  · exact fun htop => (hs.top htop).1
  · intro hzero
    cases haround : s.around with
    | none => rfl
    | some j =>
      obtain ⟨a, ha, hdepth, -⟩ := hs.inside j haround
      have hnonneg := hpos a (List.mem_of_getElem? ha)
      omega

lemma StandsAt.link_iff (hs : StandsAt all s e) (he : e ∈ all)
    (hids : (all.map (·.node.id)).Nodup)
    (htarget : ∀ a ∈ all, ∀ l, a.link = some l → l.target = a.node.id) (source : String) :
    ⟨source, e.node.id⟩ ∈ all.filterMap (·.link) ↔
      ∃ j a, s.around = some j ∧ all[j]? = some a ∧ a.node.id = source := by
  constructor
  · intro hmem
    obtain ⟨a, ha, hlink⟩ := List.mem_filterMap.mp hmem
    obtain rfl : a = e := List.inj_on_of_nodup_map hids ha he (htarget a ha _ hlink).symm
    cases haround : s.around with
    | none =>
      have hnone := (hs.top haround).2
      rw [hlink] at hnone
      cases hnone
    | some j =>
      obtain ⟨b, hb, -, hb_link⟩ := hs.inside j haround
      rw [hlink, Option.some.injEq, GraphLink.mk.injEq] at hb_link
      exact ⟨j, b, rfl, hb, hb_link.1.symm⟩
  · rintro ⟨j, a, haround, ha, rfl⟩
    obtain ⟨b, hb, -, hlink⟩ := hs.inside j haround
    obtain rfl : a = b := Option.some.inj (ha.symm.trans hb)
    exact List.mem_filterMap.mpr ⟨e, he, hlink⟩

end Agreement

/-- The outline of any hierarchy, drawn by itself, shows the same as its graph: the types of the
outline in preorder and the nodes of the graph are the same nodes of the hierarchy, each at the
level below its depth and inside of the type that its link comes from. -/
theorem outline_shows_graph (escape : List Char → List Char) (r : Rooted)
    (inherit showFields : Bool) :
    let outline := ofHierarchy escape r showFields
    let g := Graph.ofHierarchy r inherit
    (∀ items shown, Draws escape r.hierarchy showFields [] r.roots items shown ↔
      items = outline.items ∧ shown = (g.nodes.map (·.id)).reverse) ∧
    outline.types.length = g.nodes.length ∧ (emitted r).length = g.nodes.length ∧
    ∀ (k : Nat) (s : Sighting) (i : r.hierarchy.Index) (v : GraphNode),
      outline.types[k]? = some s → (emitted r)[k]? = some i → g.nodes[k]? = some v →
        Shows escape r.hierarchy showFields g s i v := by
  intro outline g
  let all := entriesOfAll r.hierarchy inherit .top (r.hierarchy.forest r.roots)
  have hdepicts : List.Forall₂ (fun i v => Depicts (r.hierarchy.node i) v) (emitted r) g.nodes :=
    Graph.ofHierarchy_depicts r inherit
  have hpresent : List.Forall₂ (fun s i => Presents escape showFields (r.hierarchy.node i) s.branch)
      outline.types (emitted r) := sightingsAll_present _ _ _ _
  have hopens : Opens all .top 1 none := ⟨rfl, fun _ => ⟨rfl, rfl⟩, by simp⟩
  have hstand : List.Forall₂ (StandsAt all) outline.types all :=
    sightingsAll_standAt hopens _ (show all = [] ++ (all ++ []) by simp)
  have hlength : (emitted r).length = g.nodes.length := hdepicts.length_eq
  refine ⟨?_, hpresent.length_eq.trans hlength, hlength, ?_⟩
  · intro items shown
    rw [draws_iff_ofHierarchy, Graph.ofHierarchy_ids]
  · intro k s i v hs hi hv
    have hnodes : g.nodes = all.map (·.node) := rfl
    obtain ⟨e, he, rfl⟩ : ∃ e, all[k]? = some e ∧ e.node = v := by
      rwa [hnodes, List.getElem?_map, Option.map_eq_some_iff] at hv
    have hmem : e ∈ all := List.mem_of_getElem? he
    have hdepict := rel_of_getElem? hdepicts hi hv
    have hpresents := rel_of_getElem? hpresent hs hi
    have hstands := rel_of_getElem? hstand hs he
    have hforest := Graph.ofHierarchy_isForest r inherit
    have hids : (all.map (·.node.id)).Nodup := by
      have hn : ((all.map (·.node)).map (·.id)).Nodup := hforest.ids_nodup
      rwa [List.map_map] at hn
    have hpos : ∀ a ∈ all, 0 ≤ a.node.depth :=
      fun a ha => hforest.depth_nonneg _ (List.mem_map_of_mem ha)
    refine ⟨hdepict, hpresents, hstands.level, ?_, fun source => ?_⟩
    · rw [hstands.isRoot_iff hpos, hforest.isRoot_iff _ (List.mem_map_of_mem hmem)]
    · have hlink : ⟨source, e.node.id⟩ ∈ g.links ↔ _ :=
        hstands.link_iff hmem hids (fun a ha => target_eq_id ha) source
      rw [hlink, hnodes]
      simp only [List.getElem?_map, Option.map_eq_some_iff]
      constructor
      · rintro ⟨j, a, haround, ha, rfl⟩
        exact ⟨j, a.node, haround, ⟨a, ha, rfl⟩, rfl⟩
      · rintro ⟨j, -, haround, ⟨a, ha, rfl⟩, rfl⟩
        exact ⟨j, a, haround, ha, rfl⟩

/-- A type with two fields and others below it, one of which leads back to it, and another type of the
same path. -/
def twofold : Rooted where
  hierarchy := ⟨5, #v[
    ⟨"User", [⟨"name", "string", false, .plain⟩, ⟨"mail", "T[]", true, .plain⟩], "a.ts", 3, 0,
      "User", none, [1]⟩,
    ⟨"Admin", [], "a.ts", 7, 0, "User.Admin", some 0, [0, 3]⟩,
    ⟨"Other", [], "b.ts", 1, 0, "User", none, [4]⟩,
    ⟨"Owner", [], "a.ts", 9, 0, "User.Admin.Owner", some 1, []⟩,
    ⟨"Guest", [], "b.ts", 2, 0, "User.Guest", some 2, []⟩]⟩
  roots := [0, 2, 1]

theorem outline_shows_graph_twofold :
    let outline := ofHierarchy id twofold true
    outline.types.map (fun s => (s.level, s.around, String.ofList s.branch.label)) =
      [(1, none, "[bold cyan]User[/bold cyan] [dim](2 props) a.ts:3[/dim]"),
        (2, some 0, "[bold cyan]Admin[/bold cyan] [dim](0 props) a.ts:7[/dim]"),
        (3, some 1, "[bold cyan]Owner[/bold cyan] [dim](0 props) a.ts:9[/dim]")] ∧
    (∃ s, outline.types[0]? = some s ∧
      (s.branch.items.takeWhile (fun item => !item.isType)).map (String.ofList ·.label) =
        ["[green]name[/green]: string", "[green]mail?[/green]: T[]"]) ∧
    (Graph.ofHierarchy twofold true).nodes.map (fun v => (v.id, v.depth)) =
      [("User", 0), ("User.Admin", 1), ("User.Admin.Owner", 2)] := by
  intro outline
  obtain ⟨-, -, -, hshows⟩ := outline_shows_graph id twofold true true
  refine ⟨by decide +kernel, ?_, by decide +kernel⟩
  have hfirst : ∃ s, outline.types[0]? = some s := by
    exact Option.isSome_iff_exists.mp (by decide +kernel)
  obtain ⟨s, hs⟩ := hfirst
  have hshown := hshows 0 s ⟨0, by decide⟩ _ hs (by decide +kernel) rfl
  refine ⟨s, hs, ?_⟩
  rw [hshown.presents.leaves]
  decide +kernel

end Outline

end TypeLineage
