import Mathlib.Data.List.Basic
import Mathlib.Tactic.Common
import TypeLineage.Export.Payload
import TypeLineage.Proofs.Clusters
import TypeLineage.Proofs.Focusing

/-!
# Focusing any graph

What a focus keeps of a graph that need not be a forest: links may come twice or lead nowhere, and nodes
may share an identifier. The nodes that mention the text are still there after focusing, so a second
focus on the same text finds the same neighbours and keeps everything.
-/

namespace TypeLineage.Graph

open scoped List

/-- Both ends of every link are identifiers of nodes. -/
def IsClosed (g : Graph) : Prop :=
  ∀ e ∈ g.links, (∃ u ∈ g.nodes, u.id = e.source) ∧ ∃ v ∈ g.nodes, v.id = e.target

instance (g : Graph) : Decidable g.IsClosed :=
  inferInstanceAs (Decidable (∀ e ∈ g.links, _ ∧ _))

/-- The identifier of a node that mentions the text. -/
def Mentioned (g : Graph) (text id : String) : Prop :=
  ∃ v ∈ g.nodes, GraphNode.mentions text v = true ∧ v.id = id

instance (g : Graph) (text id : String) : Decidable (g.Mentioned text id) :=
  inferInstanceAs (Decidable (∃ v ∈ g.nodes, _ ∧ _))

/-- A link that has an end at a node that mentions the text. -/
def Touches (g : Graph) (text : String) (e : GraphLink) : Prop :=
  g.Mentioned text e.source ∨ g.Mentioned text e.target

instance (g : Graph) (text : String) (e : GraphLink) : Decidable (g.Touches text e) :=
  inferInstanceAs (Decidable (_ ∨ _))

/-- The identifier of a node that mentions the text, or of a direct neighbour of one. -/
def Near (g : Graph) (text id : String) : Prop :=
  g.Mentioned text id ∨ ∃ e ∈ g.links, g.Touches text e ∧ (id = e.source ∨ id = e.target)

instance (g : Graph) (text id : String) : Decidable (g.Near text id) :=
  inferInstanceAs (Decidable (_ ∨ ∃ e ∈ g.links, _ ∧ _))

/-- What focusing a graph on a text shows of it. -/
structure Focuses (text : String) (g shown : Graph) : Prop where
  nodes_sublist : shown.nodes <+ g.nodes
  links_sublist : shown.links <+ g.links
  kept : text ≠ "" → (∃ v ∈ g.nodes, GraphNode.mentions text v = true) →
    shown = ⟨g.nodes.filter fun v => g.Near text v.id, g.links.filter fun e => g.Touches text e⟩
  whole : text = "" ∨ (∀ v ∈ g.nodes, GraphNode.mentions text v = false) → shown = g
  closed : g.IsClosed → shown.IsClosed
  again : ∀ retold : Graph, retold.payload = shown.payload →
    (retold.focus text).payload = shown.payload

section Matched

variable {g : Graph} {text id : String}

lemma mem_ids_iff :
    id ∈ (g.nodes.filter (GraphNode.mentions text)).map (·.id) ↔ g.Mentioned text id := by
  simp [Mentioned, and_assoc]

variable (htext : text ≠ "") (hfound : ∃ v ∈ g.nodes, GraphNode.mentions text v = true)

include htext hfound

lemma focus_eq_filter : g.focus text =
    ⟨g.nodes.filter fun v => g.Near text v.id, g.links.filter fun e => g.Touches text e⟩ := by
  have hlinks : g.linksAt ((g.nodes.filter (GraphNode.mentions text)).map (·.id)) =
      g.links.filter fun e => g.Touches text e := by
    refine List.filter_congr fun e _ => ?_
    rw [Bool.eq_iff_iff, decide_eq_true_iff]
    simp only [Bool.or_eq_true, List.contains_iff_mem, mem_ids_iff, Touches]
  rw [Nested.focus_eq htext hfound]
  simp only [hlinks]
  congr 1
  refine List.filter_congr fun v _ => ?_
  rw [Bool.eq_iff_iff, decide_eq_true_iff]
  simp only [List.contains_iff_mem, List.mem_append, mem_ids_iff, List.mem_flatMap, List.mem_filter,
    List.mem_cons, List.not_mem_nil, or_false, decide_eq_true_eq, Near, and_assoc]

lemma mentioned_focus_iff : (g.focus text).Mentioned text id ↔ g.Mentioned text id := by
  rw [focus_eq_filter htext hfound]
  constructor
  · rintro ⟨v, hv, hm, hid⟩
    exact ⟨v, List.mem_of_mem_filter hv, hm, hid⟩
  · rintro ⟨v, hv, hm, hid⟩
    exact ⟨v, List.mem_filter.mpr ⟨hv, decide_eq_true (.inl ⟨v, hv, hm, rfl⟩)⟩, hm, hid⟩

lemma touches_focus_iff {e : GraphLink} : (g.focus text).Touches text e ↔ g.Touches text e :=
  or_congr (mentioned_focus_iff htext hfound) (mentioned_focus_iff htext hfound)

lemma near_focus_iff : (g.focus text).Near text id ↔ g.Near text id := by
  refine or_congr (mentioned_focus_iff htext hfound) ?_
  simp only [touches_focus_iff htext hfound]
  refine exists_congr fun e => ?_
  rw [focus_eq_filter htext hfound, List.mem_filter, decide_eq_true_eq]
  exact ⟨fun ⟨he, h⟩ => ⟨he.1, h⟩, fun ⟨he, h⟩ => ⟨⟨he, h.1⟩, h⟩⟩

lemma focus_focus_of_found : (g.focus text).focus text = g.focus text := by
  have hfound' : ∃ v ∈ (g.focus text).nodes, GraphNode.mentions text v = true := by
    obtain ⟨v, hv, hm⟩ := hfound
    obtain ⟨w, hw, hmw, -⟩ := (mentioned_focus_iff htext ⟨v, hv, hm⟩).mpr ⟨v, hv, hm, rfl⟩
    exact ⟨w, hw, hmw⟩
  rw [focus_eq_filter htext hfound']
  simp only [near_focus_iff htext hfound, touches_focus_iff htext hfound]
  rw [focus_eq_filter htext hfound]
  simp

lemma isClosed_focus (hg : g.IsClosed) : (g.focus text).IsClosed := by
  rw [focus_eq_filter htext hfound]
  intro e he
  obtain ⟨he, htouches⟩ := List.mem_filter.mp he
  have hnear : ∀ id, id = e.source ∨ id = e.target → g.Near text id :=
    fun id hid => .inr ⟨e, he, of_decide_eq_true htouches, hid⟩
  obtain ⟨⟨u, hu, hsource⟩, v, hv, htarget⟩ := hg e he
  exact ⟨⟨u, List.mem_filter.mpr ⟨hu, decide_eq_true (hnear _ (.inl hsource))⟩, hsource⟩,
    v, List.mem_filter.mpr ⟨hv, decide_eq_true (hnear _ (.inr htarget))⟩, htarget⟩

end Matched

lemma focus_sublist (g : Graph) (text : String) :
    (g.focus text).nodes <+ g.nodes ∧ (g.focus text).links <+ g.links := by
  rcases focus_cases g text with ⟨htext, hfound⟩ | ⟨hself, -⟩
  · rw [focus_eq_filter htext hfound]
    exact ⟨List.filter_sublist, List.filter_sublist⟩
  · rw [hself]
    exact ⟨List.Sublist.refl _, List.Sublist.refl _⟩

theorem focus_focus (g : Graph) (text : String) : (g.focus text).focus text = g.focus text := by
  rcases focus_cases g text with ⟨htext, hfound⟩ | ⟨hself, -⟩
  · exact focus_focus_of_found htext hfound
  · rw [hself, hself]

section Payload

/-- The graph as far as its payload tells it, which is silent about the kinds of fields. -/
def unkinded (g : Graph) : Graph where
  nodes := g.nodes.map fun v =>
    { v with properties := v.properties.map fun f => { f with kind := .plain } }
  links := g.links

variable {g g' : Graph}

lemma payload_unkinded (g : Graph) : g.unkinded.payload = g.payload := by
  simp [payload, unkinded, nodeJson, fieldJson, Function.comp_def]

lemma map_congr_of_map {α β γ : Type} {f : α → β} {h : α → γ} (hfh : ∀ x y, f x = f y → h x = h y) :
    ∀ {xs ys : List α}, xs.map f = ys.map f → xs.map h = ys.map h
  | [], [], _ => rfl
  | x :: xs, y :: ys, heq => by
    rw [List.map_cons, List.map_cons, List.cons.injEq] at heq ⊢
    exact ⟨hfh x y heq.1, map_congr_of_map hfh heq.2⟩

lemma unkinded_eq (h : g.payload = g'.payload) : g.unkinded = g'.unkinded := by
  have hfields : ∀ f f' : Field, fieldJson f = fieldJson f' →
      { f with kind := .plain } = { f' with kind := FieldKind.plain } := by
    intro f f' hf
    simp only [fieldJson, Json.object.injEq, List.cons.injEq, Prod.mk.injEq, Json.string.injEq,
      Json.bool.injEq, true_and, and_true] at hf
    simp [hf]
  simp only [payload, Json.object.injEq, List.cons.injEq, Prod.mk.injEq, Json.array.injEq,
    true_and, and_true] at h
  obtain ⟨hnodes, hlinks⟩ := h
  have hid : g.links.map id = g'.links.map id := by
    refine map_congr_of_map (fun e e' he => ?_) hlinks
    simp only [linkJson, Json.object.injEq, List.cons.injEq, Prod.mk.injEq, Json.string.injEq,
      true_and, and_true] at he
    cases e
    simp_all
  rw [unkinded, unkinded, Graph.mk.injEq]
  refine ⟨map_congr_of_map (fun v v' hv => ?_) hnodes, by simpa using hid⟩
  simp only [nodeJson, Json.object.injEq, List.cons.injEq, Prod.mk.injEq, Json.string.injEq,
    Json.number.injEq, Json.bool.injEq, Json.array.injEq, true_and, and_true] at hv
  obtain ⟨hid, hname, hdepth, hroot, hproperties, hfile, hline, hcolumn⟩ := hv
  have hproperties := map_congr_of_map hfields hproperties
  rw [GraphNode.mk.injEq]
  refine ⟨hid, hname, hdepth, hroot, hproperties, ?_⟩
  rcases hlocation : v.location with ⟨file, line, column⟩
  rcases hlocation' : v'.location with ⟨file', line', column'⟩
  simp_all

lemma focus_unkinded (g : Graph) (text : String) :
    g.unkinded.focus text = (g.focus text).unkinded := by
  simp only [focus, unkinded, linksAt, List.filter_map, List.map_map, Function.comp_def]
  have hmentions : ∀ v : GraphNode, GraphNode.mentions text
      { v with properties := v.properties.map fun f => { f with kind := .plain } } =
        GraphNode.mentions text v := fun _ => rfl
  simp only [hmentions]
  split <;> rfl

lemma payload_focus_congr (h : g.payload = g'.payload) (text : String) :
    (g.focus text).payload = (g'.focus text).payload := by
  rw [← payload_unkinded (g.focus text), ← focus_unkinded, unkinded_eq h, focus_unkinded,
    payload_unkinded]

end Payload

/-- Focusing keeps the order of any graph, closes it if it was closed, and changes nothing the second
time, also if the graph is made anew from the payload. -/
theorem focus_focuses (g : Graph) (text : String) : Focuses text g (g.focus text) where
  nodes_sublist := (focus_sublist g text).1
  links_sublist := (focus_sublist g text).2
  kept := focus_eq_filter
  whole := by
    intro hnot
    rcases focus_cases g text with ⟨htext, v, hv, hm⟩ | ⟨hself, -⟩
    · rcases hnot with rfl | hnone
      · exact absurd rfl htext
      · exact absurd hm (by simp [hnone v hv])
    · exact hself
  closed := by
    intro hg
    rcases focus_cases g text with ⟨htext, hfound⟩ | ⟨hself, -⟩
    · exact isClosed_focus htext hfound hg
    · rwa [hself]
  again := by
    intro retold h
    rw [payload_focus_congr h, focus_focus]

/-- A graph with a cycle, a link given twice and two nodes of one identifier. -/
def crowded : Graph where
  nodes :=
    [⟨"a", "A", 0, true, [⟨"s", "TypeConstructor<B>", false, .slot⟩], ⟨"", 1, 0⟩⟩,
      ⟨"b", "XB", 1, false, [], ⟨"", 2, 0⟩⟩, ⟨"a", "C", 0, true, [], ⟨"", 3, 0⟩⟩,
      ⟨"d", "D", 0, true, [], ⟨"", 4, 0⟩⟩]
  links := [⟨"a", "b"⟩, ⟨"d", "a"⟩, ⟨"a", "b"⟩, ⟨"b", "a"⟩]

theorem focus_focuses_crowded :
    crowded.IsClosed ∧ (crowded.focus "X").IsClosed ∧
    (crowded.focus "X").unkinded.payload = (crowded.focus "X").payload ∧
    ((crowded.focus "X").unkinded.focus "X").payload = (crowded.focus "X").payload ∧
    (crowded.focus "X").nodes.map (·.name) = ["A", "XB", "C"] ∧
    (crowded.focus "X").links = [⟨"a", "b"⟩, ⟨"a", "b"⟩, ⟨"b", "a"⟩] := by
  have hclosed : crowded.IsClosed := by decide
  have hretold := payload_unkinded (crowded.focus "X")
  exact ⟨hclosed, (focus_focuses crowded "X").closed hclosed, hretold,
    (focus_focuses crowded "X").again _ hretold, by decide +kernel, by decide +kernel⟩

end TypeLineage.Graph
