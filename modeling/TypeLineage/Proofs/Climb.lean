import Mathlib.Data.List.Chain
import Mathlib.Data.Fintype.Card
import Mathlib.Tactic.Common
import TypeLineage.Hierarchy.Basic

/-!
# Climbing to the outermost ancestor

`Climbs` is the walk along parents with no bound on its steps. It ends above a node without parent,
or in front of a node it has seen before. Every climb ends, `chain` is its outcome, and below a node
without parent the chain is the only way up.
-/

namespace TypeLineage.Hierarchy

variable {n : Nat} {parent : Fin n → Option (Fin n)}

/-- A walk along parents: the nodes seen before, the node it has come to, the nodes it goes through
from there. -/
inductive Climbs (parent : Fin n → Option (Fin n)) :
    List (Fin n) → Option (Fin n) → List (Fin n) → Prop where
  | top (seen : List (Fin n)) : Climbs parent seen none []
  | again {seen : List (Fin n)} {i : Fin n} (hi : i ∈ seen) : Climbs parent seen (some i) []
  | step {seen up : List (Fin n)} {i : Fin n} (hi : i ∉ seen)
      (hup : Climbs parent (i :: seen) (parent i) up) : Climbs parent seen (some i) (i :: up)

lemma mem_of_length_ge {seen : List (Fin n)} (hn : seen.Nodup) (hlen : n ≤ seen.length)
    (i : Fin n) : i ∈ seen := by
  by_contra hi
  have hle := (List.nodup_cons.mpr ⟨hi, hn⟩).length_le_card
  rw [List.length_cons, Fintype.card_fin] at hle
  omega

/-- With a step for every node not seen yet the bound of `climb` is never met. -/
theorem climb_climbs (steps : Nat) (seen : List (Fin n)) (at? : Option (Fin n))
    (hn : seen.Nodup) (hsteps : n ≤ seen.length + steps) :
    Climbs parent seen at? (climb parent steps seen at?) := by
  induction steps generalizing seen at? with
  | zero =>
    cases at? with
    | none => exact .top seen
    | some i => exact .again (mem_of_length_ge hn (by omega) i)
  | succ steps ih =>
    cases at? with
    | none => exact .top seen
    | some i =>
      rw [climb]
      split
      · exact .again ‹_›
      · refine .step ‹_› (ih (i :: seen) (parent i) (List.nodup_cons.mpr ⟨‹_›, hn⟩) ?_)
        rw [List.length_cons]
        omega

theorem chain_climbs (parent : Fin n → Option (Fin n)) (i : Fin n) :
    Climbs parent [] (some i) (chain parent i) :=
  climb_climbs n [] (some i) List.nodup_nil (by simp)

theorem Climbs.outcome_unique {seen up up' : List (Fin n)} {at? : Option (Fin n)}
    (hc : Climbs parent seen at? up) (hc' : Climbs parent seen at? up') : up = up' := by
  induction hc generalizing up' with
  | top =>
    cases hc'
    rfl
  | again hi =>
    cases hc' with
    | again => rfl
    | step hn => exact absurd hi hn
  | step hn _ ih =>
    cases hc' with
    | again hi => exact absurd hi hn
    | step _ hup => rw [ih hup]

/-- Nodes from one up to one without parent, each followed by its parent. -/
structure Ascent (parent : Fin n → Option (Fin n)) (l : List (Fin n)) : Prop where
  linked : l.IsChain fun i j => parent i = some j
  ends : ∀ i ∈ l.getLast?, parent i = none

namespace Ascent

variable {i j : Fin n} {l l' : List (Fin n)}

lemma tail (ha : Ascent parent (i :: j :: l)) : Ascent parent (j :: l) where
  linked := ha.linked.tail
  ends := by simpa using ha.ends

lemma eq_of_head (ha : Ascent parent (i :: l)) (ha' : Ascent parent (i :: l')) : l = l' := by
  induction l generalizing i l' with
  | nil =>
    have hi : parent i = none := ha.ends i (by simp)
    cases l' with
    | nil => rfl
    | cons j l' =>
      have hj : parent i = some j := (List.isChain_cons_cons.mp ha'.linked).1
      simp [hi] at hj
  | cons k l ih =>
    have hk : parent i = some k := (List.isChain_cons_cons.mp ha.linked).1
    cases l' with
    | nil =>
      have hi : parent i = none := ha'.ends i (by simp)
      simp [hi] at hk
    | cons k' l' =>
      have hk' : parent i = some k' := (List.isChain_cons_cons.mp ha'.linked).1
      obtain rfl : k = k' := by simpa [hk] using hk'
      rw [ih ha.tail ha'.tail]

lemma of_append {s : List (Fin n)} (ha : Ascent parent (s ++ i :: l)) : Ascent parent (i :: l) where
  linked := ha.linked.right_of_append
  ends := by simpa using ha.ends

/-- An ascent meets no node twice: from there on it would be the same ascent again. -/
theorem nodup (ha : Ascent parent l) : l.Nodup := by
  induction l with
  | nil => exact List.nodup_nil
  | cons i l ih =>
    cases l with
    | nil => exact List.nodup_singleton i
    | cons j l =>
      refine List.nodup_cons.mpr ⟨fun hi => ?_, ih ha.tail⟩
      obtain ⟨s, t, hst⟩ := List.append_of_mem hi
      have ht : Ascent parent (i :: t) := of_append (hst ▸ ha.tail)
      have heq := ha.eq_of_head ht
      have hlen := congrArg List.length hst
      simp [heq] at hlen
      omega

lemma climbs {seen : List (Fin n)} (ha : Ascent parent (i :: l))
    (hseen : ∀ j ∈ i :: l, j ∉ seen) : Climbs parent seen (some i) (i :: l) := by
  induction l generalizing i seen with
  | nil =>
    have hi : parent i = none := ha.ends i (by simp)
    exact .step (hseen i (by simp)) (hi ▸ .top _)
  | cons j l ih =>
    have hj : parent i = some j := (List.isChain_cons_cons.mp ha.linked).1
    have hn := (List.nodup_cons.mp ha.nodup).1
    refine .step (hseen i (by simp)) (hj ▸ ih ha.tail ?_)
    intro k hk hmem
    rcases List.mem_cons.mp hmem with rfl | hmem
    · exact hn hk
    · exact hseen k (List.mem_cons_of_mem _ hk) hmem

theorem chain_eq (ha : Ascent parent (i :: l)) : chain parent i = i :: l :=
  (chain_climbs parent i).outcome_unique (ha.climbs (by simp))

end Ascent

end TypeLineage.Hierarchy
