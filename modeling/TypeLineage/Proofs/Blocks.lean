import Mathlib.Data.List.Basic
import Mathlib.Tactic.Common
import TypeLineage.Proofs.Levels

/-!
# Blocks

The grammar of blocks in braces, and the search that counts them. The search finds the first opening
brace with the end of the block that begins there, and nothing if no block does. What stands behind
the block has no say in it.
-/

namespace TypeLineage.Braces

mutual

/-- An opening brace, what stands inside, and a closing brace. -/
inductive Block : List Char → Prop where
  | braces {s : List Char} (hs : Inside s) : Block ('{' :: (s ++ ['}']))

/-- Any number of characters that are no braces, and of blocks. -/
inductive Inside : List Char → Prop where
  | nil : Inside []
  | char {c : Char} {s : List Char} (hopen : c ≠ '{') (hclose : c ≠ '}') (hs : Inside s) :
      Inside (c :: s)
  | block {b s : List Char} (hb : Block b) (hs : Inside s) : Inside (b ++ s)

end

/-- The first opening brace at or behind an offset of a text. -/
structure FirstOpening (text : List Char) (start first : Nat) : Prop where
  start_le : start ≤ first
  opens : text[first]? = some '{'
  before : ∀ i, start ≤ i → i < first → text[i]? ≠ some '{'

/-- The characters of a text from one offset to another, both included, are a block. -/
structure BlockAt (text : List Char) (first last : Nat) : Prop where
  last_lt : last < text.length
  block : Block ((text.take (last + 1)).drop first)

variable {s text inner : List Char} {start first last offset : Nat}

lemma inside_of_nested {kind : Char → Prop} (h : Nested kind s) : Inside s := by
  induction h with
  | nil => exact .nil
  | char hopen hclose _ _ ih => exact .char hopen hclose ih
  | @braces _ s t _ _ ihs iht =>
    have hblock := Inside.block (.braces ihs) iht
    simpa using hblock

mutual

lemma Block.exists_inner {s : List Char} :
    Block s → ∃ inner, s = '{' :: (inner ++ ['}']) ∧ Balanced inner
  | .braces hs => ⟨_, rfl, hs.balanced⟩

lemma Inside.balanced {s : List Char} : Inside s → Balanced s
  | .nil => .nil
  | .char hopen hclose hs => .char hopen hclose trivial hs.balanced
  | .block hb hs => by
    obtain ⟨inner, rfl, hinner⟩ := hb.exists_inner
    have hbraces : Balanced ('{' :: (inner ++ '}' :: [])) := .braces hinner .nil
    exact hbraces.append hs.balanced

end

lemma block_iff : Block s ↔ ∃ inner, s = '{' :: (inner ++ ['}']) ∧ Balanced inner := by
  refine ⟨Block.exists_inner, ?_⟩
  rintro ⟨inner, rfl, hinner⟩
  exact .braces (inside_of_nested hinner)

lemma spanFrom?_eq_some_iff : spanFrom? offset s = some (first, last) ↔
    ∃ front inner rest, s = front ++ '{' :: (inner ++ '}' :: rest) ∧ '{' ∉ front ∧
      Balanced inner ∧ first = offset + front.length ∧ last = first + 1 + inner.length := by
  constructor
  · intro h
    obtain ⟨front, inner, rest, hs, hfront, hfirst, hlast, hlevels⟩ := exists_of_spanFrom? h
    exact ⟨front, inner, rest, hs, hfront, hlevels.nested, hfirst, hlast⟩
  · rintro ⟨front, inner, rest, rfl, hfront, hinner, rfl, rfl⟩
    rw [spanFrom?_append_cons hfront, hinner.closing?_append 0, closing?, if_neg (by decide),
      if_pos rfl, if_pos (by omega), Option.map_some]

section Offsets

variable {before front rest : List Char}

lemma exists_of_drop_eq (hdrop : text.drop start = s) (hs : s ≠ []) :
    ∃ before, text = before ++ s ∧ before.length = start := by
  have hstart : start ≤ text.length := by
    by_contra hlt
    exact hs (hdrop.symm.trans (List.drop_eq_nil_of_le (by omega)))
  refine ⟨text.take start, ?_, List.length_take_of_le hstart⟩
  rw [← hdrop, List.take_append_drop]

lemma firstOpening_of_eq (hfront : '{' ∉ front)
    (htext : text = before ++ (front ++ '{' :: rest)) :
    FirstOpening text before.length (before.length + front.length) where
  start_le := by omega
  opens := by simp [htext]
  before i hstart hfirst hopen := by
    rw [htext, List.getElem?_append_right hstart, List.getElem?_append_left (by omega)] at hopen
    exact hfront (List.mem_of_getElem? hopen)

lemma blockAt_of_eq (hinner : Balanced inner)
    (htext : text = front ++ '{' :: (inner ++ '}' :: rest)) :
    BlockAt text front.length (front.length + 1 + inner.length) := by
  have hsplit : text = (front ++ '{' :: (inner ++ ['}'])) ++ rest := by simp [htext]
  refine ⟨by simp [htext]; omega, ?_⟩
  rw [hsplit, List.take_left' (by simp; omega), List.drop_left' rfl]
  exact block_iff.mpr ⟨inner, rfl, hinner⟩

lemma FirstOpening.exists_front (h : FirstOpening text start first) :
    ∃ front, text.drop start = front ++ text.drop first ∧ '{' ∉ front ∧
      first = start + front.length := by
  have hlt : first < text.length := (List.getElem?_eq_some_iff.mp h.opens).1
  have hle := h.start_le
  refine ⟨(text.drop start).take (first - start), ?_, fun hmem => ?_, ?_⟩
  · have hdrop : (text.drop start).drop (first - start) = text.drop first := by
      rw [List.drop_drop, Nat.add_sub_cancel' hle]
    rw [← hdrop, List.take_append_drop]
  · obtain ⟨i, hi, hopen⟩ := List.mem_iff_getElem.mp hmem
    rw [List.length_take] at hi
    apply h.before (start + i) (by omega) (by omega)
    rw [List.getElem_take, List.getElem_drop] at hopen
    rw [← hopen, List.getElem?_eq_getElem]
  · rw [List.length_take, List.length_drop]
    omega

lemma BlockAt.exists_inner (h : BlockAt text first last) :
    ∃ inner, text.drop first = '{' :: (inner ++ '}' :: text.drop (last + 1)) ∧ Balanced inner ∧
      last = first + 1 + inner.length := by
  obtain ⟨inner, hslice, hinner⟩ := h.block.exists_inner
  have hlast := h.last_lt
  have hlength := congrArg List.length hslice
  rw [List.length_drop, List.length_take, List.length_cons, List.length_append,
    List.length_singleton] at hlength
  refine ⟨inner, ?_, hinner, by omega⟩
  have hfirst : first ≤ (text.take (last + 1)).length := by
    rw [List.length_take]
    omega
  conv_lhs => rw [← List.take_append_drop (last + 1) text]
  rw [List.drop_append_of_le_length hfirst, hslice]
  simp

end Offsets

lemma spanAt?_eq_some_iff : spanAt? text start = some (first, last) ↔
    FirstOpening text start first ∧ BlockAt text first last := by
  rw [spanAt?, spanFrom?_eq_some_iff]
  constructor
  · rintro ⟨front, inner, rest, hdrop, hfront, hinner, rfl, rfl⟩
    obtain ⟨before, htext, rfl⟩ := exists_of_drop_eq hdrop (by simp)
    refine ⟨firstOpening_of_eq hfront htext, ?_⟩
    rw [← List.length_append]
    exact blockAt_of_eq hinner (by rw [htext, List.append_assoc])
  · rintro ⟨hfirst, hblock⟩
    obtain ⟨front, hdrop, hfront, rfl⟩ := hfirst.exists_front
    obtain ⟨inner, hbraces, hinner, rfl⟩ := hblock.exists_inner
    exact ⟨front, inner, _, hdrop.trans (congrArg _ hbraces), hfront, hinner, rfl, rfl⟩

lemma exists_firstOpening {i : Nat} (hstart : start ≤ i) (hi : text[i]? = some '{') :
    ∃ first, FirstOpening text start first := by
  have hmem : '{' ∈ text.drop start := by
    rw [List.mem_iff_getElem?]
    refine ⟨i - start, ?_⟩
    rw [List.getElem?_drop, Nat.add_sub_cancel' hstart, hi]
  obtain ⟨front, rest, hdrop, hfront⟩ := List.eq_append_cons_of_mem hmem
  obtain ⟨before, htext, rfl⟩ := exists_of_drop_eq hdrop (by simp)
  exact ⟨_, firstOpening_of_eq hfront htext⟩

lemma FirstOpening.unique {first' : Nat} (h : FirstOpening text start first)
    (h' : FirstOpening text start first') : first = first' := by
  rcases Nat.lt_trichotomy first first' with hlt | heq | hlt
  · exact absurd h.opens (h'.before first h.start_le hlt)
  · exact heq
  · exact absurd h'.opens (h.before first' h'.start_le hlt)

lemma spanAt?_take_append (h : spanAt? text start = some (first, last)) (rest : List Char) :
    spanAt? (text.take (last + 1) ++ rest) start = some (first, last) := by
  obtain ⟨hfirst, hblock⟩ := spanAt?_eq_some_iff.mp h
  have hlength : (text.take (last + 1)).length = last + 1 :=
    List.length_take_of_le hblock.last_lt
  have hle : first ≤ last := by
    obtain ⟨inner, -, -, rfl⟩ := hblock.exists_inner
    omega
  have hsame : ∀ i ≤ last, (text.take (last + 1) ++ rest)[i]? = text[i]? := by
    intro i hi
    rw [List.getElem?_append_left (by omega), List.getElem?_take_of_lt (by omega)]
  refine spanAt?_eq_some_iff.mpr ⟨⟨hfirst.start_le, ?_, fun i hstart hi => ?_⟩, ?_, ?_⟩
  · rw [hsame first hle]
    exact hfirst.opens
  · rw [hsame i (by omega)]
    exact hfirst.before i hstart hi
  · rw [List.length_append]
    omega
  · rw [List.take_left' hlength]
    exact hblock.block

/-- Two offsets are found exactly if the first one is that of the first opening brace and the
characters from the one to the other are a block. Nothing is found exactly if there is no opening
brace or no block begins at the first one. No other two offsets are like that, and what stands behind
the second has no say in it. -/
theorem spanAt?_finds_blocks (text : List Char) (start : Nat) :
    (∀ first last, spanAt? text start = some (first, last) ↔
      FirstOpening text start first ∧ BlockAt text first last) ∧
    (spanAt? text start = none ↔ (∀ i, start ≤ i → text[i]? ≠ some '{') ∨
      ∃ first, FirstOpening text start first ∧ ∀ last, ¬ BlockAt text first last) ∧
    (∀ first last first' last', FirstOpening text start first ∧ BlockAt text first last →
      FirstOpening text start first' ∧ BlockAt text first' last' →
        (first, last) = (first', last')) ∧
    ∀ first last, spanAt? text start = some (first, last) →
      ∀ rest, spanAt? (text.take (last + 1) ++ rest) start = some (first, last) := by
  have hunique : ∀ first last first' last',
      FirstOpening text start first ∧ BlockAt text first last →
        FirstOpening text start first' ∧ BlockAt text first' last' →
          (first, last) = (first', last') := by
    intro first last first' last' h h'
    rw [← spanAt?_eq_some_iff] at h h'
    exact Option.some.inj (h.symm.trans h')
  refine ⟨fun _ _ => spanAt?_eq_some_iff, ⟨fun hnone => ?_, fun h => ?_⟩, hunique,
    fun _ _ h => spanAt?_take_append h⟩
  · by_cases hopen : ∀ i, start ≤ i → text[i]? ≠ some '{'
    · exact .inl hopen
    · push Not at hopen
      obtain ⟨i, hstart, hi⟩ := hopen
      obtain ⟨first, hfirst⟩ := exists_firstOpening hstart hi
      refine .inr ⟨first, hfirst, fun last hblock => ?_⟩
      rw [spanAt?_eq_some_iff.mpr ⟨hfirst, hblock⟩] at hnone
      cases hnone
  · refine Option.eq_none_iff_forall_ne_some.mpr fun (first, last) hsome => ?_
    obtain ⟨hfirst, hblock⟩ := spanAt?_eq_some_iff.mp hsome
    rcases h with hopen | ⟨other, hother, hnone⟩
    · exact hopen first hfirst.start_le hfirst.opens
    · obtain rfl := hfirst.unique hother
      exact hnone last hblock

example : spanAt? "\x7b \x7d x \x7b a \x7b b \x7d \x7d \x7d".toList 1 = some (6, 16) := by
  decide

end TypeLineage.Braces
