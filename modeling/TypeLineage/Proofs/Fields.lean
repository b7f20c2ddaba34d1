import Mathlib.Data.List.Basic
import Mathlib.Tactic.Common
import TypeLineage.Proofs.Slots

/-!
# What a candidate is read as

The two forms of a field, written as what stands in the candidate and in which order, and that a
candidate is read as exactly the field it spells. Nothing stands behind a name but its mark and the
colon, so a candidate spells at most one field.
-/

namespace TypeLineage.Member

open Text

/-- The type in the text behind the colon. A semicolon at the very end does not belong to it, unless it
is all there is. -/
def typeOf (rest : List Char) : List Char :=
  let text := trimStart rest
  if text.getLast? = some ';' ∧ 2 ≤ text.length then trim text.dropLast else trim text

def slotField (name subtype : Word) : Field :=
  ⟨String.ofList name.chars, String.ofList (slotText subtype), false, .slot⟩

def plainField (name : Word) (optional : Bool) (type : List Char) : Field :=
  ⟨String.ofList name.chars, String.ofList type, optional, .plain⟩

/-- Behind the name and the colon comes the slot, whatever follows it. -/
structure SpellsSlot (candidate : List Char) (name subtype : Word) : Prop where
  not_comment : ¬ "//".toList <+: candidate
  marked : slotMarker <:+: candidate
  text : ∃ blanks rest, (∀ c ∈ blanks, isBlank c = true) ∧
    candidate = name.chars ++ ':' :: (blanks ++ (slotText subtype ++ rest))

/-- Behind the name, its mark and the colon comes the type and nothing else. -/
structure SpellsPlain (candidate : List Char) (name : Word) (optional : Bool) (type : List Char) :
    Prop where
  not_comment : ¬ "//".toList <+: candidate
  unmarked : ¬ slotMarker <:+: candidate
  text : ∃ rest, rest ≠ [] ∧ type = typeOf rest ∧
    candidate = name.chars ++ ((if optional then ['?'] else []) ++ ':' :: rest)

section Types

variable {rest : List Char}

lemma trim_eq_trimEnd {text : List Char} (htext : ∀ c ∈ text.head?, isBlank c = false) :
    trim text = trimEnd text := by
  rw [trim, trimStart_eq_self htext]

lemma typeText?_eq (hnewline : '\n' ∉ rest) :
    typeText? rest = if rest = [] then none else some (typeOf rest) := by
  have hlast : rest.getLast? ≠ some '\n' := fun h => hnewline (List.mem_of_getLast? h)
  have hstart : (trimStart rest).contains '\n' = false := by
    simpa using fun hmem => hnewline ((trimStart_suffix rest).subset hmem)
  have hhead := trimStart_head rest
  rw [typeText?, typeOf, dropFinalNewline, if_neg hlast]
  simp only [hstart, hlast, or_false, Bool.false_eq_true, if_false, List.isEmpty_iff]
  by_cases hblank : trimStart rest = []
  · simp [hblank, trim_eq_nil]
  · have hrest : rest ≠ [] := by
      rintro rfl
      exact hblank rfl
    rw [if_neg hblank, if_neg hrest]
    split
    · rename_i h
      rw [trim_eq_trimEnd]
      rwa [List.head?_dropLast, if_pos (Nat.lt_of_succ_le h.2)]
    · rw [trim_eq_trimEnd hhead]

end Types

section Forms

variable {s : List Char} {f : Field}

lemma slotText_head (subtype : Word) (rest : List Char) :
    ∀ c ∈ (slotText subtype ++ rest).head?, isBlank c = false := by
  intro c hc
  have hhead : (slotText subtype ++ rest).head? = some 'T' := rfl
  rw [hhead, Option.mem_some_iff] at hc
  rw [← hc]
  decide

lemma slot?_eq_some_iff : slot? s = some f ↔ ∃ name subtype : Word, (∃ blanks rest,
    (∀ c ∈ blanks, isBlank c = true) ∧
      s = name.chars ++ ':' :: (blanks ++ (slotText subtype ++ rest))) ∧
    f = slotField name subtype := by
  constructor
  · intro h
    obtain ⟨name, t, rfl⟩ : ∃ (name : Word) (t : List Char), s = name.chars ++ ':' :: t := by
      unfold slot? at h
      simp only at h
      split at h
      · cases h
      · rename_i hword
        obtain ⟨name, hname⟩ := exists_word_of_takeWhile hword
        obtain ⟨t, hcolon, -⟩ := Option.bind_eq_some_iff.mp h
        rw [List.isPrefixOf?_eq_some_iff_append_eq, List.singleton_append] at hcolon
        refine ⟨name, t, ?_⟩
        rw [← hname, hcolon, List.takeWhile_append_dropWhile]
    obtain ⟨subtype, ⟨rest, hrest⟩, rfl⟩ := (slot?_colon_eq_some_iff name).mp h
    refine ⟨name, subtype, ⟨t.takeWhile isBlank, rest, fun c hc => List.mem_takeWhile_imp hc, ?_⟩, rfl⟩
    rw [hrest, trimStart, List.takeWhile_append_dropWhile]
  · rintro ⟨name, subtype, ⟨blanks, rest, hblanks, rfl⟩, rfl⟩
    refine (slot?_colon_eq_some_iff name).mpr ⟨subtype, ?_, rfl⟩
    rw [trimStart_append_blanks hblanks, trimStart_eq_self (slotText_head subtype rest)]
    exact List.prefix_append _ _

lemma exists_label_of_plain? (h : plain? s = some f) : ∃ (name : Word) (optional : Bool)
    (rest : List Char), s = name.chars ++ ((if optional then ['?'] else []) ++ ':' :: rest) := by
  unfold plain? at h
  simp only at h
  split at h
  · cases h
  · rename_i hword
    obtain ⟨name, hname⟩ := exists_word_of_takeWhile hword
    have hs := List.takeWhile_append_dropWhile (p := isWord) (l := s)
    rw [hname] at hs
    split at h
    · rename_i rest hrest
      exact ⟨name, true, rest, by rw [← hs, hrest]; rfl⟩
    · rename_i rest hrest
      exact ⟨name, false, rest, by rw [← hs, hrest]; rfl⟩
    · cases h

lemma plain?_eq_some_iff : plain? s = some f ↔ ∃ (name : Word) (optional : Bool) (rest : List Char),
    s = name.chars ++ ((if optional then ['?'] else []) ++ ':' :: rest) ∧
      (typeText? rest).map (plainField name optional) = some f := by
  constructor
  · intro h
    obtain ⟨name, optional, rest, rfl⟩ := exists_label_of_plain? h
    rw [plain?_label] at h
    exact ⟨name, optional, rest, rfl, h⟩
  · rintro ⟨name, optional, rest, rfl, h⟩
    rw [plain?_label]
    exact h

end Forms

section Reading

variable {candidate : List Char} {f : Field}

lemma field?_eq_some_iff (hnewline : '\n' ∉ candidate) : field? candidate = some f ↔
    (∃ name subtype, SpellsSlot candidate name subtype ∧ f = slotField name subtype) ∨
      ∃ name optional type, SpellsPlain candidate name optional type ∧
        f = plainField name optional type := by
  rw [field?]
  split
  · rename_i hcomment
    have hslashes : "//".toList <+: candidate := List.isPrefixOf_iff_prefix.mp hcomment
    refine iff_of_false (by simp) ?_
    rintro (⟨_, _, h, -⟩ | ⟨_, _, _, h, -⟩)
    · exact h.not_comment hslashes
    · exact h.not_comment hslashes
  · rename_i hcomment
    have hslashes : ¬ "//".toList <+: candidate := fun h => hcomment (List.isPrefixOf_iff_prefix.mpr h)
    split
    · rename_i hmarker
      rw [occursIn_iff] at hmarker
      rw [slot?_eq_some_iff]
      constructor
      · rintro ⟨name, subtype, htext, rfl⟩
        exact .inl ⟨name, subtype, ⟨hslashes, hmarker, htext⟩, rfl⟩
      · rintro (⟨name, subtype, h, rfl⟩ | ⟨_, _, _, h, -⟩)
        · exact ⟨name, subtype, h.text, rfl⟩
        · exact absurd hmarker h.unmarked
    · rename_i hmarker
      rw [occursIn_iff] at hmarker
      rw [plain?_eq_some_iff]
      constructor
      · rintro ⟨name, optional, rest, htext, h⟩
        have hrest : '\n' ∉ rest := fun hmem => hnewline (by simp [htext, hmem])
        rw [typeText?_eq hrest] at h
        split at h
        · cases h
        · rename_i hne
          exact .inr ⟨name, optional, _, ⟨hslashes, hmarker, rest, hne, rfl, htext⟩,
            (Option.some.inj h).symm⟩
      · rintro (⟨_, _, h, -⟩ | ⟨name, optional, type, h, rfl⟩)
        · exact absurd h.marked hmarker
        · obtain ⟨rest, hne, rfl, htext⟩ := h.text
          have hrest : '\n' ∉ rest := fun hmem => hnewline (by simp [htext, hmem])
          refine ⟨name, optional, rest, htext, ?_⟩
          rw [typeText?_eq hrest, if_neg hne]
          rfl

lemma Word.ext_chars {v w : Word} (h : v.chars = w.chars) : v = w := by
  cases v
  cases w
  congr

lemma slotField_inj {name name' subtype subtype' : Word}
    (h : slotField name subtype = slotField name' subtype') : name = name' ∧ subtype = subtype' := by
  rw [slotField, slotField, Field.mk.injEq, String.ofList_inj, String.ofList_inj] at h
  have hsubtype : subtype.chars = subtype'.chars := by simpa [slotText] using h.2.1
  exact ⟨Word.ext_chars h.1, Word.ext_chars hsubtype⟩

lemma plainField_inj {name name' : Word} {optional optional' : Bool} {type type' : List Char}
    (h : plainField name optional type = plainField name' optional' type') :
    name = name' ∧ optional = optional' ∧ type = type' := by
  rw [plainField, plainField, Field.mk.injEq, String.ofList_inj, String.ofList_inj] at h
  exact ⟨Word.ext_chars h.1, h.2.2.1, h.2.1⟩

lemma slotField_ne_plainField {name name' subtype : Word} {optional : Bool} {type : List Char} :
    slotField name subtype ≠ plainField name' optional type :=
  fun h => nomatch congrArg Field.kind h

/-- A candidate of one line is a slot exactly if it spells one, a plain field exactly if it spells one,
and is passed over exactly if it spells neither. -/
theorem field?_reads_spelling (hnewline : '\n' ∉ candidate) :
    (∀ name subtype : Word, field? candidate = some ⟨String.ofList name.chars,
        String.ofList (slotText subtype), false, .slot⟩ ↔ SpellsSlot candidate name subtype) ∧
      (∀ (name : Word) (optional : Bool) (type : List Char),
        field? candidate = some ⟨String.ofList name.chars, String.ofList type, optional, .plain⟩ ↔
          SpellsPlain candidate name optional type) ∧
      (field? candidate = none ↔ (∀ name subtype, ¬ SpellsSlot candidate name subtype) ∧
        ∀ name optional type, ¬ SpellsPlain candidate name optional type) := by
  refine ⟨fun name subtype => ?_, fun name optional type => ?_, ?_⟩
  · constructor
    · intro h
      obtain ⟨name', subtype', hspells, heq⟩ | ⟨_, _, _, -, heq⟩ := (field?_eq_some_iff hnewline).mp h
      · obtain ⟨rfl, rfl⟩ := slotField_inj heq
        exact hspells
      · exact absurd heq slotField_ne_plainField
    · exact fun h => (field?_eq_some_iff hnewline).mpr (.inl ⟨name, subtype, h, rfl⟩)
  · constructor
    · intro h
      obtain ⟨_, _, -, heq⟩ | ⟨name', optional', type', hspells, heq⟩ :=
        (field?_eq_some_iff hnewline).mp h
      · exact absurd heq.symm slotField_ne_plainField
      · obtain ⟨rfl, rfl, rfl⟩ := plainField_inj heq
        exact hspells
    · exact fun h => (field?_eq_some_iff hnewline).mpr (.inr ⟨name, optional, type, h, rfl⟩)
  · rw [Option.eq_none_iff_forall_ne_some]
    constructor
    · intro h
      exact ⟨fun name subtype hspells =>
          h _ ((field?_eq_some_iff hnewline).mpr (.inl ⟨name, subtype, hspells, rfl⟩)),
        fun name optional type hspells =>
          h _ ((field?_eq_some_iff hnewline).mpr (.inr ⟨name, optional, type, hspells, rfl⟩))⟩
    · rintro ⟨hslot, hplain⟩ f hf
      obtain ⟨name, subtype, hspells, -⟩ | ⟨name, optional, type, hspells, -⟩ :=
        (field?_eq_some_iff hnewline).mp hf
      · exact hslot name subtype hspells
      · exact hplain name optional type hspells

/-- Of two semicolons behind the colon one is the type. -/
theorem field?_reads_spelling_semicolons :
    let candidate := "a?: ;;".toList
    let name : Word := ⟨['a'], by decide, List.all_eq_true.mp (by decide)⟩
    '\n' ∉ candidate ∧ SpellsPlain candidate name true [';'] ∧
      field? candidate = some ⟨"a", ";", true, .plain⟩ := by
  intro candidate name
  have hnewline : '\n' ∉ candidate := by decide
  have hspells : SpellsPlain candidate name true [';'] :=
    { not_comment := by decide
      unmarked := fun h => absurd (occursIn_iff.mpr h) (by decide)
      text := ⟨" ;;".toList, by decide, by decide, by decide⟩ }
  exact ⟨hnewline, hspells, ((field?_reads_spelling hnewline).2.1 name true [';']).mpr hspells⟩

end Reading

end TypeLineage.Member
