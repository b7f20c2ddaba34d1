import Mathlib.Data.List.Basic
import Mathlib.Tactic.Common
import TypeLineage.Proofs.Members
import TypeLineage.Proofs.Surroundings

/-!
# Members that mention a subtype slot

Whatever holds the marker of subtypes is read as a slot or not at all. So a member whose type
mentions a slot is kept exactly if it has no question mark and its type begins with the slot; else
its name is only found if another member has it. Where the type has a semicolon outside of braces,
the member ends there.
-/

namespace TypeLineage

lemma Keyed.exists_key_ofList_iff {α : Type} {key : α → String} {xs : List α} {k : String} :
    (∃ x ∈ ofList key xs, key x = k) ↔ ∃ x ∈ xs, key x = k := by
  have hkeys : k ∈ (ofList key xs).map key ↔ k ∈ xs.map key := by
    rw [map_key_ofList, List.mem_eraseDups]
  simpa only [List.mem_map] using hkeys

namespace Member

open Text

/-- The type of the constructor of a subtype. -/
def slotText (subtype : Word) : List Char :=
  slotMarker ++ '<' :: (subtype.chars ++ ['>'])

/-- The text up to the first semicolon that stands outside of braces. -/
def beforeSemicolon : (depth : Nat) → List Char → List Char
  | _, [] => []
  | depth, c :: rest =>
    if c = ';' ∧ depth = 0 then []
    else
      c :: beforeSemicolon
        (if c = '{' then depth + 1 else if c = '}' then depth - 1 else depth) rest

/-- A member the type of which mentions a slot. -/
structure Mention where
  name : Word
  optional : Bool
  gap : List Char
  type : List Char
  gap_blank : ∀ c ∈ gap, isBlank c = true
  gap_newline : '\n' ∉ gap
  trimmed : Trimmed type
  balanced : Balanced type
  newline_not_mem : '\n' ∉ type
  mentions : ∃ subtype : Word, slotText subtype <:+: type

namespace Mention

variable (m : Mention)

/-- The name with the mark of an optional member. -/
def label : List Char :=
  m.name.chars ++ if m.optional then ['?'] else []

def text : List Char :=
  m.label ++ ':' :: (m.gap ++ m.type)

/-- The type as far as the member goes. -/
def part : List Char :=
  beforeSemicolon 0 m.type

/-- What is left of the type behind its first semicolon outside of braces, with the semicolon. -/
def remainder : List Char :=
  m.type.drop m.part.length

/-- The text as far as the member goes. -/
def own : List Char :=
  m.label ++ ':' :: (m.gap ++ m.part)

def fieldName : String :=
  String.ofList m.name.chars

/-- The member gives a field. -/
def IsKept : Prop :=
  (m.optional = false ∧ ∃ subtype : Word, slotText subtype <+: m.part) ∨
    (m.part ≠ [] ∧ ¬ slotMarker <:+: m.name.chars ∧ ¬ slotMarker <:+: m.part)

end Mention

lemma exists_beforeSemicolon {kind : Char → Prop} {n m : Nat} {s : List Char}
    (h : Levels kind n s m) (hm : m = 0) : ∃ rest, s = beforeSemicolon n s ++ rest ∧
      Levels (· ≠ ';') n (beforeSemicolon n s) 0 ∧ Levels kind 0 rest 0 ∧
        (rest = [] ∨ ∃ more, rest = ';' :: more) := by
  induction h with
  | nil =>
    subst hm
    exact ⟨[], rfl, .nil, .nil, .inl rfl⟩
  | @opening n m s _ ih =>
    obtain ⟨rest, hs, hlevels, hrest, hhead⟩ := ih hm
    have hstep : beforeSemicolon n ('{' :: s) = '{' :: beforeSemicolon (n + 1) s := rfl
    exact ⟨rest, by rw [hstep, List.cons_append, ← hs], hstep ▸ .opening hlevels, hrest, hhead⟩
  | @closing n m s _ ih =>
    obtain ⟨rest, hs, hlevels, hrest, hhead⟩ := ih hm
    have hstep : beforeSemicolon (n + 1) ('}' :: s) = '}' :: beforeSemicolon n s := rfl
    exact ⟨rest, by rw [hstep, List.cons_append, ← hs], hstep ▸ .closing hlevels, hrest, hhead⟩
  | @char n m c s hopen hclose hkind hs ih =>
    by_cases hcut : c = ';' ∧ n = 0
    · obtain ⟨rfl, rfl⟩ := hcut
      subst hm
      exact ⟨_, rfl, .nil, .char hopen hclose hkind hs, .inr ⟨s, rfl⟩⟩
    · obtain ⟨rest, heq, hlevels, hrest, hhead⟩ := ih hm
      have hstep : beforeSemicolon n (c :: s) = c :: beforeSemicolon n s := by
        rw [beforeSemicolon, if_neg hcut, if_neg hopen, if_neg hclose]
      refine ⟨rest, by rw [hstep, List.cons_append, ← heq], ?_, hrest, hhead⟩
      rw [hstep]
      exact .char hopen hclose (fun hn hc => hcut ⟨hc, hn⟩) hlevels

lemma beforeSemicolon_eq_self {n m : Nat} {s : List Char} (h : Levels (· ≠ ';') n s m) :
    beforeSemicolon n s = s := by
  induction h with
  | nil => rfl
  | @opening n m s _ ih => exact congrArg ('{' :: ·) ih
  | @closing n m s _ ih => exact congrArg ('}' :: ·) ih
  | @char n m c s hopen hclose hkind _ ih =>
    rw [beforeSemicolon, if_neg fun h => hkind h.2 h.1, if_neg hopen, if_neg hclose, ih]

section Ends

variable {needle s : List Char} {c : Char}

lemma prefix_trimEnd (hc : isBlank c = false) (h : needle ++ [c] <+: s) :
    needle ++ [c] <+: trimEnd s := by
  obtain ⟨rest, rfl⟩ := h
  refine ⟨trimEnd rest, ?_⟩
  rw [List.append_assoc, List.append_assoc, List.singleton_append, List.singleton_append,
    trimEnd_append_cons hc]

lemma infix_trimEnd (hc : isBlank c = false) (h : needle ++ [c] <:+: s) :
    needle ++ [c] <:+: trimEnd s := by
  obtain ⟨front, back, rfl⟩ := h
  have hprefix : front ++ needle ++ [c] <+: trimEnd (front ++ (needle ++ [c]) ++ back) := by
    apply prefix_trimEnd hc
    rw [← List.append_assoc front]
    exact List.prefix_append _ _
  rw [List.append_assoc] at hprefix
  exact (List.suffix_append front _).isInfix.trans hprefix.isInfix

lemma slotText_prefix_trimEnd {subtype : Word} :
    slotText subtype <+: trimEnd s ↔ slotText subtype <+: s := by
  have htext : slotText subtype = (slotMarker ++ '<' :: subtype.chars) ++ ['>'] := by simp [slotText]
  constructor
  · exact fun h => h.trans ( trimEnd_prefix s)
  · rw [htext]
    exact prefix_trimEnd (by decide)

end Ends

section Reading

variable (name : Word) {t : List Char} {f : Field}

lemma isWord_colon (rest : List Char) : ∀ c ∈ (':' :: rest).head?, isWord c = false := by
  intro c hc
  obtain rfl : ':' = c := by simpa using hc
  decide

lemma isWord_question (rest : List Char) : ∀ c ∈ ('?' :: rest).head?, isWord c = false := by
  intro c hc
  obtain rfl : '?' = c := by simpa using hc
  decide

lemma slot?_question (rest : List Char) : slot? (name.chars ++ '?' :: rest) = none := by
  unfold slot?
  rw [name.takeWhile_append (isWord_question rest), name.dropWhile_append (isWord_question rest)]
  simp [name.isEmpty_eq, List.isPrefixOf?]

theorem slot?_colon_eq_some_iff : slot? (name.chars ++ ':' :: t) = some f ↔
    ∃ subtype : Word, slotText subtype <+: trimStart t ∧
      f = ⟨String.ofList name.chars, String.ofList (slotText subtype), false, .slot⟩ := by
  unfold slot?
  rw [name.takeWhile_append (isWord_colon t), name.dropWhile_append (isWord_colon t)]
  simp only [name.isEmpty_eq, List.isPrefixOf?, BEq.rfl, if_true, Option.bind_eq_bind,
    Option.bind_some]
  constructor
  · intro h
    obtain ⟨s, hmarker, h⟩ := Option.bind_eq_some_iff.mp h
    rw [List.isPrefixOf?_eq_some_iff_append_eq] at hmarker
    split at h
    · cases h
    · rename_i hsubtype
      obtain ⟨w, hw⟩ := exists_word_of_takeWhile hsubtype
      obtain ⟨rest, hclose, h⟩ := Option.bind_eq_some_iff.mp h
      rw [List.isPrefixOf?_eq_some_iff_append_eq] at hclose
      refine ⟨w, ⟨rest, ?_⟩, ?_⟩
      · rw [← hmarker, ← List.takeWhile_append_dropWhile (p := isWord) (l := s), hw, ← hclose]
        simp [slotText]
      · rw [hw] at h
        rw [← Option.some.inj h, slotText]
        simp
  · rintro ⟨w, ⟨rest, htext⟩, rfl⟩
    have hclose : ∀ c ∈ ('>' :: rest).head?, isWord c = false := by
      intro c hc
      obtain rfl : '>' = c := by simpa using hc
      decide
    have hmarker : (slotMarker ++ ['<']).isPrefixOf? (trimStart t) =
        some (w.chars ++ '>' :: rest) := by
      rw [List.isPrefixOf?_eq_some_iff_append_eq, ← htext]
      simp [slotText]
    simp only [hmarker, Option.bind_some, w.takeWhile_append hclose, w.dropWhile_append hclose,
      w.isEmpty_eq, List.isPrefixOf?, BEq.rfl, if_true]
    simp [slotText]

lemma plain?_label (optional : Bool) :
    plain? (name.chars ++ ((if optional then ['?'] else []) ++ ':' :: t)) =
      (typeText? t).map fun type => ⟨String.ofList name.chars, String.ofList type, optional, .plain⟩ := by
  unfold plain?
  cases optional with
  | true =>
    have hrest := isWord_question (':' :: t)
    simp only [if_true, List.singleton_append, name.takeWhile_append hrest,
      name.dropWhile_append hrest, name.isEmpty_eq]
    rfl
  | false =>
    have hrest := isWord_colon t
    simp only [Bool.false_eq_true, if_false, List.nil_append, name.takeWhile_append hrest,
      name.dropWhile_append hrest, name.isEmpty_eq]

lemma isSome_typeText? (hnewline : '\n' ∉ t) : (typeText? t).isSome ↔ t ≠ [] := by
  have hlast : t.getLast? ≠ some '\n' := fun h => hnewline (List.mem_of_getLast? h)
  have hstart : (trimStart t).contains '\n' = false := by
    simpa using fun hmem => hnewline ((trimStart_suffix t).subset hmem)
  rw [typeText?, dropFinalNewline, if_neg hlast]
  simp only [hstart, hlast, or_false]
  by_cases hnil : t = []
  · subst hnil
    simp [trimStart]
  · split
    · simp [hnil]
    · split
      · rename_i h
        cases h
      · split <;> simp [hnil]

end Reading

lemma slotMarker_infix_slotText (subtype : Word) : slotMarker <:+: slotText subtype :=
  (List.prefix_append _ _).isInfix

namespace Mention

variable (m : Mention)

lemma exists_remainder : m.type = m.part ++ m.remainder ∧ Nested (· ≠ ';') m.part ∧
    Balanced m.remainder ∧ (m.remainder = [] ∨ ∃ more, m.remainder = ';' :: more) := by
  have hlevels : Levels (fun _ => True) 0 m.type 0 := m.balanced.levels fun _ _ _ => trivial
  obtain ⟨rest, heq, hpart, hrest, hhead⟩ := exists_beforeSemicolon hlevels rfl
  have hremainder : m.remainder = rest := by
    have hdrop : (m.part ++ rest).drop m.part.length = rest := List.drop_left' rfl
    rwa [part, ← heq] at hdrop
  rw [hremainder]
  exact ⟨heq, hpart.nested, hrest.nested, hhead⟩

lemma part_isPrefix : m.part <+: m.type :=
  ⟨m.remainder, m.exists_remainder.1.symm⟩

lemma text_eq : m.text = m.own ++ m.remainder := by
  rw [text, own]
  conv_lhs => rw [m.exists_remainder.1]
  simp

lemma part_head : ∀ c ∈ m.part.head?, isBlank c = false := by
  intro c hc
  obtain ⟨rest, hrest⟩ := m.part_isPrefix
  apply m.trimmed.head
  rw [← hrest, List.head?_append, Option.mem_def.mp hc]
  rfl

lemma nested_word (w : Word) : Nested (· ≠ ';') w.chars := by
  refine .of_braceless (w.not_mem (by decide)) (w.not_mem (by decide)) fun c hc => ?_
  rintro rfl
  exact w.not_mem (c := ';') (by decide) hc

lemma own_isPiece : IsPiece m.own where
  ne_nil := by simp [own]
  head := by
    intro c hc
    rw [own, label, List.append_assoc, List.head?_append_of_ne_nil _ m.name.ne_nil] at hc
    exact m.name.isWord c (List.mem_of_mem_head? hc)
  nested := by
    have hgap : Nested (· ≠ ';') m.gap := by
      have hnot : ∀ c, isBlank c = false → c ∉ m.gap := by
        intro c hc hmem
        rw [m.gap_blank c hmem] at hc
        cases hc
      refine .of_braceless (hnot _ (by decide)) (hnot _ (by decide)) fun c hc => ?_
      rintro rfl
      exact hnot ';' (by decide) hc
    have hcolon : Nested (· ≠ ';') (':' :: (m.gap ++ m.part)) :=
      .char (by decide) (by decide) (by decide) (hgap.append m.exists_remainder.2.1)
    have hmark : Nested (· ≠ ';') (if m.optional then ['?'] else []) := by
      split
      · exact .char (by decide) (by decide) (by decide) .nil
      · exact .nil
    exact ((nested_word m.name).append hmark).append hcolon
  newline_not_mem := by
    have hname : '\n' ∉ m.name.chars := m.name.not_mem (by decide)
    have hpart : '\n' ∉ m.part := fun hmem => m.newline_not_mem (m.part_isPrefix.subset hmem)
    cases ho : m.optional <;> simp [own, label, ho, hname, m.gap_newline, hpart]

lemma trim_own : trim m.own = m.label ++ ':' :: trimEnd (m.gap ++ m.part) := by
  have hlabel : trimStart m.label = m.label := by
    apply trimStart_eq_self
    rw [label, List.head?_append_of_ne_nil _ m.name.ne_nil]
    exact m.name.trimmed.head
  rw [own, trim_append_cons (by decide), hlabel]

lemma trimStart_trimEnd_part : trimStart (trimEnd (m.gap ++ m.part)) = trimEnd m.part := by
  cases hpart : m.part with
  | nil =>
    rw [List.append_nil, trimEnd_eq_nil m.gap_blank]
    rfl
  | cons c rest =>
    have hc : isBlank c = false := m.part_head c (by rw [hpart]; rfl)
    have hself : trimEnd (c :: rest) = c :: trimEnd rest := trimEnd_append_cons hc [] rest
    rw [trimEnd_append_cons hc, hself, trimStart_append_blanks m.gap_blank, trimStart_eq_self]
    intro d hd
    obtain rfl : c = d := by simpa using hd
    exact hc

/-- Around the marks of the member no marker of subtypes can stand. -/
lemma slotMarker_infix_iff : slotMarker <:+: trim m.own ↔
    slotMarker <:+: m.name.chars ∨ slotMarker <:+: m.part := by
  have hblank : ∀ c, isBlank c = true → c ∉ slotMarker := by
    intro c hc hmem
    rw [not_isBlank_of_isWord (slotMarker_word c hmem)] at hc
    cases hc
  constructor
  · intro h
    by_contra hnot
    rw [not_or] at hnot
    have hgap : ∀ gap : List Char, (∀ c ∈ gap, isBlank c = true) → ¬ slotMarker <:+: gap ++ m.part := by
      intro gap
      induction gap with
      | nil => exact fun _ => hnot.2
      | cons c gap ih =>
        intro hc
        rw [List.forall_mem_cons] at hc
        exact not_infix_append_cons (a := []) (hblank c hc.1) (by decide) (ih hc.2)
    have hbehind : ¬ slotMarker <:+: trimEnd (m.gap ++ m.part) :=
      fun h => hgap m.gap m.gap_blank (h.trans ( trimEnd_prefix _).isInfix)
    have hlabel : ¬ slotMarker <:+: m.label := by
      rw [label]
      split
      · exact not_infix_append_cons (not_mem_slotMarker (by decide)) hnot.1 (by decide)
      · rw [List.append_nil]
        exact hnot.1
    rw [trim_own] at h
    exact not_infix_append_cons (not_mem_slotMarker (by decide)) hlabel hbehind h
  · rw [trim_own]
    rintro (h | h)
    · exact h.trans ⟨[], _, by rw [List.nil_append, label, List.append_assoc]⟩
    · have htrimmed : slotMarker <:+: trimEnd m.part :=
        @infix_trimEnd "TypeConstructo".toList _ 'r' (by decide) h
      rw [← m.trimStart_trimEnd_part] at htrimmed
      have hsuffix : trimStart (trimEnd (m.gap ++ m.part)) <:+
          m.label ++ ':' :: trimEnd (m.gap ++ m.part) :=
        (trimStart_suffix _).trans ⟨m.label ++ [':'], by simp⟩
      exact htrimmed.trans hsuffix.isInfix

lemma not_comment : "//".toList.isPrefixOf (trim m.own) = false := by
  obtain ⟨c, rest, hname⟩ := List.exists_cons_of_ne_nil m.name.ne_nil
  have hc : '/' ≠ c := by
    rintro rfl
    exact m.name.not_mem (c := '/') (by decide) (by simp [hname])
  simp [trim_own, label, hname, List.isPrefixOf, hc]

lemma field?_of_marked (h : slotMarker <:+: trim m.own) {f : Field} :
    field? (trim m.own) = some f ↔ m.optional = false ∧ ∃ subtype : Word,
      slotText subtype <+: m.part ∧ f = ⟨m.fieldName, String.ofList (slotText subtype), false, .slot⟩ := by
  rw [field?, m.not_comment, if_neg (by decide), if_pos (occursIn_iff.mpr h), trim_own, label]
  cases ho : m.optional with
  | true =>
    have hnone := slot?_question m.name (':' :: trimEnd (m.gap ++ m.part))
    simp only [if_true, List.append_assoc, List.singleton_append, hnone]
    simp
  | false =>
    simp only [Bool.false_eq_true, if_false, List.append_nil, slot?_colon_eq_some_iff,
      trimStart_trimEnd_part, slotText_prefix_trimEnd, true_and]
    rfl

lemma field?_of_unmarked (h : ¬ slotMarker <:+: trim m.own) :
    field? (trim m.own) = (typeText? (trimEnd (m.gap ++ m.part))).map fun type =>
      ⟨m.fieldName, String.ofList type, m.optional, .plain⟩ := by
  have hmarker : ¬ occursIn slotMarker (trim m.own) = true := fun hm => h (occursIn_iff.mp hm)
  rw [field?, m.not_comment, if_neg (by decide), if_neg hmarker, trim_own, label, List.append_assoc,
    plain?_label]
  rfl

lemma name_of_field? {f : Field} (h : field? (trim m.own) = some f) : f.name = m.fieldName := by
  by_cases hmarker : slotMarker <:+: trim m.own
  · obtain ⟨-, subtype, -, rfl⟩ := (m.field?_of_marked hmarker).mp h
    rfl
  · rw [m.field?_of_unmarked hmarker] at h
    obtain ⟨type, -, rfl⟩ := Option.map_eq_some_iff.mp h
    rfl

/-- The member gives a field exactly if it is kept. -/
theorem isSome_field?_iff : (field? (trim m.own)).isSome ↔ m.IsKept := by
  by_cases hmarker : slotMarker <:+: trim m.own
  · have hsome : (field? (trim m.own)).isSome ↔
        m.optional = false ∧ ∃ subtype : Word, slotText subtype <+: m.part := by
      simp only [Option.isSome_iff_exists, m.field?_of_marked hmarker]
      constructor
      · rintro ⟨f, ho, subtype, hprefix, -⟩
        exact ⟨ho, subtype, hprefix⟩
      · rintro ⟨ho, subtype, hprefix⟩
        exact ⟨_, ho, subtype, hprefix, rfl⟩
    rw [hsome, IsKept]
    refine ⟨.inl, fun h => h.resolve_right ?_⟩
    rintro ⟨-, hname, hpart⟩
    exact (m.slotMarker_infix_iff.mp hmarker).elim hname hpart
  · have hnot := mt m.slotMarker_infix_iff.mpr hmarker
    rw [not_or] at hnot
    have hnewline : '\n' ∉ trimEnd (m.gap ++ m.part) := by
      intro hmem
      rcases List.mem_append.mp (( trimEnd_prefix _).subset hmem) with hmem | hmem
      · exact m.gap_newline hmem
      · exact m.newline_not_mem (m.part_isPrefix.subset hmem)
    have hempty : trimEnd (m.gap ++ m.part) = [] ↔ m.part = [] := by
      cases hpart : m.part with
      | nil => simp [trimEnd_eq_nil m.gap_blank]
      | cons c rest =>
        rw [trimEnd_append_cons (m.part_head c (by rw [hpart]; rfl))]
        simp
    rw [m.field?_of_unmarked hmarker, Option.isSome_map, isSome_typeText? hnewline, IsKept, Ne, hempty]
    refine ⟨fun h => .inr ⟨h, hnot⟩, ?_⟩
    rintro (⟨-, subtype, hprefix⟩ | h)
    · exact absurd ((slotMarker_infix_slotText subtype).trans hprefix.isInfix) hnot.2
    · exact h.1

lemma part_eq_type (h : Nested (· ≠ ';') m.type) : m.part = m.type :=
  beforeSemicolon_eq_self (h.levels fun _ _ hc => hc : Levels (· ≠ ';') 0 m.type 0)

lemma slotText_prefix_part_iff {subtype : Word} :
    slotText subtype <+: m.part ↔ slotText subtype <+: m.type := by
  constructor
  · exact fun h => h.trans m.part_isPrefix
  · intro h
    obtain ⟨heq, -, -, hhead⟩ := m.exists_remainder
    rcases hhead with hnil | ⟨more, hmore⟩
    · rwa [heq, hnil, List.append_nil] at h
    · rw [heq, hmore] at h
      have hsemicolon : ';' ∉ slotText subtype := by
        have hmarker : ';' ∉ slotMarker := not_mem_slotMarker (by decide)
        have hsubtype : ';' ∉ subtype.chars := subtype.not_mem (by decide)
        simp [slotText, hmarker, hsubtype]
      exact prefix_of_prefix_append_cons hsemicolon h

/-- The rest of the type is read behind the member. -/
def around (s : Surroundings) : Surroundings where
  above := s.above
  before := s.before
  behind := m.remainder ++ s.behind
  below := s.below
  newline_not_mem := by
    intro l hl
    have hold := s.newline_not_mem
    simp only [List.mem_append, List.mem_cons] at hl hold
    rcases hl with hl | rfl | rfl | hl
    · exact hold l (.inl hl)
    · exact hold _ (.inr (.inl rfl))
    · have hremainder : '\n' ∉ m.remainder :=
        fun hmem => m.newline_not_mem ((List.drop_suffix _ _).subset hmem)
      exact fun hmem => (List.mem_append.mp hmem).elim hremainder (hold _ (.inr (.inr (.inl rfl))))
    · exact hold l (.inr (.inr (.inr hl)))
  braceless := s.braceless
  begins := s.begins
  ends := by
    rcases m.exists_remainder.2.2.2 with hnil | ⟨more, hmore⟩
    · rw [hnil, List.nil_append]
      exact s.ends
    · rw [hmore]
      exact .inr ⟨[], more ++ s.behind, rfl, by simp⟩
  upper_balanced := s.upper_balanced
  lower_balanced := by
    rw [unlines_append_left]
    exact m.exists_remainder.2.2.1.append s.lower_balanced

lemma lower_around (s : Surroundings) : (m.around s).lower = m.remainder ++ s.lower :=
  unlines_append_left _ _ _

lemma definition_around (s : Surroundings) (lead rest : List Char) :
    s.definition lead m.text rest = (m.around s).definition lead m.own rest := by
  have hbody : s.body m.text = (m.around s).body m.own := by
    rw [Surroundings.body, Surroundings.body, lower_around, text_eq, List.append_assoc]
    rfl
  rw [Surroundings.definition, Surroundings.definition, hbody]

end Mention

/-- A member whose type mentions a slot is kept exactly if it has no question mark and its type
begins with a slot, which is then its field. Otherwise its name is only found if another member gives
a field of that name. A semicolon outside of braces ends the member; without the marker in front of
it, what is there is read as a plain type. -/
theorem fields_of_slot_member (m : Mention) (s : Surroundings) {lead : List Char}
    (hlead : '{' ∉ lead) (rest : List Char) :
    let found := fields (s.definition lead m.text rest)
    let earlier := (candidates s.upper).filterMap field?
    let later := (candidates (m.remainder ++ s.lower)).filterMap field?
    found = Keyed.ofList Field.name (earlier ++ ((field? (trim m.own)).toList ++ later)) ∧
    ((∃ f ∈ found, f.name = m.fieldName) ↔
      m.IsKept ∨ ∃ f ∈ earlier ++ later, f.name = m.fieldName) ∧
    (Nested (· ≠ ';') m.type →
      (m.IsKept ↔ m.optional = false ∧ ∃ subtype : Word, slotText subtype <+: m.type)) ∧
    ∀ subtype : Word, m.optional = false → slotText subtype <+: m.type →
      (∀ f ∈ later, f.name ≠ m.fieldName) →
        ⟨m.fieldName, String.ofList (slotText subtype), false, .slot⟩ ∈ found := by
  intro found earlier later
  have hfound : found =
      Keyed.ofList Field.name (earlier ++ ((field? (trim m.own)).toList ++ later)) := by
    have hfields := (m.around s).fields_definition hlead m.own_isPiece rest
    rw [m.lower_around, ← m.definition_around] at hfields
    exact hfields
  refine ⟨hfound, ?_, fun htype => ?_, fun subtype hoptional hslot hlater => ?_⟩
  · have hnames : (∃ f ∈ found, f.name = m.fieldName) ↔
        ∃ f ∈ earlier ++ ((field? (trim m.own)).toList ++ later), f.name = m.fieldName := by
      rw [hfound]
      exact Keyed.exists_key_ofList_iff
    rw [hnames, ← m.isSome_field?_iff]
    cases hfield : field? (trim m.own) with
    | none => simp
    | some f =>
      refine iff_of_true ⟨f, by simp, m.name_of_field? hfield⟩ (.inl rfl)
  · rw [Mention.IsKept, m.part_eq_type htype]
    obtain ⟨subtype, hsubtype⟩ := m.mentions
    have hmarker := (slotMarker_infix_slotText subtype).trans hsubtype
    simp [hmarker]
  · have hprefix := m.slotText_prefix_part_iff.mpr hslot
    have hmarked : slotMarker <:+: trim m.own :=
      m.slotMarker_infix_iff.mpr (.inr ((slotMarker_infix_slotText subtype).trans hprefix.isInfix))
    have hfield := (m.field?_of_marked hmarked).mpr ⟨hoptional, subtype, hprefix, rfl⟩
    rw [hfound, hfield]
    exact Keyed.mem_ofList_of_last earlier _ hlater

/-- A place on a line of its own. -/
def ownLine : Surroundings where
  above := [[]]
  before := "  ".toList
  behind := [';']
  below := [[]]
  newline_not_mem := by decide
  braceless := by simp [BracelessComment]
  begins := .inl (by simp [isBlank])
  ends := .inr ⟨[], [], rfl, by simp⟩
  upper_balanced := .of_braceless (by decide) (by decide) fun _ _ => trivial
  lower_balanced := .of_braceless (by decide) (by decide) fun _ _ => trivial

lemma newline_not_mem_space : '\n' ∉ [' '] := by
  decide

/-- A member with a slot alone as its type. -/
def slotOnly (optional : Bool) : Mention where
  name := ⟨"a".toList, by decide, List.all_eq_true.mp (by decide)⟩
  optional := optional
  gap := [' ']
  type := "TypeConstructor<B>".toList
  gap_blank := isBlank_of_mem_space
  gap_newline := newline_not_mem_space
  trimmed := ⟨by simp [isBlank], by simp [isBlank]⟩
  balanced := .of_braceless (by decide) (by decide) fun _ _ => trivial
  newline_not_mem := by decide
  mentions := ⟨⟨"B".toList, by decide, List.all_eq_true.mp (by decide)⟩, [], [], rfl⟩

theorem fields_of_slot_member_optional : '{' ∉ "export type T = ".toList ∧
    fields (ownLine.definition "export type T = ".toList (slotOnly false).text []) =
      [⟨"a", "TypeConstructor<B>", false, .slot⟩] ∧
    fields (ownLine.definition "export type T = ".toList (slotOnly true).text []) = [] := by
  have hlead : '{' ∉ "export type T = ".toList := by decide
  exact ⟨hlead, (fields_of_slot_member (slotOnly false) ownLine hlead []).1.trans (by decide +kernel),
    (fields_of_slot_member (slotOnly true) ownLine hlead []).1.trans (by decide +kernel)⟩

end Member

end TypeLineage
