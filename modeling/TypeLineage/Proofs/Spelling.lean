import Mathlib.Data.List.Basic
import Mathlib.Data.List.Infix
import Mathlib.Tactic.Common
import TypeLineage.Proofs.Header

/-!
# How headers are spelled

A header is spelled with any blanks between its parts and with any parameters on one line. The reader
accepts all spellings and nothing else, and the search takes the leftmost one.
-/

namespace TypeLineage.Header

open Text

variable {s t rest inner blanks : List Char}

/-- A list of parameters in angle brackets on one line, or none at all. -/
def IsParameters (s : List Char) : Prop :=
  s = [] ∨ ∃ inner, s = '<' :: (inner ++ ['>']) ∧ '\n' ∉ inner

/-- The parts of a header up to its equals sign, with the blanks behind each of them. -/
structure Spelling where
  behindExport : List Char
  behindType : List Char
  name : Word
  behindName : List Char
  params : List Char
  behindParams : List Char
  separated : behindExport ≠ [] ∧ behindType ≠ []
  blank : ∀ c ∈ behindExport ++ behindType ++ behindName ++ behindParams, isBlank c = true
  isParameters : IsParameters params

namespace Spelling

/-- What follows the name. -/
def tail (p : Spelling) : List Char :=
  p.behindName ++ (p.params ++ (p.behindParams ++ ['=']))

def text (p : Spelling) : List Char :=
  "export".toList ++ (p.behindExport ++ ("type".toList ++ (p.behindType ++ (p.name.chars ++ p.tail))))

end Spelling

/-- The text begins with a header of this name. -/
def Spells (name : List Char) (s : List Char) : Prop :=
  ∃ p : Spelling, p.name.chars = name ∧ p.text <+: s

/-- The leftmost header in the text has this name. -/
def LeftmostSpells (name : List Char) (s : List Char) : Prop :=
  ∃ front back, s = front ++ back ∧ Spells name back ∧
    ∀ other t, t <:+ front → t ≠ [] → ¬ Spells other (t ++ back)

section Tail

lemma exists_of_afterParameters? (h : afterParameters? s = some rest) : ∃ inner blanks,
    s = inner ++ '>' :: (blanks ++ '=' :: rest) ∧ '\n' ∉ inner ∧ ∀ c ∈ blanks, isBlank c = true := by
  induction s with
  | nil => cases h
  | cons c s ih =>
    rw [afterParameters?] at h
    split at h
    · cases h
    · rename_i hnewline
      have hlater : afterParameters? s = some rest → ∃ inner blanks,
          c :: s = inner ++ '>' :: (blanks ++ '=' :: rest) ∧ '\n' ∉ inner ∧
            ∀ c ∈ blanks, isBlank c = true := by
        intro h
        obtain ⟨inner, blanks, rfl, hinner, hblanks⟩ := ih h
        exact ⟨c :: inner, blanks, rfl, by simp [hinner, Ne.symm hnewline], hblanks⟩
      split at h
      · rename_i hclose
        split at h
        · rename_i body hbody
          obtain ⟨blanks, rfl, hblanks⟩ := exists_of_afterEquals? hbody
          rw [hclose, Option.some.inj h]
          exact ⟨[], blanks, rfl, List.not_mem_nil, hblanks⟩
        · exact hlater h
      · exact hlater h

lemma isSome_afterEquals? (hblanks : ∀ c ∈ blanks, isBlank c = true) (rest : List Char) :
    (afterEquals? (blanks ++ '=' :: rest)).isSome := by
  rw [afterEquals?, trimStart_append_blanks hblanks]
  rfl

lemma isSome_afterParameters? (hinner : '\n' ∉ inner) (ht : (afterEquals? t).isSome) :
    (afterParameters? (inner ++ '>' :: t)).isSome := by
  induction inner with
  | nil =>
    obtain ⟨body, hbody⟩ := Option.isSome_iff_exists.mp ht
    rw [List.nil_append, afterParameters?, if_neg (by decide), if_pos rfl, hbody]
    rfl
  | cons c inner ih =>
    rw [List.mem_cons, not_or] at hinner
    rw [List.cons_append, afterParameters?, if_neg (Ne.symm hinner.1)]
    split
    · split
      · rfl
      · exact ih hinner.2
    · exact ih hinner.2

lemma exists_of_afterName? (h : afterName? s = some rest) : ∃ b₁ params b₂,
    s = b₁ ++ (params ++ (b₂ ++ '=' :: rest)) ∧ IsParameters params ∧
      (∀ c ∈ b₁, isBlank c = true) ∧ ∀ c ∈ b₂, isBlank c = true := by
  have hstart : s = s.takeWhile isBlank ++ trimStart s := by
    rw [trimStart, List.takeWhile_append_dropWhile]
  have hblank : ∀ c ∈ s.takeWhile isBlank, isBlank c = true := fun c hc => List.mem_takeWhile_imp hc
  rw [afterName?] at h
  split at h
  · rename_i body hs
    obtain ⟨inner, blanks, rfl, hinner, hblanks⟩ := exists_of_afterParameters? h
    refine ⟨s.takeWhile isBlank, '<' :: (inner ++ ['>']), blanks, ?_, .inr ⟨inner, rfl, hinner⟩,
      hblank, hblanks⟩
    rw [hs] at hstart
    simpa using hstart
  · rename_i body hs
    refine ⟨s.takeWhile isBlank, [], [], ?_, .inl rfl, hblank, by simp⟩
    rw [hs, Option.some.inj h] at hstart
    simpa using hstart
  · cases h

lemma Spelling.isSome_afterName? (p : Spelling) (rest : List Char) :
    (afterName? (p.tail ++ rest)).isSome := by
  have hname : ∀ c ∈ p.behindName, isBlank c = true := fun c hc => p.blank c (by simp [hc])
  have hparams : ∀ c ∈ p.behindParams, isBlank c = true := fun c hc => p.blank c (by simp [hc])
  have htail : p.tail ++ rest = p.behindName ++ (p.params ++ (p.behindParams ++ '=' :: rest)) := by
    unfold tail
    simp
  rw [htail, afterName?, trimStart_append_blanks hname]
  rcases p.isParameters with hnone | ⟨inner, hinner, hnewline⟩
  · rw [hnone, List.nil_append, trimStart_append_blanks hparams]
    rfl
  · have hangle : ∀ t, trimStart ('<' :: t) = '<' :: t := fun _ => rfl
    rw [hinner, List.cons_append, hangle, List.append_assoc, List.singleton_append]
    exact isSome_afterParameters? hnewline (isSome_afterEquals? hparams rest)

lemma Spelling.tail_head (p : Spelling) (rest : List Char) :
    ∀ c ∈ (p.tail ++ rest).head?, isWord c = false := by
  have hblank : ∀ c, isBlank c = true → isWord c = false := by
    intro c hc
    by_contra hword
    rw [not_isBlank_of_isWord (by simpa using hword)] at hc
    cases hc
  have hsign : ∀ (b t : List Char) (d : Char), (∀ c ∈ b, isBlank c = true) → isWord d = false →
      ∀ c ∈ (b ++ d :: t).head?, isWord c = false := by
    intro b t d hb hd c hc
    cases b with
    | nil =>
      obtain rfl : d = c := by simpa using hc
      exact hd
    | cons e b =>
      obtain rfl : e = c := by simpa using hc
      exact hblank e (hb e List.mem_cons_self)
  rcases p.isParameters with hnone | ⟨inner, hinner, -⟩
  · have htail : p.tail ++ rest = (p.behindName ++ p.behindParams) ++ '=' :: rest := by
      unfold tail
      simp [hnone]
    rw [htail]
    refine hsign _ _ _ (fun c hc => p.blank c ?_) (by decide)
    rcases List.mem_append.mp hc with hc | hc
    · simp [hc]
    · simp [hc]
  · have htail : p.tail ++ rest =
        p.behindName ++ '<' :: (inner ++ '>' :: (p.behindParams ++ '=' :: rest)) := by
      unfold tail
      simp [hinner]
    rw [htail]
    exact hsign _ _ _ (fun c hc => p.blank c (by simp [hc])) (by decide)

end Tail

theorem exists_here?_iff {name : List Char} :
    (∃ rest, here? s = some (name, rest)) ↔ Spells name s := by
  constructor
  · rintro ⟨rest, h⟩
    unfold here? at h
    obtain ⟨s₁, hs₁, h⟩ := Option.bind_eq_some_iff.mp h
    obtain ⟨s₂, hs₂, h⟩ := Option.bind_eq_some_iff.mp h
    obtain ⟨s₃, hs₃, h⟩ := Option.bind_eq_some_iff.mp h
    obtain ⟨s₄, hs₄, h⟩ := Option.bind_eq_some_iff.mp h
    simp only at h
    split at h
    · cases h
    · rename_i hname
      obtain ⟨w, hw⟩ := exists_word_of_takeWhile hname
      obtain ⟨body, hbody, h⟩ := Option.bind_eq_some_iff.mp h
      obtain ⟨rfl, rfl⟩ := Prod.mk.inj (Option.some.inj h)
      obtain ⟨b₁, rfl, hne₁, hb₁⟩ := exists_of_afterBlanks? hs₂
      obtain ⟨b₂, rfl, hne₂, hb₂⟩ := exists_of_afterBlanks? hs₄
      obtain ⟨b₃, params, b₄, hrest, hparams, hb₃, hb₄⟩ := exists_of_afterName? hbody
      have hexport := List.isPrefixOf?_eq_some_iff_append_eq.mp hs₁
      have htype := List.isPrefixOf?_eq_some_iff_append_eq.mp hs₃
      have hword : w.chars ++ (b₃ ++ (params ++ (b₄ ++ '=' :: body))) = s₄ := by
        rw [← hw, ← hrest, List.takeWhile_append_dropWhile]
      let p : Spelling :=
        { behindExport := b₁, behindType := b₂, name := w, behindName := b₃, params := params
          behindParams := b₄, separated := ⟨hne₁, hne₂⟩, isParameters := hparams
          blank := by simpa [or_imp, forall_and] using ⟨hb₁, hb₂, hb₃, hb₄⟩ }
      refine ⟨p, hw.symm, body, ?_⟩
      rw [← hexport, ← htype, ← hword]
      unfold Spelling.text Spelling.tail
      simp only [List.append_assoc, List.singleton_append, p]
  · rintro ⟨p, rfl, rest, rfl⟩
    have hexport : ∀ c ∈ p.behindExport, isBlank c = true := fun c hc => p.blank c (by simp [hc])
    have htype : ∀ c ∈ p.behindType, isBlank c = true := fun c hc => p.blank c (by simp [hc])
    obtain ⟨body, hbody⟩ := Option.isSome_iff_exists.mp (p.isSome_afterName? rest)
    have hnamed := here?_named hexport p.separated.1 htype p.separated.2 p.name (p.tail_head rest)
    rw [hbody, Option.map_some] at hnamed
    refine ⟨body, ?_⟩
    rw [← hnamed]
    unfold Spelling.text
    simp only [List.append_assoc]

/-- The search finds the leftmost header of a text. -/
theorem leftmostSpells_of_find? {name : List Char} (h : find? s = some (name, rest)) :
    LeftmostSpells name s := by
  induction s with
  | nil => cases h
  | cons c s ih =>
    rw [find?] at h
    split at h
    · rename_i header hhere
      rw [Option.some.inj h] at hhere
      refine ⟨[], c :: s, rfl, exists_here?_iff.mp ⟨rest, hhere⟩, fun other t ht hne => ?_⟩
      exact absurd (List.suffix_nil.mp ht) hne
    · rename_i hnone
      obtain ⟨front, back, rfl, hback, hfront⟩ := ih h
      refine ⟨c :: front, back, rfl, hback, fun other t ht hne hspells => ?_⟩
      rcases List.suffix_cons_iff.mp ht with rfl | ht
      · obtain ⟨later, hlater⟩ := exists_here?_iff.mpr hspells
        rw [List.cons_append, hnone] at hlater
        cases hlater
      · exact hfront other t ht hne hspells

end TypeLineage.Header
