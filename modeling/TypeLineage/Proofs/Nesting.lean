import Mathlib.Data.List.Basic
import Mathlib.Tactic.Common
import TypeLineage.Declaration.Scan
import TypeLineage.Proofs.Text

/-!
# Text with paired braces

`Nested` is the grammar of texts in which every brace is paired. The counters of the scanner come out
of such a text as they went in, and the braces around it are the ones that are found.
-/

namespace TypeLineage

open Text

/-- Every brace is paired, and the characters outside of all braces are of a given kind. -/
inductive Nested : (Char → Prop) → List Char → Prop where
  | nil {kind : Char → Prop} : Nested kind []
  | char {kind : Char → Prop} {c : Char} {s : List Char} (hopen : c ≠ '{') (hclose : c ≠ '}')
      (hkind : kind c) (hs : Nested kind s) : Nested kind (c :: s)
  | braces {kind : Char → Prop} {s t : List Char} (hs : Nested (fun _ => True) s)
      (ht : Nested kind t) : Nested kind ('{' :: (s ++ '}' :: t))

/-- Every brace is paired. -/
abbrev Balanced : List Char → Prop :=
  Nested fun _ => True

namespace Nested

variable {kind : Char → Prop} {s t rest : List Char}

lemma of_braceless (hopen : '{' ∉ s) (hclose : '}' ∉ s) (hkind : ∀ c ∈ s, kind c) :
    Nested kind s := by
  induction s with
  | nil => exact .nil
  | cons c s ih =>
    simp only [List.mem_cons, not_or, forall_eq_or_imp] at hopen hclose hkind
    exact .char (Ne.symm hopen.1) (Ne.symm hclose.1) hkind.1 (ih hopen.2 hclose.2 hkind.2)

lemma of_blanks (hs : ∀ c ∈ s, isBlank c = true) : Balanced s := by
  have hnot : ∀ c, isBlank c = false → c ∉ s := by
    intro c hc hmem
    rw [hs c hmem] at hc
    cases hc
  exact .of_braceless (hnot _ (by decide)) (hnot _ (by decide)) fun _ _ => trivial

lemma append (hs : Nested kind s) (ht : Nested kind t) : Nested kind (s ++ t) := by
  induction hs with
  | nil => exact ht
  | char hopen hclose hkind _ ih => exact .char hopen hclose hkind (ih ht)
  | braces hinner _ _ ih =>
    rw [List.cons_append, List.append_assoc, List.cons_append]
    exact .braces hinner (ih ht)

lemma balanced (hs : Nested kind s) : Balanced s := by
  induction hs with
  | nil => exact .nil
  | char hopen hclose _ _ ih => exact .char hopen hclose trivial ih
  | braces hinner _ _ ih => exact .braces hinner ih

lemma unlines {ls : List (List Char)} (hnewline : kind '\n') (hls : ∀ l ∈ ls, Nested kind l) :
    Nested kind (unlines ls) := by
  induction ls with
  | nil => exact .nil
  | cons l ls ih =>
    cases ls with
    | nil => simpa [Text.unlines] using hls l (by simp)
    | cons k ls =>
      have hrest := ih fun m hm => hls m (by simp [hm])
      have hsep : Nested kind ['\n'] := .char (by decide) (by decide) hnewline .nil
      rw [Text.unlines, List.intercalate_cons_cons]
      exact ((hls l (by simp)).append hsep).append hrest

lemma last (hs : Nested kind s) : ∀ c ∈ s.getLast?, kind c ∨ c = '}' := by
  induction hs with
  | nil => simp
  | @char _ d s _ _ hkind _ ih =>
    intro c hc
    cases s with
    | nil =>
      obtain rfl : d = c := by simpa using hc
      exact .inl hkind
    | cons e s => exact ih c (by simpa using hc)
  | @braces _ s t _ _ _ ih =>
    intro c hc
    cases t with
    | nil =>
      obtain rfl : '}' = c := by simpa [List.getLast?_cons] using hc
      exact .inr rfl
    | cons e t => exact ih c (by simpa [List.getLast?_cons, List.getLast?_append] using hc)

lemma closing?_append (hs : Nested kind s) (depth offset : Nat) :
    Braces.closing? (depth + 1) offset (s ++ rest) =
      Braces.closing? (depth + 1) (offset + s.length) rest := by
  induction hs generalizing depth offset rest with
  | nil => rfl
  | char hopen hclose _ _ ih =>
    rw [List.cons_append, Braces.closing?, if_neg hopen, if_neg hclose, ih, List.length_cons]
    congr 1
    omega
  | braces _ _ ihs iht =>
    rw [List.cons_append, List.append_assoc, List.cons_append, Braces.closing?, if_pos rfl,
      ihs, Braces.closing?, if_neg (by decide), if_pos rfl, if_neg (by omega)]
    rw [Nat.add_sub_cancel, iht]
    congr 1
    simp only [List.length_cons, List.length_append]
    omega

lemma countBraces_append (hs : Nested kind s) {depth : Int} (hd : 0 < depth) :
    Declaration.countBraces depth true (s ++ rest) = Declaration.countBraces depth true rest := by
  induction hs generalizing depth rest with
  | nil => rfl
  | char hopen hclose _ _ ih =>
    rw [List.cons_append, Declaration.countBraces, if_neg hopen, if_neg hclose, ih hd]
  | braces _ _ ihs iht =>
    rw [List.cons_append, List.append_assoc, List.cons_append, Declaration.countBraces, if_pos rfl,
      ihs (by omega), Declaration.countBraces, if_neg (by decide), if_pos rfl]
    rw [if_neg (by simp; omega), Int.add_sub_cancel, iht hd]

/-- The cutting of members keeps all of a paired text, if it stands inside braces or has no semicolon
outside of its own. -/
lemma foldl_char (hs : Nested kind s) (finished : List (List Char)) (pending : List Char)
    {depth : Int} (hd : 0 ≤ depth) (hkind : depth = 0 → ∀ c, kind c → c ≠ ';') :
    s.foldl Member.Cutting.char ⟨finished, pending, depth⟩ =
      ⟨finished, s.reverse ++ pending, depth⟩ := by
  induction hs generalizing pending depth with
  | nil => rfl
  | @char _ c s hopen hclose hc _ ih =>
    have hstep : Member.Cutting.char ⟨finished, pending, depth⟩ c =
        ⟨finished, c :: pending, depth⟩ := by
      rw [Member.Cutting.char, if_neg hopen, if_neg hclose, if_neg]
      · rfl
      · exact fun h => hkind h.2 c hc h.1
    rw [List.foldl_cons, hstep, ih _ hd hkind]
    simp
  | @braces _ s t _ _ ihs iht =>
    have hopen : Member.Cutting.char ⟨finished, pending, depth⟩ '{' =
        ⟨finished, '{' :: pending, depth + 1⟩ := rfl
    have hclose : ∀ pending : List Char,
        Member.Cutting.char ⟨finished, pending, depth + 1⟩ '}' =
          ⟨finished, '}' :: pending, depth⟩ := by
      intro pending
      rw [Member.Cutting.char, if_neg (by decide), if_pos rfl]
      simp [Member.Cutting.push]
    rw [List.foldl_cons, hopen, List.foldl_append, ihs _ (by omega) (by omega), List.foldl_cons,
      hclose, iht _ hd hkind]
    simp

end Nested

namespace Braces

variable {front inner : List Char}

lemma spanFrom?_append_cons (hfront : '{' ∉ front) (offset : Nat) (back : List Char) :
    spanFrom? offset (front ++ '{' :: back) =
      (closing? 1 (offset + front.length + 1) back).map (offset + front.length, ·) := by
  induction front generalizing offset with
  | nil => rfl
  | cons c front ih =>
    have hlength : offset + 1 + front.length = offset + (c :: front).length := by
      rw [List.length_cons]
      omega
    simp only [List.mem_cons, not_or] at hfront
    rw [List.cons_append, spanFrom?, if_neg (Ne.symm hfront.1), ih hfront.2, hlength]

theorem span?_eq (hfront : '{' ∉ front) (hinner : Balanced inner) (rest : List Char) :
    span? (front ++ '{' :: (inner ++ '}' :: rest)) =
      some (front.length, front.length + 1 + inner.length) := by
  rw [span?, spanFrom?_append_cons hfront, hinner.closing?_append 0, closing?, if_neg (by decide),
    if_pos rfl, if_pos (by omega), Nat.zero_add]
  rfl

theorem interior?_eq (hfront : '{' ∉ front) (hinner : Balanced inner) (rest : List Char) :
    interior? (front ++ '{' :: (inner ++ '}' :: rest)) = some inner := by
  have htext : front ++ '{' :: (inner ++ '}' :: rest) =
      (front ++ ['{']) ++ inner ++ ('}' :: rest) := by simp
  rw [interior?, span?_eq hfront hinner, Option.map_some, htext]
  simp only [Option.some.injEq]
  rw [List.take_left' (by simp; omega), List.drop_left' (by simp)]

end Braces

end TypeLineage
