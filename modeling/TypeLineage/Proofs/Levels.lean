import Mathlib.Data.List.Basic
import Mathlib.Tactic.Common
import TypeLineage.Proofs.Nesting

/-!
# Brace levels

How many braces are open before and after a part of a text. A part that begins and ends outside of
all braces is a nested text.
-/

namespace TypeLineage

open Text

/-- A text begins with a number of open braces and ends with another, and no brace is closed that is
not open. The characters where none is open are of a given kind. -/
inductive Levels (kind : Char → Prop) : Nat → List Char → Nat → Prop where
  | nil {n : Nat} : Levels kind n [] n
  | opening {n m : Nat} {s : List Char} (hs : Levels kind (n + 1) s m) :
      Levels kind n ('{' :: s) m
  | closing {n m : Nat} {s : List Char} (hs : Levels kind n s m) : Levels kind (n + 1) ('}' :: s) m
  | char {n m : Nat} {c : Char} {s : List Char} (hopen : c ≠ '{') (hclose : c ≠ '}')
      (hkind : n = 0 → kind c) (hs : Levels kind n s m) : Levels kind n (c :: s) m

namespace Levels

variable {kind : Char → Prop} {n m k : Nat} {s t : List Char} {c : Char}

lemma append (hs : Levels kind n s m) (ht : Levels kind m t k) : Levels kind n (s ++ t) k := by
  induction hs with
  | nil => exact ht
  | opening _ ih => exact .opening (ih ht)
  | closing _ ih => exact .closing (ih ht)
  | char hopen hclose hkind _ ih => exact .char hopen hclose hkind (ih ht)

lemma exists_of_append (h : Levels kind n (s ++ t) k) :
    ∃ m, Levels kind n s m ∧ Levels kind m t k := by
  induction s generalizing n with
  | nil => exact ⟨n, .nil, h⟩
  | cons c s ih =>
    rw [List.cons_append] at h
    cases h with
    | opening h =>
      obtain ⟨m, hs, ht⟩ := ih h
      exact ⟨m, .opening hs, ht⟩
    | closing h =>
      obtain ⟨m, hs, ht⟩ := ih h
      exact ⟨m, .closing hs, ht⟩
    | char hopen hclose hkind h =>
      obtain ⟨m, hs, ht⟩ := ih h
      exact ⟨m, .char hopen hclose hkind hs, ht⟩

lemma eq_of_braceless (h : Levels kind n s m) (hopen : '{' ∉ s) (hclose : '}' ∉ s) : n = m := by
  induction h with
  | nil => rfl
  | opening => simp at hopen
  | closing => simp at hclose
  | char _ _ _ _ ih =>
    exact ih (fun h => hopen (List.mem_cons_of_mem _ h)) fun h => hclose (List.mem_cons_of_mem _ h)

lemma eq_of_blanks (h : Levels kind n s m) (hs : ∀ c ∈ s, isBlank c = true) : n = m := by
  refine h.eq_of_braceless (fun hmem => ?_) fun hmem => ?_
  · exact absurd (hs _ hmem) (by decide)
  · exact absurd (hs _ hmem) (by decide)

lemma trimmed (h : Levels kind n s m) : Levels kind n (trim s) m := by
  obtain ⟨a, b, hs, ha, hb⟩ := exists_append_trim s
  rw [hs] at h
  obtain ⟨n', hfront, h⟩ := h.exists_of_append
  obtain ⟨m', hs, hback⟩ := h.exists_of_append
  rw [hfront.eq_of_blanks ha, ← hback.eq_of_blanks hb]
  exact hs

/-- The text closes a number of braces, and all that is opened in between. -/
def Closes (kind : Char → Prop) : Nat → List Char → Prop
  | 0, s => Nested kind s
  | n + 1, s => ∃ inner rest, s = inner ++ '}' :: rest ∧ Balanced inner ∧ Closes kind n rest

lemma closes (h : Levels kind n s m) (hm : m = 0) : Closes kind n s := by
  -- A brace in front closes where the text closes its first level, which ends one level earlier.
  induction h with
  | nil =>
    subst hm
    exact .nil
  | @opening n m s hs ih =>
    obtain ⟨inner, rest, rfl, hinner, hrest⟩ := ih hm
    cases n with
    | zero => exact .braces hinner hrest
    | succ n =>
      obtain ⟨inner', rest', rfl, hinner', hrest'⟩ := hrest
      exact ⟨'{' :: (inner ++ '}' :: inner'), rest', by simp, .braces hinner hinner', hrest'⟩
  | @closing n m s hs ih => exact ⟨[], s, rfl, .nil, ih hm⟩
  | @char n m c s hopen hclose hkind hs ih =>
    cases n with
    | zero => exact .char hopen hclose (hkind rfl) (ih hm)
    | succ n =>
      obtain ⟨inner, rest, rfl, hinner, hrest⟩ := ih hm
      exact ⟨c :: inner, rest, rfl, .char hopen hclose trivial hinner, hrest⟩

theorem nested (h : Levels kind 0 s 0) : Nested kind s :=
  h.closes rfl

end Levels

lemma Nested.levels {kind kind' : Char → Prop} {n : Nat} {s : List Char} (hs : Nested kind' s)
    (hkind : n = 0 → ∀ c, kind' c → kind c) : Levels kind n s n := by
  induction hs generalizing n with
  | nil => exact .nil
  | char hopen hclose hc _ ih => exact .char hopen hclose (fun hn => hkind hn _ hc) (ih hkind)
  | braces _ _ ihs iht => exact .opening ((ihs (by omega)).append (.closing (iht hkind)))

lemma Nested.of_append {kind : Char → Prop} {a s : List Char} (h : Nested kind (a ++ s))
    (hopen : '{' ∉ a) (hclose : '}' ∉ a) : Nested kind s := by
  obtain ⟨n, ha, hs⟩ := (h.levels fun _ _ hc => hc : Levels kind 0 (a ++ s) 0).exists_of_append
  obtain rfl := ha.eq_of_braceless hopen hclose
  exact hs.nested

lemma levels_of_closing? {depth offset last : Nat} {s : List Char}
    (h : Braces.closing? (depth + 1) offset s = some last) :
    ∃ inner rest, s = inner ++ '}' :: rest ∧ last = offset + inner.length ∧
      Levels (fun _ => True) depth inner 0 := by
  induction s generalizing depth offset with
  | nil => cases h
  | cons c s ih =>
    rw [Braces.closing?] at h
    split at h
    · rename_i hc
      obtain ⟨inner, rest, rfl, hlast, hlevels⟩ := ih h
      refine ⟨c :: inner, rest, rfl, ?_, hc ▸ .opening hlevels⟩
      rw [hlast, List.length_cons]
      omega
    · rename_i hopen
      split at h
      · rename_i hc
        split at h
        · rename_i hdepth
          obtain rfl : depth = 0 := by omega
          exact ⟨[], s, by rw [hc]; rfl, (Option.some.inj h).symm, .nil⟩
        · rename_i hdepth
          obtain ⟨depth, rfl⟩ := Nat.exists_eq_succ_of_ne_zero (by omega : depth ≠ 0)
          obtain ⟨inner, rest, rfl, hlast, hlevels⟩ := ih h
          refine ⟨c :: inner, rest, rfl, ?_, hc ▸ .closing hlevels⟩
          rw [hlast, List.length_cons]
          omega
      · rename_i hclose
        obtain ⟨inner, rest, rfl, hlast, hlevels⟩ := ih h
        refine ⟨c :: inner, rest, rfl, ?_, .char hopen hclose (fun _ => trivial) hlevels⟩
        rw [hlast, List.length_cons]
        omega

lemma exists_of_spanFrom? {s : List Char} {offset first last : Nat}
    (h : Braces.spanFrom? offset s = some (first, last)) :
    ∃ front inner rest, s = front ++ '{' :: (inner ++ '}' :: rest) ∧ '{' ∉ front ∧
      first = offset + front.length ∧ last = first + 1 + inner.length ∧
        Levels (fun _ => True) 0 inner 0 := by
  induction s generalizing offset with
  | nil => cases h
  | cons c s ih =>
    rw [Braces.spanFrom?] at h
    split at h
    · rename_i hc
      obtain ⟨last', hclosing, heq⟩ := Option.map_eq_some_iff.mp h
      obtain ⟨rfl, rfl⟩ := Prod.mk.inj heq
      obtain ⟨inner, rest, rfl, hlast, hlevels⟩ := levels_of_closing? hclosing
      exact ⟨[], inner, rest, by rw [hc]; rfl, List.not_mem_nil, rfl, hlast, hlevels⟩
    · rename_i hc
      obtain ⟨front, inner, rest, rfl, hfront, hfirst, hlast, hlevels⟩ := ih h
      refine ⟨c :: front, inner, rest, rfl, by simp [Ne.symm hc, hfront], ?_, hlast, hlevels⟩
      rw [hfirst, List.length_cons]
      omega

/-- Between the first braces of a text all braces are paired. -/
theorem exists_of_interior? {s body : List Char} (h : Braces.interior? s = some body) :
    ∃ front rest, s = front ++ '{' :: (body ++ '}' :: rest) ∧ '{' ∉ front ∧
      Levels (fun _ => True) 0 body 0 := by
  have hsome := h
  rw [Braces.interior?] at hsome
  obtain ⟨⟨first, last⟩, hspan, -⟩ := Option.map_eq_some_iff.mp hsome
  obtain ⟨front, inner, rest, rfl, hfront, -, -, hlevels⟩ := exists_of_spanFrom? hspan
  rw [Braces.interior?_eq hfront hlevels.nested] at h
  obtain rfl := Option.some.inj h
  exact ⟨front, rest, rfl, hfront, hlevels⟩

lemma levels_of_countBraces {depth : Nat} {depth' : Int} {entered' : Bool} {s : List Char}
    (h : Declaration.countBraces (depth + 1) true s = some (depth', entered')) :
    ∃ m : Nat, depth' = m + 1 ∧ Levels (fun _ => True) depth s m := by
  induction s generalizing depth with
  | nil =>
    obtain ⟨rfl, -⟩ := Prod.mk.inj (Option.some.inj h)
    exact ⟨depth, rfl, .nil⟩
  | cons c s ih =>
    rw [Declaration.countBraces] at h
    split at h
    · rename_i hc
      obtain ⟨m, hm, hlevels⟩ := @ih (depth + 1) (by exact_mod_cast h)
      exact ⟨m, hm, hc ▸ .opening hlevels⟩
    · rename_i hopen
      split at h
      · rename_i hc
        split at h
        · cases h
        · rename_i hlast
          rw [Int.add_sub_cancel] at h hlast
          obtain ⟨depth, rfl⟩ : ∃ n, depth = n + 1 :=
            Nat.exists_eq_succ_of_ne_zero fun hzero => hlast (by rw [hzero]; rfl)
          obtain ⟨m, hm, hlevels⟩ := ih (by exact_mod_cast h)
          exact ⟨m, hm, hc ▸ .closing hlevels⟩
      · rename_i hclose
        obtain ⟨m, hm, hlevels⟩ := ih h
        exact ⟨m, hm, .char hopen hclose (fun _ => trivial) hlevels⟩

lemma balanced_of_countBraces {entered' : Bool} {s : List Char}
    (h : Declaration.countBraces 1 true s = some (1, entered')) : Balanced s := by
  have hzero : Declaration.countBraces ((0 : Nat) + 1) true s = some (1, entered') := h
  obtain ⟨m, hm, hlevels⟩ := levels_of_countBraces hzero
  obtain rfl : m = 0 := by omega
  exact hlevels.nested

end TypeLineage
