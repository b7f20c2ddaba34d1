import Mathlib.Data.List.Basic
import Mathlib.Data.List.Induction
import Mathlib.Data.List.Nodup
import Mathlib.Tactic.Common
import TypeLineage.Keyed

/-!
# Lists with keys

What is in a list after entries have been written by key: nothing but written entries, one for each
key, and that is the last one that was written. The keys stand in order of first mention.
-/

namespace TypeLineage.Keyed

variable {α : Type} {key : α → String} {x y : α} {table xs ys : List α}

lemma mem_of_mem_put (hy : y ∈ put key x table) : y = x ∨ y ∈ table := by
  induction table with
  | nil => exact .inl (by simpa [put] using hy)
  | cons z table ih =>
    rw [put] at hy
    split at hy
    · rw [List.mem_cons] at hy ⊢
      tauto
    · rw [List.mem_cons] at hy ⊢
      rcases hy with rfl | hy
      · exact .inr (.inl rfl)
      · have hcases := ih hy
        tauto

lemma mem_put_self (key : α → String) (x : α) (table : List α) : x ∈ put key x table := by
  induction table with
  | nil => exact List.mem_singleton_self x
  | cons z table ih =>
    rw [put]
    split
    · exact List.mem_cons_self
    · exact List.mem_cons_of_mem _ ih

lemma mem_put_of_ne (hy : y ∈ table) (hne : key x ≠ key y) : y ∈ put key x table := by
  induction table with
  | nil => exact absurd hy List.not_mem_nil
  | cons z table ih =>
    rw [put]
    rcases List.mem_cons.mp hy with rfl | hy
    · rw [if_neg (Ne.symm hne)]
      exact List.mem_cons_self
    · split
      · exact List.mem_cons_of_mem _ hy
      · exact List.mem_cons_of_mem _ (ih hy)

lemma get?_put_self (key : α → String) (x : α) (table : List α) :
    get? key (key x) (put key x table) = some x := by
  induction table with
  | nil => simp [put, get?]
  | cons z table ih =>
    rw [put]
    split
    · simp [get?]
    · rename_i hz
      rw [get?, List.find?_cons_of_neg (by simpa using hz)]
      exact ih

lemma get?_put_of_ne {k : String} (hk : key x ≠ k) (table : List α) :
    get? key k (put key x table) = get? key k table := by
  induction table with
  | nil => simp [put, get?, hk]
  | cons z table ih =>
    rw [put]
    split
    · rename_i hz
      have hzk : key z ≠ k := hz ▸ hk
      rw [get?, get?, List.find?_cons_of_neg (by simpa using hk),
        List.find?_cons_of_neg (by simpa using hzk)]
    · by_cases hzk : key z = k
      · rw [get?, get?, List.find?_cons_of_pos (by simpa using hzk),
          List.find?_cons_of_pos (by simpa using hzk)]
      · rw [get?, get?, List.find?_cons_of_neg (by simpa using hzk),
          List.find?_cons_of_neg (by simpa using hzk)]
        exact ih

/-- Writes the entries of a list into a table. -/
def update (key : α → String) (table xs : List α) : List α :=
  xs.foldl (fun table x => put key x table) table

lemma ofList_append (key : α → String) (xs ys : List α) :
    ofList key (xs ++ ys) = update key (ofList key xs) ys :=
  List.foldl_append

lemma ofList_concat (key : α → String) (xs : List α) (x : α) :
    ofList key (xs ++ [x]) = put key x (ofList key xs) :=
  ofList_append key xs [x]

lemma ofList_map {f : α → α} (hf : ∀ x, key (f x) = key x) (xs : List α) :
    ofList key (xs.map f) = (ofList key xs).map f := by
  have hput : ∀ x table, put key (f x) (table.map f) = (put key x table).map f := by
    intro x table
    induction table with
    | nil => rfl
    | cons y table ih =>
      rw [List.map_cons, put, put, hf, hf, ih]
      split <;> rfl
  induction xs using List.reverseRecOn with
  | nil => rfl
  | append_singleton xs x ih =>
    rw [List.map_append, List.map_singleton, ofList_concat, ofList_concat, ih, hput]

lemma mem_of_mem_ofList (hy : y ∈ ofList key xs) : y ∈ xs := by
  induction xs using List.reverseRecOn with
  | nil => exact absurd hy List.not_mem_nil
  | append_singleton xs x ih =>
    rw [ofList_concat] at hy
    rw [List.mem_append, List.mem_singleton]
    rcases mem_of_mem_put hy with rfl | hy
    · exact .inr rfl
    · exact .inl (ih hy)

theorem mem_ofList_of_last (xs : List α) (x : α) (hys : ∀ y ∈ ys, key y ≠ key x) :
    x ∈ ofList key (xs ++ x :: ys) := by
  induction ys using List.reverseRecOn with
  | nil =>
    rw [ofList_concat]
    exact mem_put_self key x _
  | append_singleton ys y ih =>
    have hx := ih fun z hz => hys z (List.mem_append_left _ hz)
    rw [← List.cons_append, ← List.append_assoc, ofList_concat]
    exact mem_put_of_ne hx (hys y (by simp))

lemma exists_mem_ofList (key : α → String) (xs : List α) (hy : y ∈ ys) :
    ∃ z ∈ ofList key (xs ++ ys), z ∈ ys ∧ key z = key y := by
  induction ys using List.reverseRecOn with
  | nil => exact absurd hy List.not_mem_nil
  | append_singleton ys x ih =>
    rw [← List.append_assoc, ofList_concat]
    by_cases hx : key x = key y
    · exact ⟨x, mem_put_self key x _, by simp, hx⟩
    · have hmem : y ∈ ys := by
        rcases List.mem_append.mp hy with hy | hy
        · exact hy
        · rw [List.mem_singleton.mp hy] at hx
          exact absurd rfl hx
      obtain ⟨z, hz, hzy, hkey⟩ := ih hmem
      exact ⟨z, mem_put_of_ne hz (hkey ▸ hx), List.mem_append_left _ hzy, hkey⟩

lemma nodup_keys_put (h : (table.map key).Nodup) : ((put key x table).map key).Nodup := by
  induction table with
  | nil => simp [put]
  | cons z table ih =>
    rw [List.map_cons, List.nodup_cons] at h
    rw [put]
    split
    · rename_i hz
      rw [List.map_cons, List.nodup_cons, ← hz]
      exact h
    · rename_i hz
      rw [List.map_cons, List.nodup_cons]
      refine ⟨fun hmem => ?_, ih h.2⟩
      obtain ⟨y, hy, hkey⟩ := List.mem_map.mp hmem
      rcases mem_of_mem_put hy with rfl | hy
      · exact hz hkey.symm
      · exact h.1 (hkey ▸ List.mem_map_of_mem hy)

theorem nodup_keys_ofList (key : α → String) (xs : List α) : ((ofList key xs).map key).Nodup := by
  induction xs using List.reverseRecOn with
  | nil => exact List.nodup_nil
  | append_singleton xs x ih =>
    rw [ofList_concat]
    exact nodup_keys_put ih

lemma put_of_new (hx : key x ∉ table.map key) : put key x table = table ++ [x] := by
  induction table with
  | nil => rfl
  | cons z table ih =>
    rw [List.map_cons, List.mem_cons, not_or] at hx
    rw [put, if_neg (Ne.symm hx.1), ih hx.2, List.cons_append]

theorem ofList_of_nodup (h : (xs.map key).Nodup) : ofList key xs = xs := by
  induction xs using List.reverseRecOn with
  | nil => rfl
  | append_singleton xs x ih =>
    rw [List.map_append, List.nodup_append] at h
    have hx : key x ∉ xs.map key := fun hmem => h.2.2 _ hmem _ (by simp) rfl
    rw [ofList_concat, ih h.1, put_of_new hx]

lemma eq_of_mem_ofList {z : α} (hy : y ∈ ofList key xs) (hz : z ∈ ofList key xs)
    (hkey : key y = key z) : y = z :=
  List.inj_on_of_nodup_map (nodup_keys_ofList key xs) hy hz hkey

section Mentions

variable (ks ls : List String)

lemma eraseDups_concat (k : String) :
    (ks ++ [k]).eraseDups = if k ∈ ks then ks.eraseDups else ks.eraseDups ++ [k] := by
  have hone : [k].removeAll ks = if k ∈ ks then [] else [k] := by
    by_cases hk : k ∈ ks <;> simp [List.removeAll, hk]
  rw [List.eraseDups_append, hone]
  split
  · rw [List.eraseDups_nil, List.append_nil]
  · rfl

lemma eraseDups_append_eraseDups : (ks ++ ls.eraseDups).eraseDups = (ks ++ ls).eraseDups := by
  induction ls using List.reverseRecOn with
  | nil => rfl
  | append_singleton ls l ih =>
    rw [← List.append_assoc, eraseDups_concat, eraseDups_concat]
    by_cases hl : l ∈ ls
    · rw [if_pos hl, if_pos (List.mem_append_right _ hl), ih]
    · rw [if_neg hl, ← List.append_assoc, eraseDups_concat, ih]
      simp only [List.mem_append, List.mem_eraseDups]

end Mentions

lemma map_key_put (key : α → String) (x : α) (table : List α) :
    (put key x table).map key =
      if key x ∈ table.map key then table.map key else table.map key ++ [key x] := by
  split
  · rename_i hx
    induction table with
    | nil => exact absurd hx List.not_mem_nil
    | cons y table ih =>
      rw [put]
      split
      · rename_i hy
        rw [List.map_cons, List.map_cons, hy]
      · rename_i hy
        rw [List.map_cons, List.mem_cons] at hx
        rw [List.map_cons, List.map_cons, ih (hx.resolve_left (Ne.symm hy))]
  · rename_i hx
    rw [put_of_new hx, List.map_append, List.map_singleton]

theorem map_key_ofList (key : α → String) (xs : List α) :
    (ofList key xs).map key = (xs.map key).eraseDups := by
  induction xs using List.reverseRecOn with
  | nil => rfl
  | append_singleton xs x ih =>
    rw [ofList_concat, map_key_put, ih, List.map_append, List.map_singleton, eraseDups_concat]
    simp only [List.mem_eraseDups]

theorem mem_ofList_iff : y ∈ ofList key xs ↔
    ∃ before after, xs = before ++ y :: after ∧ ∀ z ∈ after, key z ≠ key y := by
  constructor
  · intro hy
    induction xs using List.reverseRecOn with
    | nil => exact absurd hy List.not_mem_nil
    | append_singleton xs x ih =>
      by_cases hkey : key x = key y
      · have hx : x ∈ ofList key (xs ++ [x]) := by
          rw [ofList_concat]
          exact mem_put_self key x _
        rw [← eq_of_mem_ofList hx hy hkey]
        exact ⟨xs, [], rfl, by simp⟩
      · rw [ofList_concat] at hy
        have hmem := (mem_of_mem_put hy).resolve_left fun h => hkey (congrArg key h.symm)
        obtain ⟨before, after, rfl, hafter⟩ := ih hmem
        refine ⟨before, after ++ [x], by simp, ?_⟩
        simpa [or_imp, forall_and] using ⟨hafter, hkey⟩
  · rintro ⟨before, after, rfl, hafter⟩
    exact mem_ofList_of_last before y hafter

lemma find?_of_mem_ofList (hy : y ∈ ofList key xs) :
    xs.reverse.find? (key · = key y) = some y := by
  obtain ⟨before, after, rfl, hafter⟩ := mem_ofList_iff.mp hy
  rw [List.find?_eq_some_iff_append]
  refine ⟨by simp, after.reverse, before.reverse, by simp, fun z hz => ?_⟩
  simpa using hafter z (List.mem_reverse.mp hz)

/-- A table is told by the keys in order of first mention and the last entry of each. -/
theorem ofList_eq_filterMap (key : α → String) (xs : List α) :
    ofList key xs = (xs.map key).eraseDups.filterMap fun k => xs.reverse.find? (key · = k) := by
  rw [← map_key_ofList, List.filterMap_map]
  calc ofList key xs = (ofList key xs).filterMap some := List.filterMap_some.symm
    _ = _ := List.filterMap_congr fun y hy => (find?_of_mem_ofList hy).symm

theorem ofList_append_ofList (key : α → String) (xs ys : List α) :
    ofList key (xs ++ ofList key ys) = ofList key (xs ++ ys) := by
  have hfind : ∀ k, (ofList key ys).reverse.find? (key · = k) = ys.reverse.find? (key · = k) := by
    intro k
    cases hk : (ofList key ys).reverse.find? (key · = k) with
    | none =>
      rw [List.find?_eq_none] at hk
      symm
      rw [List.find?_eq_none]
      intro y hy hkey
      obtain ⟨z, hz, -, hzy⟩ := exists_mem_ofList key [] (List.mem_reverse.mp hy)
      refine hk z (List.mem_reverse.mpr hz) ?_
      rw [hzy]
      exact hkey
    | some y =>
      obtain ⟨hkey, _, _, _, _⟩ := List.find?_eq_some_iff_append.mp hk
      have hy : y ∈ ofList key ys := List.mem_reverse.mp (List.mem_of_find?_eq_some hk)
      rw [← of_decide_eq_true hkey, find?_of_mem_ofList hy]
  rw [ofList_eq_filterMap key (xs ++ ofList key ys), ofList_eq_filterMap key (xs ++ ys),
    List.map_append, map_key_ofList, eraseDups_append_eraseDups, List.map_append]
  simp only [List.reverse_append, List.find?_append, hfind]

lemma get?_ofList (key : α → String) (k : String) (xs : List α) :
    get? key k (ofList key xs) = xs.reverse.find? (key · = k) := by
  induction xs using List.reverseRecOn with
  | nil => rfl
  | append_singleton xs x ih =>
    rw [ofList_concat, List.reverse_append, List.reverse_singleton, List.singleton_append,
      List.find?_cons]
    by_cases hk : key x = k
    · rw [← hk, get?_put_self]
      simp
    · rw [get?_put_of_ne hk, ih]
      simp [hk]

lemma mem_ofList_iff_get? : y ∈ ofList key xs ↔ get? key (key y) (ofList key xs) = some y := by
  constructor
  · intro hy
    rw [get?_ofList, find?_of_mem_ofList hy]
  · exact List.mem_of_find?_eq_some

/-- Entries that are written in between are not seen exactly if each is written over afterwards or was
there before. -/
theorem get?_ofList_insert_iff (key : α → String) (xs zs ys : List α) :
    (∀ k, get? key k (ofList key (xs ++ (zs ++ ys))) = get? key k (ofList key (xs ++ ys))) ↔
      ∀ z ∈ ofList key zs, (∃ y ∈ ys, key y = key z) ∨ z ∈ ofList key xs := by
  have hget : ∀ k, get? key k (ofList key (xs ++ (zs ++ ys))) =
      (get? key k (ofList key ys)).or
        ((get? key k (ofList key zs)).or (get? key k (ofList key xs))) := by
    intro k
    simp [get?_ofList, List.reverse_append, List.find?_append]
  have hget' : ∀ k, get? key k (ofList key (xs ++ ys)) =
      (get? key k (ofList key ys)).or (get? key k (ofList key xs)) := by
    intro k
    simp [get?_ofList, List.reverse_append, List.find?_append]
  simp only [hget, hget']
  constructor
  · intro h z hz
    have hk := h (key z)
    rw [mem_ofList_iff_get?.mp hz] at hk
    cases hy : get? key (key z) (ofList key ys) with
    | some y =>
      exact .inl ⟨y, mem_of_mem_ofList (List.mem_of_find?_eq_some hy),
        by simpa using List.find?_some hy⟩
    | none =>
      rw [hy] at hk
      exact .inr (mem_ofList_iff_get?.mpr hk.symm)
  · intro h k
    cases hz : get? key k (ofList key zs) with
    | none => rfl
    | some z =>
      obtain rfl : key z = k := by simpa using List.find?_some hz
      rcases h z (List.mem_of_find?_eq_some hz) with ⟨y, hy, hkey⟩ | hx
      · cases hover : get? key (key z) (ofList key ys) with
        | some _ => rfl
        | none =>
          rw [get?_ofList, List.find?_eq_none] at hover
          exact absurd hkey (by simpa using hover y (List.mem_reverse.mpr hy))
      · rw [mem_ofList_iff_get?.mp hx]
        rfl

/-! ### First entries -/

/-- Appends the entries of a list whose keys are new. -/
def extend (key : α → String) (table xs : List α) : List α :=
  xs.foldl (fun table x => putNew key x table) table

end TypeLineage.Keyed
