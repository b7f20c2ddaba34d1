import Mathlib.Tactic.Common
import TypeLineage.Text.Utf8

/-!
# Text as bytes and back

Decoding undoes encoding. The bytes of each character are read as that character, whatever bytes come
after them.
-/

namespace TypeLineage.Utf8

lemma toNat_bounds (c : Char) : c.toNat < 0xD800 ∨ 0xDFFF < c.toNat ∧ c.toNat < 0x110000 :=
  c.valid

lemma toNat_ofNat_of_lt {n : Nat} (hn : n < 256) : (UInt8.ofNat n).toNat = n := by
  rw [UInt8.toNat_ofNat']
  exact Nat.mod_eq_of_lt hn

section Shapes

variable {v : Nat}

lemma shape?_two (hlow : 0x80 ≤ v) (hhigh : v ≤ 0x7FF) :
    shape? (v / 64 + 192) = some (1, 0x80, 0xBF) := by
  rw [shape?, if_pos (by omega)]

lemma shape?_three (hlow : 0x800 ≤ v) (hhigh : v ≤ 0xFFFF) (hv : v < 0xD800 ∨ 0xDFFF < v) :
    ∃ low high, shape? (v / 4096 + 224) = some (2, low, high) ∧
      low ≤ v / 64 % 64 + 128 ∧ v / 64 % 64 + 128 ≤ high := by
  by_cases hfirst : v / 4096 = 0
  · exact ⟨0xA0, 0xBF, by rw [hfirst]; rfl, by omega, by omega⟩
  · by_cases hlast : v / 4096 = 13
    · exact ⟨0x80, 0x9F, by rw [hlast]; rfl, by omega, by omega⟩
    · refine ⟨0x80, 0xBF, ?_, by omega, by omega⟩
      rw [shape?, if_neg (by omega), if_neg (by omega), if_neg (by omega), if_pos (by omega)]

lemma shape?_four (hlow : 0x10000 ≤ v) (hhigh : v < 0x110000) :
    ∃ low high, shape? (v / 262144 + 240) = some (3, low, high) ∧
      low ≤ v / 4096 % 64 + 128 ∧ v / 4096 % 64 + 128 ≤ high := by
  by_cases hfirst : v / 262144 = 0
  · exact ⟨0x90, 0xBF, by rw [hfirst]; rfl, by omega, by omega⟩
  · by_cases hlast : v / 262144 = 4
    · exact ⟨0x80, 0x8F, by rw [hlast]; rfl, by omega, by omega⟩
    · refine ⟨0x80, 0xBF, ?_, by omega, by omega⟩
      rw [shape?, if_neg (by omega), if_neg (by omega), if_neg (by omega), if_neg (by omega),
        if_neg (by omega), if_pos (by omega)]

end Shapes

lemma continuation_cons {value length remaining low high bits : Nat} {rest : List UInt8}
    (hbits : bits < 64) (hlow : low ≤ bits + 128) (hhigh : bits + 128 ≤ high) :
    continuation value length (remaining + 1) low high (UInt8.ofNat (bits + 128) :: rest) =
      continuation (64 * value + bits) (length + 1) remaining 0x80 0xBF rest := by
  rw [continuation, toNat_ofNat_of_lt (by omega), if_pos ⟨hlow, hhigh⟩]
  congr 2
  omega

lemma step_of_shape {n following low high : Nat} {rest : List UInt8} (hn : n < 256)
    (hshape : shape? n = some (following, low, high)) (hlarge : 0x80 ≤ n) :
    step (UInt8.ofNat n) rest = continuation (leading n following) 1 following low high rest := by
  rw [step, toNat_ofNat_of_lt hn, if_neg (by omega), hshape]

theorem step_encode (c : Char) (rest : List UInt8) : ∃ b bs, String.utf8EncodeChar c = b :: bs ∧
    step b (bs ++ rest) = .char c (bs.length + 1) := by
  have hbounds := toNat_bounds c
  have hback : Char.ofNat c.toNat = c := Char.ofNat_toNat c
  have hval : c.val.toNat = c.toNat := rfl
  simp only [String.utf8EncodeChar, hval]
  generalize hv : c.toNat = v at hbounds hback ⊢
  split_ifs with hone htwo hthree
  · refine ⟨_, [], rfl, ?_⟩
    rw [step, toNat_ofNat_of_lt (by omega), if_pos (by omega), hback]
    rfl
  · refine ⟨_, [_], rfl, ?_⟩
    have hlead : v / 64 % 32 = v / 64 := by omega
    have hvalue : 64 * leading (v / 64 + 192) 1 + v % 64 = v := by
      have hbits : leading (v / 64 + 192) 1 = (v / 64 + 192) % 32 := rfl
      omega
    rw [hlead, List.singleton_append, step_of_shape (by omega) (shape?_two (by omega) htwo) (by omega),
      continuation_cons (by omega) (by omega) (by omega), continuation, hvalue, hback]
    rfl
  · refine ⟨_, [_, _], rfl, ?_⟩
    obtain ⟨low, high, hshape, hlow, hhigh⟩ :=
      shape?_three (v := v) (by omega) hthree (by omega)
    have hlead : v / 4096 % 16 = v / 4096 := by omega
    have hvalue : 64 * (64 * leading (v / 4096 + 224) 2 + v / 64 % 64) + v % 64 = v := by
      have hbits : leading (v / 4096 + 224) 2 = (v / 4096 + 224) % 16 := rfl
      omega
    rw [hlead, List.cons_append, List.singleton_append, step_of_shape (by omega) hshape (by omega),
      continuation_cons (by omega) hlow hhigh, continuation_cons (by omega) (by omega) (by omega),
      continuation, hvalue, hback]
    rfl
  · refine ⟨_, [_, _, _], rfl, ?_⟩
    obtain ⟨low, high, hshape, hlow, hhigh⟩ := shape?_four (v := v) (by omega) (by omega)
    have hlead : v / 262144 % 8 = v / 262144 := by omega
    have hvalue : 64 * (64 * (64 * leading (v / 262144 + 240) 3 + v / 4096 % 64) + v / 64 % 64) +
        v % 64 = v := by
      have hbits : leading (v / 262144 + 240) 3 = (v / 262144 + 240) % 8 := rfl
      omega
    rw [hlead, List.cons_append, List.cons_append, List.singleton_append,
      step_of_shape (by omega) hshape (by omega), continuation_cons (by omega) hlow hhigh,
      continuation_cons (by omega) (by omega) (by omega),
      continuation_cons (by omega) (by omega) (by omega), continuation, hvalue, hback]
    rfl

lemma faultFrom?_skip (offset : Nat) (bs rest : List UInt8) :
    faultFrom? offset bs.length (bs ++ rest) = faultFrom? (offset + bs.length) 0 rest := by
  induction bs generalizing offset with
  | nil => rfl
  | cons b bs ih =>
    rw [List.cons_append, List.length_cons, faultFrom?, ih]
    congr 1
    omega

lemma replacingFrom_skip (read : List Char) (bs rest : List UInt8) :
    replacingFrom bs.length read (bs ++ rest) = replacingFrom 0 read rest := by
  induction bs with
  | nil => rfl
  | cons b bs ih => rw [List.cons_append, List.length_cons, replacingFrom, ih]

lemma faultFrom?_encode (offset : Nat) (s : List Char) : faultFrom? offset 0 (encode s) = none := by
  induction s generalizing offset with
  | nil => rfl
  | cons c s ih =>
    obtain ⟨b, bs, hbytes, hstep⟩ := step_encode c (encode s)
    rw [encode, List.flatMap_cons, ← encode, hbytes, List.cons_append, faultFrom?, hstep]
    simp only [Nat.add_sub_cancel, faultFrom?_skip]
    exact ih _

lemma replacingFrom_encode (read s : List Char) :
    replacingFrom 0 read (encode s) = read.reverse ++ s := by
  induction s generalizing read with
  | nil => simp [encode, replacingFrom]
  | cons c s ih =>
    obtain ⟨b, bs, hbytes, hstep⟩ := step_encode c (encode s)
    rw [encode, List.flatMap_cons, ← encode, hbytes, List.cons_append, replacingFrom, hstep]
    simp only [Nat.add_sub_cancel, replacingFrom_skip, ih]
    simp

/-- Text that was written as bytes is read back. -/
theorem decode_encode (s : List Char) : decode (encode s) = .ok s := by
  rw [decode, faultFrom?_encode, replacing, replacingFrom_encode]
  rfl

end TypeLineage.Utf8
