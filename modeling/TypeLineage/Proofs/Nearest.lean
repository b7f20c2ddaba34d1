import Mathlib.Algebra.Order.Field.Power
import Mathlib.Algebra.Order.Field.Rat
import Mathlib.Algebra.Ring.Parity
import Mathlib.Data.Rat.Cast.Order
import Mathlib.Tactic.FieldSimp
import Mathlib.Tactic.Linarith
import Mathlib.Tactic.NormNum
import Mathlib.Tactic.Positivity
import Mathlib.Tactic.Ring
import TypeLineage.Proofs.Range

/-!
# Rounding to the nearest number

The double-precision number of a quotient is the one nearest to it. Where two are equally near, its
significand is even.
-/

namespace TypeLineage

namespace Number

variable {num den : Nat}

lemma roundHalfEven_spec (hden : 0 < den) :
    |(roundHalfEven num den : ℚ) - num / den| < 1 / 2 ∨
      |(roundHalfEven num den : ℚ) - num / den| = 1 / 2 ∧ Even (roundHalfEven num den) := by
  have hd : (0 : ℚ) < den := by exact_mod_cast hden
  have hdiv : (num : ℚ) = den * (num / den : ℕ) + (num % den : ℕ) := by
    exact_mod_cast (Nat.div_add_mod num den).symm
  have hquot : (num : ℚ) / den = (num / den : ℕ) + (num % den : ℕ) / den := by
    rw [hdiv]
    field_simp
  have hnonneg : (0 : ℚ) ≤ (num % den : ℕ) / den := by positivity
  have hone : ((num % den : ℕ) / den : ℚ) < 1 := by
    rw [div_lt_one hd]
    exact_mod_cast Nat.mod_lt num hden
  have hbelow : 2 * (num % den) < den ↔ ((num % den : ℕ) / den : ℚ) < 1 / 2 := by
    rw [div_lt_div_iff₀ hd two_pos, ← Nat.cast_lt (α := ℚ)]
    push_cast
    rw [mul_comm, one_mul]
  have habove : den < 2 * (num % den) ↔ (1 / 2 : ℚ) < (num % den : ℕ) / den := by
    rw [div_lt_div_iff₀ two_pos hd, ← Nat.cast_lt (α := ℚ)]
    push_cast
    rw [mul_comm, one_mul]
  rw [hquot]
  simp only [roundHalfEven, hbelow, habove]
  generalize num / den = k at *
  generalize ((num % den : ℕ) / den : ℚ) = r at *
  have hdown : |(k : ℚ) - (k + r)| = r := by
    rw [sub_add_cancel_left, abs_neg, abs_of_nonneg hnonneg]
  have hup : |((k + 1 : ℕ) : ℚ) - (k + r)| = 1 - r := by
    push_cast
    rw [add_sub_add_left_eq_sub, abs_of_pos (by linarith)]
  split_ifs with hlow hhigh heven
  · exact .inl (by rwa [hdown])
  · exact .inl (by rw [hup]; linarith)
  · exact .inr ⟨by rw [hdown]; linarith, Nat.even_iff.mpr heven⟩
  · exact .inr ⟨by rw [hup]; linarith, Nat.even_add_one.mpr (by rwa [Nat.even_iff])⟩

lemma roundHalfEven_nearest (hden : 0 < den) (k : Int) :
    k = roundHalfEven num den ∨
      |(roundHalfEven num den : ℚ) - num / den| < |(k : ℚ) - num / den| ∨
      |(roundHalfEven num den : ℚ) - num / den| = |(k : ℚ) - num / den| ∧
        Even (roundHalfEven num den) := by
  have hspec := @roundHalfEven_spec num den hden
  generalize roundHalfEven num den = m at *
  by_cases hk : k = m
  · exact .inl hk
  · right
    have hapart : (1 : ℚ) ≤ |(k : ℚ) - m| := by
      have : 1 ≤ |k - m| := Int.one_le_abs (sub_ne_zero.mpr hk)
      exact_mod_cast this
    have hsum := abs_sub_le (k : ℚ) (num / den) m
    rw [abs_sub_comm (num / den : ℚ) m] at hsum
    rcases hspec with hlt | ⟨heq, heven⟩
    · exact .inl (by linarith)
    · rcases (show |(m : ℚ) - num / den| ≤ |(k : ℚ) - num / den| by linarith).lt_or_eq with h | h
      · exact .inl h
      · exact .inr ⟨h, heven⟩

lemma scale_spec (hden : 0 < den) (shift : Int) :
    0 < (scale 2 num den shift).2 ∧
      ((scale 2 num den shift).1 : ℚ) / (scale 2 num den shift).2 = num / den * 2 ^ shift := by
  rw [scale]
  split
  · rename_i hshift
    obtain ⟨k, rfl⟩ := Int.eq_ofNat_of_zero_le hshift
    refine ⟨hden, ?_⟩
    simp only [Int.toNat_natCast, Nat.pow_eq, Nat.cast_mul, Nat.cast_pow, Nat.cast_ofNat,
      zpow_natCast]
    ring
  · rename_i hshift
    obtain ⟨k, hk⟩ := Int.eq_ofNat_of_zero_le (by omega : 0 ≤ -shift)
    obtain rfl : shift = -k := by omega
    refine ⟨by simp [hden], ?_⟩
    simp only [neg_neg, Int.toNat_natCast, Nat.pow_eq, Nat.cast_mul, Nat.cast_pow, Nat.cast_ofNat,
      zpow_neg, zpow_natCast]
    rw [div_mul_eq_div_div, div_eq_mul_inv]

end Number

namespace Binary64

open Number

/-- The size of a finite number. -/
def size (m : Nat) (e : Int) : ℚ :=
  m * 2 ^ e

/-- A significand and an exponent that a finite number has. Fewer than 53 bits are used at the least
exponent only. -/
structure IsFinite (m : Nat) (e : Int) : Prop where
  lt_limit : m < significandLimit
  exponent_ge : minExponent ≤ e
  exponent_le : e ≤ maxExponent
  full : significandLimit ≤ 2 * m ∨ e = minExponent

/-- The number that a size is rounded to: the nearest one, and of two the one with an even significand.
From the bound of the range on it is infinity. -/
inductive Rounds (q : ℚ) : Binary64 → Prop where
  | finite {m : Nat} {e : Int} (range : q < overflowBound) (isFinite : IsFinite m e)
      (nearest : ∀ m' e', IsFinite m' e' → size m' e' = size m e ∨
        |size m e - q| < |size m' e' - q| ∨ |size m e - q| = |size m' e' - q| ∧ Even m) :
      Rounds q (.finite false m e)
  | infinite (range : overflowBound ≤ q) : Rounds q (.infinite false)

@[simp] lemma size_zero (e : Int) : size 0 e = 0 := by
  simp [size]

lemma significandLimit_eq : (significandLimit : ℚ) = 2 ^ (53 : ℤ) := by
  have h : significandLimit = 9007199254740992 := by decide
  rw [h]
  norm_num

section Quotients

variable {num den : Nat}

lemma log2_sub_log2 (hnum : 0 < num) (hden : 0 < den) :
    (2 : ℚ) ^ ((num.log2 : ℤ) - den.log2 - 1) < num / den ∧
      (num / den : ℚ) < 2 ^ ((num.log2 : ℤ) - den.log2 + 1) := by
  have hd : (0 : ℚ) < den := by exact_mod_cast hden
  have hle : ∀ {n : Nat}, 0 < n → (2 : ℚ) ^ (n.log2 : ℤ) ≤ n := fun hn => by
    exact_mod_cast Nat.log2_self_le hn.ne'
  have hlt : ∀ n : Nat, (n : ℚ) < 2 ^ ((n.log2 : ℤ) + 1) := fun n => by
    exact_mod_cast Nat.lt_log2_self
  constructor
  · rw [lt_div_iff₀ hd]
    calc (2 : ℚ) ^ ((num.log2 : ℤ) - den.log2 - 1) * den
        < 2 ^ ((num.log2 : ℤ) - den.log2 - 1) * 2 ^ ((den.log2 : ℤ) + 1) :=
          mul_lt_mul_of_pos_left (hlt den) (by positivity)
      _ = 2 ^ (num.log2 : ℤ) := by
          rw [← zpow_add₀ two_ne_zero]
          congr 1
          ring
      _ ≤ num := hle hnum
  · rw [div_lt_iff₀ hd]
    calc (num : ℚ) < 2 ^ ((num.log2 : ℤ) + 1) := hlt num
      _ = 2 ^ ((num.log2 : ℤ) - den.log2 + 1) * 2 ^ (den.log2 : ℤ) := by
          rw [← zpow_add₀ two_ne_zero]
          congr 1
          ring
      _ ≤ 2 ^ ((num.log2 : ℤ) - den.log2 + 1) * den :=
          mul_le_mul_of_nonneg_left (hle hden) (by positivity)

lemma exponentFor_spec (hnum : 0 < num) (hden : 0 < den) :
    minExponent ≤ exponentFor num den ∧
      (num / den : ℚ) < 2 ^ (exponentFor num den + 53) ∧
      (exponentFor num den = minExponent ∨ 2 ^ (exponentFor num den + 52) ≤ (num / den : ℚ)) := by
  obtain ⟨hlow, hhigh⟩ := log2_sub_log2 hnum hden
  obtain ⟨hpos, hscale⟩ := @scale_spec num den hden (-((num.log2 : ℤ) - den.log2))
  rw [exponentFor]
  simp only
  generalize (num.log2 : ℤ) - den.log2 = k at *
  generalize scale 2 num den (-k) = scaled at *
  generalize (num / den : ℚ) = q at *
  have hreach : scaled.2 ≤ scaled.1 ↔ 2 ^ k ≤ q := by
    rw [← Nat.cast_le (α := ℚ), ← one_le_div (by exact_mod_cast hpos), hscale, zpow_neg,
      ← div_eq_mul_inv, one_le_div (by positivity)]
  -- With one of the two exponents the quotient has 53 bits.
  obtain ⟨e, he, hfits, hfull⟩ : ∃ e, (if scaled.2 ≤ scaled.1 then k - 52 else k - 53) = e ∧
      q < 2 ^ (e + 53) ∧ 2 ^ (e + 52) ≤ q := by
    by_cases h : 2 ^ k ≤ q
    · refine ⟨k - 52, if_pos (hreach.mpr h), ?_, by simpa using h⟩
      rwa [show k - 52 + 53 = k + 1 by ring]
    · refine ⟨k - 53, if_neg (mt hreach.mp h), by simpa using h, ?_⟩
      rw [show k - 53 + 52 = k - 1 by ring]
      exact hlow.le
  rw [he]
  rcases le_total minExponent e with hmin | hmin
  · rw [max_eq_right hmin]
    exact ⟨hmin, hfits, .inr hfull⟩
  · rw [max_eq_left hmin]
    refine ⟨le_rfl, hfits.trans_le ?_, .inl rfl⟩
    exact zpow_le_zpow_right₀ one_le_two (by omega)

lemma abs_size_sub (m q : ℚ) (e : Int) : |m * 2 ^ e - q| = |m - q * 2 ^ (-e)| * 2 ^ e := by
  have hpow : (0 : ℚ) < 2 ^ e := by positivity
  rw [← abs_of_pos hpow, ← abs_mul, abs_of_pos hpow, sub_mul, mul_assoc, ← zpow_add₀ two_ne_zero]
  simp

lemma significandAt_nearest (hden : 0 < den) (e : Int) (k : Int) :
    let m := significandAt num den e
    k = m ∨ |size m e - num / den| < |(k : ℚ) * 2 ^ e - num / den| ∨
      |size m e - num / den| = |(k : ℚ) * 2 ^ e - num / den| ∧ Even m := by
  intro m
  have hpow : (0 : ℚ) < 2 ^ e := by positivity
  obtain ⟨hpos, hscale⟩ := @scale_spec num den hden (-e)
  have hnearest := @roundHalfEven_nearest (scale 2 num den (-e)).1 _ hpos k
  rw [hscale] at hnearest
  rw [size, abs_size_sub, abs_size_sub, mul_lt_mul_iff_left₀ hpow, mul_left_inj' hpow.ne']
  exact hnearest

lemma size_nearest (hnum : 0 < num) (hden : 0 < den) {m' : Nat} {e' : Int} (h : IsFinite m' e') :
    let e := exponentFor num den
    let m := significandAt num den e
    size m' e' = size m e ∨ |size m e - num / den| < |size m' e' - num / den| ∨
      |size m e - num / den| = |size m' e' - num / den| ∧ Even m := by
  intro e m
  obtain ⟨-, -, hfull⟩ := exponentFor_spec hnum hden
  rcases le_or_gt e e' with hle | hlt
  · -- At a greater exponent all numbers are multiples of the same unit.
    obtain ⟨j, hj⟩ := Int.eq_ofNat_of_zero_le (sub_nonneg.mpr hle)
    have hsize : size m' e' = ((m' * 2 ^ j : ℕ) : ℤ) * 2 ^ e := by
      obtain rfl : e' = j + e := by omega
      rw [size, zpow_add₀ two_ne_zero]
      push_cast
      rw [zpow_natCast]
      ring
    rw [hsize]
    refine (significandAt_nearest hden e (m' * 2 ^ j : ℕ)).imp_left fun hk => ?_
    rw [hk, size]
    simp [m]
  · -- At a lower one they are further below than the least multiple with 53 bits.
    have hq : (2 : ℚ) ^ (e + 52) ≤ num / den :=
      hfull.resolve_left (h.exponent_ge.trans_lt hlt).ne'
    have hunit : (((2 ^ 52 : ℕ) : ℤ) : ℚ) * 2 ^ e = 2 ^ (e + 52) := by
      rw [zpow_add₀ two_ne_zero, mul_comm]
      norm_num
    have hbelow : size m' e' < 2 ^ (e + 52) := by
      have hm' : (m' : ℚ) < 2 ^ (53 : ℤ) := by
        rw [← significandLimit_eq]
        exact_mod_cast h.lt_limit
      calc size m' e' < 2 ^ (53 : ℤ) * 2 ^ e' := mul_lt_mul_of_pos_right hm' (by positivity)
        _ = 2 ^ (53 + e') := (zpow_add₀ two_ne_zero _ _).symm
        _ ≤ 2 ^ (e + 52) := zpow_le_zpow_right₀ one_le_two (by omega)
    have hdist : |(2 : ℚ) ^ (e + 52) - num / den| < |size m' e' - num / den| := by
      rw [abs_of_nonpos (by linarith), abs_of_neg (by linarith)]
      linarith
    have hnearest := @significandAt_nearest num den hden e (2 ^ 52 : ℕ)
    simp only [hunit] at hnearest
    right
    left
    rcases hnearest with hk | hlt | ⟨heq, -⟩
    · refine lt_of_eq_of_lt ?_ hdist
      rw [← hunit, hk]
      simp [size, m]
    · exact hlt.trans hdist
    · exact heq.trans_lt hdist

lemma significandAt_error (hden : 0 < den) (e : Int) :
    let error : ℚ := |significandAt num den e - num / den * 2 ^ (-e)|
    error < 1 / 2 ∨ error = 1 / 2 ∧ Even (significandAt num den e) := by
  obtain ⟨hpos, hscale⟩ := @scale_spec num den hden (-e)
  have hspec := @roundHalfEven_spec (scale 2 num den (-e)).1 _ hpos
  rwa [hscale] at hspec

/-- In units of its exponent, a quotient is below the limit of significands and, but for the least
exponent, at least half as large. -/
lemma scaled_spec (hnum : 0 < num) (hden : 0 < den) :
    let e := exponentFor num den
    let x : ℚ := num / den * 2 ^ (-e)
    x < significandLimit ∧ (e = minExponent ∨ (significandLimit : ℚ) ≤ 2 * x) := by
  intro e x
  obtain ⟨-, hfits, hfull⟩ := exponentFor_spec hnum hden
  have hx : x = num / den / 2 ^ e := by rw [div_eq_mul_inv _ ((2 : ℚ) ^ e), ← zpow_neg]
  have hpow : (0 : ℚ) < 2 ^ e := by positivity
  rw [hx, significandLimit_eq, div_lt_iff₀ hpow, ← zpow_add₀ two_ne_zero, add_comm]
  refine ⟨hfits, hfull.imp_right fun hfull => ?_⟩
  rw [← mul_div_assoc, le_div_iff₀ hpow, ← zpow_add₀ two_ne_zero,
    show (53 : ℤ) + e = e + 52 + 1 by ring, zpow_add_one₀ two_ne_zero, mul_comm]
  exact mul_le_mul_of_nonneg_left hfull zero_le_two

lemma significandAt_spec (hnum : 0 < num) (hden : 0 < den) :
    let e := exponentFor num den
    significandAt num den e ≤ significandLimit ∧
      (significandLimit ≤ 2 * significandAt num den e ∨ e = minExponent) := by
  intro e
  obtain ⟨hfits, hfull⟩ := scaled_spec hnum hden
  have herror : |(significandAt num den e : ℚ) - num / den * 2 ^ (-e)| ≤ 1 / 2 :=
    (significandAt_error hden e).elim le_of_lt fun h => h.1.le
  obtain ⟨hlow, hhigh⟩ := abs_le.mp herror
  constructor
  · have hm : (significandAt num den e : ℚ) < significandLimit + 1 := by linarith
    exact Nat.lt_succ_iff.mp (by exact_mod_cast hm)
  · refine hfull.symm.imp_left fun hfull => ?_
    have hlimit : significandLimit = 2 * 4503599627370496 := by decide
    have hm : (significandLimit : ℚ) < 2 * significandAt num den e + 2 := by linarith
    have hm : significandLimit < 2 * significandAt num den e + 2 := by exact_mod_cast hm
    omega

lemma overflowBound_eq : (overflowBound : ℚ) = (significandLimit - 1 / 2) * 2 ^ (971 : ℤ) := by
  obtain ⟨half, -, hstep, -, -, hbound⟩ := exists_half
  have hlimit : 1 ≤ significandLimit := by decide
  have hle : half ≤ significandLimit * (2 * half) :=
    (by omega : half ≤ 1 * (2 * half)).trans (Nat.mul_le_mul_right _ hlimit)
  have hpow := congrArg (Nat.cast : ℕ → ℚ) hstep
  rw [Nat.cast_pow] at hpow
  rw [hbound, Nat.cast_sub hle, ← Nat.cast_ofNat (n := 971), zpow_natCast]
  push_cast at hpow ⊢
  rw [hpow]
  ring

lemma significandAt_eq_limit_iff (hden : 0 < den) {e : Int}
    (hfits : significandAt num den e ≤ significandLimit) :
    significandAt num den e = significandLimit ↔
      (significandLimit - 1 / 2 : ℚ) ≤ num / den * 2 ^ (-e) := by
  have herror := @significandAt_error num den hden e
  have hlimit : significandLimit = 9007199254740992 := by decide
  generalize (num / den * 2 ^ (-e) : ℚ) = x at *
  generalize significandAt num den e = m at *
  have hle : |(m : ℚ) - x| ≤ 1 / 2 := herror.elim le_of_lt fun h => h.1.le
  obtain ⟨hlow, hhigh⟩ := abs_le.mp hle
  constructor
  · rintro rfl
    linarith
  · intro hx
    by_contra hne
    rcases herror with hlt | ⟨-, heven⟩
    · -- A smaller significand is too far away, ...
      have hm : (m : ℚ) + 1 ≤ significandLimit := by exact_mod_cast Nat.lt_of_le_of_ne hfits hne
      linarith [(abs_lt.mp hlt).1]
    · -- ... and one that is as near as can be is not even.
      have hm : m + 2 ≤ significandLimit := by
        obtain ⟨k, rfl⟩ := heven
        omega
      have hm : (m : ℚ) + 2 ≤ significandLimit := by exact_mod_cast hm
      linarith

lemma exponent_le_iff (hnum : 0 < num) (hden : 0 < den) :
    let e := exponentFor num den
    (e + if significandAt num den e = significandLimit then 1 else 0) ≤ maxExponent ↔
      (num / den : ℚ) < overflowBound := by
  intro e
  obtain ⟨hfits, hfull⟩ := scaled_spec hnum hden
  have hcarry := significandAt_eq_limit_iff hden (significandAt_spec hnum hden).1
  have hq : (num / den : ℚ) = num / den * 2 ^ (-e) * 2 ^ e := by
    rw [mul_assoc, ← zpow_add₀ two_ne_zero]
    simp
  have hone : (1 : ℚ) ≤ significandLimit := by exact_mod_cast (by decide : 1 ≤ significandLimit)
  change (_ : ℚ) * 2 ^ (-e) < _ at hfits
  change e = minExponent ∨ (_ : ℚ) ≤ 2 * (_ * 2 ^ (-e)) at hfull
  change significandAt num den e = _ ↔ (_ : ℚ) ≤ _ * 2 ^ (-e) at hcarry
  rw [hq, overflowBound_eq, maxExponent]
  generalize (num / den * 2 ^ (-e) : ℚ) = x at *
  generalize significandAt num den e = m at *
  generalize hlimit : (significandLimit : ℚ) = limit at *
  have hpow : (0 : ℚ) < 2 ^ (971 : ℤ) := by positivity
  rcases lt_trichotomy e 971 with hlt | heq | hgt
  · refine iff_of_true (by split <;> omega) ?_
    calc x * 2 ^ e < limit * 2 ^ e := mul_lt_mul_of_pos_right hfits (by positivity)
      _ ≤ limit * 2 ^ (970 : ℤ) := by
          refine mul_le_mul_of_nonneg_left (zpow_le_zpow_right₀ one_le_two (by omega)) (by linarith)
      _ = limit / 2 * 2 ^ (971 : ℤ) := by
          rw [show (971 : ℤ) = 970 + 1 by norm_num, zpow_add_one₀ two_ne_zero]
          ring
      _ ≤ (limit - 1 / 2) * 2 ^ (971 : ℤ) := mul_le_mul_of_nonneg_right (by linarith) hpow.le
  · -- Only here the carry of the significand decides.
    rw [heq, mul_lt_mul_iff_left₀ hpow, ← not_le, ← hcarry]
    split <;> simp_all
  · refine iff_of_false (by split <;> omega) (not_lt.mpr ?_)
    have hx : limit ≤ 2 * x := hfull.resolve_left (by rw [minExponent]; omega)
    calc (limit - 1 / 2) * 2 ^ (971 : ℤ) ≤ 2 * x * 2 ^ (971 : ℤ) :=
          mul_le_mul_of_nonneg_right (by linarith) hpow.le
      _ = x * 2 ^ (972 : ℤ) := by
          rw [show (972 : ℤ) = 971 + 1 by norm_num, zpow_add_one₀ two_ne_zero]
          ring
      _ ≤ x * 2 ^ e := by
          refine mul_le_mul_of_nonneg_left (zpow_le_zpow_right₀ one_le_two (by omega)) (by linarith)

/-- The rounded significand and its exponent, where the next power of two is half of it at the next
exponent. -/
def carried (num den : Nat) : Nat × Int :=
  let e := exponentFor num den
  let m := significandAt num den e
  if m = significandLimit then (m / 2, e + 1) else (m, e)

lemma ofRatio_eq (negative : Bool) (hnum : num ≠ 0) :
    ofRatio negative num den =
      if maxExponent < (carried num den).2 then .infinite negative
      else if (carried num den).1 = 0 then zero negative
      else .finite negative (carried num den).1 (carried num den).2 := by
  rw [ofRatio, if_neg hnum]
  rfl

lemma carried_spec (hnum : 0 < num) (hden : 0 < den) :
    let e := exponentFor num den
    let m := significandAt num den e
    ((carried num den).2 ≤ maxExponent ↔ (num / den : ℚ) < overflowBound) ∧
      ((carried num den).2 ≤ maxExponent → IsFinite (carried num den).1 (carried num den).2) ∧
      size (carried num den).1 (carried num den).2 = size m e ∧
      (Even m → Even (carried num den).1) := by
  intro e m
  have hrange := exponent_le_iff hnum hden
  obtain ⟨hleast, -, -⟩ := exponentFor_spec hnum hden
  obtain ⟨hfits, hfull⟩ := significandAt_spec hnum hden
  change (e + if m = significandLimit then 1 else 0) ≤ maxExponent ↔ _ at hrange
  change minExponent ≤ e at hleast
  change m ≤ significandLimit at hfits
  change significandLimit ≤ 2 * m ∨ e = minExponent at hfull
  have hcarried : carried num den = if m = significandLimit then (m / 2, e + 1) else (m, e) := rfl
  rw [hcarried]
  by_cases hcarry : m = significandLimit
  · have hlimit : m = 2 * (2 * 2251799813685248) := hcarry.trans (by decide)
    have hhalf : m / 2 = 2 * 2251799813685248 := by omega
    rw [if_pos hcarry] at hrange ⊢
    refine ⟨hrange, fun hle => ⟨?_, hleast.trans (Int.le_add_one le_rfl), hle, .inl ?_⟩, ?_,
      fun _ => hhalf ▸ even_two_mul _⟩
    · omega
    · omega
    · rw [size, size, hhalf, hlimit, zpow_add_one₀ two_ne_zero]
      push_cast
      ring
  · rw [if_neg hcarry] at hrange ⊢
    rw [add_zero] at hrange
    exact ⟨hrange, fun hle => ⟨Nat.lt_of_le_of_ne hfits hcarry, hleast, hle, hfull⟩, rfl, id⟩

/-- A quotient is rounded to the nearest number. -/
theorem ofRatio_rounds (num : Nat) (hden : 0 < den) :
    Rounds (num / den) (ofRatio false num den) := by
  rcases Nat.eq_zero_or_pos num with rfl | hnum
  · have hbound : (0 : ℚ) < overflowBound := by
      exact_mod_cast (by decide +kernel : 0 < overflowBound)
    rw [ofRatio, if_pos rfl, zero, Nat.cast_zero, zero_div]
    refine .finite hbound ⟨by decide, le_rfl, by decide, .inr rfl⟩ fun m' e' _ => ?_
    rw [size_zero, sub_zero, abs_zero, sub_zero, abs_pos]
    exact (eq_or_ne _ _).imp_right .inl
  · obtain ⟨hrange, hfinite, hsize, heven⟩ := carried_spec hnum hden
    rw [ofRatio_eq false hnum.ne']
    split
    · rename_i hover
      exact .infinite (not_lt.mp (mt hrange.mpr (not_le.mpr hover)))
    · rename_i hle
      have hle := not_lt.mp hle
      have hrounds : Rounds (num / den) (.finite false (carried num den).1 (carried num den).2) := by
        refine .finite (hrange.mp hle) (hfinite hle) fun m' e' h => ?_
        rw [hsize]
        exact (size_nearest hnum hden h).imp_right fun h => h.imp_right fun h => ⟨h.1, heven h.2⟩
      split
      · -- A quotient that vanishes does so at the least exponent.
        rename_i hzero
        have hlimit : 0 < significandLimit := by decide
        have hleast : (carried num den).2 = minExponent :=
          (hfinite hle).full.resolve_left (by omega)
        rwa [hzero, hleast] at hrounds
      · exact hrounds

end Quotients

end Binary64

end TypeLineage
