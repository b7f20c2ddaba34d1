import Mathlib.Algebra.Group.Nat.Defs
import Mathlib.Order.Defs.LinearOrder
import Mathlib.Order.Nat
import Mathlib.Tactic.Common
import TypeLineage.Number.Binary64

/-!
# The range of double-precision numbers

An integer is out of range from the point on that lies halfway between the largest finite number and
the next power of two.
-/

namespace TypeLineage.Binary64

open Number

/-- The least size of an integer that is rounded to infinity. -/
def overflowBound : Nat :=
  Nat.pow 2 1024 - Nat.pow 2 970

lemma scale_nonpos (base num den shift : Nat) {power : Nat} (hpower : base ^ shift = power) :
    scale base num den (-shift) = (num, den * power) := by
  rw [← hpower]
  rcases Nat.eq_zero_or_pos shift with rfl | hpos
  · simp [scale]
  · rw [scale, if_neg (by omega), Int.neg_neg, Int.toNat_natCast]
    rfl

lemma exponentFor_one {n : Nat} (hn : n ≠ 0) : exponentFor n 1 = n.log2 - 52 := by
  have hle : 2 ^ n.log2 ≤ n := Nat.log2_self_le hn
  have hone : Nat.log2 1 = 0 := rfl
  rw [exponentFor, hone, Int.natCast_zero, Int.sub_zero, scale_nonpos 2 n 1 _ rfl]
  simp only [Nat.one_mul, if_pos hle, minExponent]
  omega

lemma roundHalfEven_eq_limit_iff {n half : Nat} (hhalf : 0 < half)
    (hn : n < significandLimit * (2 * half)) :
    roundHalfEven n (2 * half) = significandLimit ↔
      significandLimit * (2 * half) - half ≤ n := by
  have hlimit : significandLimit = 9007199254740992 := by decide
  have hdiv := Nat.div_add_mod n (2 * half)
  have hmod := Nat.mod_lt n (by omega : 0 < 2 * half)
  have hq : n / (2 * half) < significandLimit := Nat.div_lt_of_lt_mul (by rwa [Nat.mul_comm])
  rw [hlimit] at hn hq ⊢
  simp only [roundHalfEven]
  generalize n / (2 * half) = q at *
  generalize n % (2 * half) = r at *
  by_cases hlast : q = 9007199254740991
  · subst hlast
    split_ifs with hlow hhigh heven
    · omega
    · omega
    · exact heven.elim
    · omega
  · have hmul : 2 * half * q ≤ 2 * half * 9007199254740990 := Nat.mul_le_mul_left _ (by omega)
    split_ifs <;> omega

/-- The significand of a quotient for an exponent. -/
def significandAt (num den : Nat) (e : Int) : Nat :=
  roundHalfEven (scale 2 num den (-e)).1 (scale 2 num den (-e)).2

lemma ofRatio_eq_infinite_iff {negative : Bool} {num den : Nat} (hnum : num ≠ 0) :
    (∃ sign, ofRatio negative num den = .infinite sign) ↔
      maxExponent < exponentFor num den +
        if significandAt num den (exponentFor num den) = significandLimit then 1 else 0 := by
  rw [ofRatio, if_neg hnum, significandAt]
  generalize exponentFor num den = e
  generalize hround : roundHalfEven (scale 2 num den (-e)).1 (scale 2 num den (-e)).2 = m
  simp only [hround]
  by_cases hcarry : m = significandLimit
  · simp only [hcarry, if_true]
    split_ifs <;> simp_all [zero]
  · simp only [hcarry, if_false, Int.add_zero]
    split_ifs <;> simp_all [zero]

/-- The powers of two about the bound, in units of half a step between the largest numbers. -/
lemma exists_half : ∃ half, 0 < half ∧ 2 ^ 971 = 2 * half ∧
    2 ^ 1023 = significandLimit * half ∧ 2 ^ 1024 = significandLimit * (2 * half) ∧
    overflowBound = significandLimit * (2 * half) - half :=
  ⟨Nat.pow 2 970, by decide +kernel⟩

/-- An integer is rounded to infinity exactly if its size reaches the bound. -/
theorem ofInt_eq_infinite_iff {n : Int} :
    (∃ sign, ofInt n = .infinite sign) ↔ overflowBound ≤ n.natAbs := by
  obtain ⟨half, hhalf, hstep, hbelow, habove, hbound⟩ := exists_half
  have hlimit : significandLimit = 9007199254740992 := by decide
  rw [ofInt, hbound]
  generalize n.natAbs = m
  by_cases hzero : m = 0
  · simp only [ofRatio, hzero, if_true, zero]
    constructor
    · rintro ⟨_, h⟩
      cases h
    · intro h
      omega
  have hlow : ∀ k, k ≤ m.log2 → 2 ^ k ≤ m := fun k hk =>
    (Nat.pow_le_pow_right Nat.two_pos hk).trans (Nat.log2_self_le hzero)
  have hhigh : ∀ k, m.log2 < k → m < 2 ^ k := fun k hk =>
    Nat.lt_log2_self.trans_le (Nat.pow_le_pow_right Nat.two_pos hk)
  rw [ofRatio_eq_infinite_iff hzero, exponentFor_one hzero, maxExponent]
  rcases Nat.lt_trichotomy m.log2 1023 with hlog | hlog | hlog
  · have hlt : m < significandLimit * half := by
      rw [← hbelow]
      exact hhigh 1023 hlog
    clear hhigh hlow hstep hbelow habove hbound
    rw [hlimit] at hlt ⊢
    constructor
    · split <;> omega
    · omega
  · -- Only here the carry of the significand decides.
    have hlt : m < significandLimit * (2 * half) := by
      rw [← habove]
      exact hhigh 1024 (by omega)
    have hscale : scale 2 m 1 (-971) = (m, 1 * (2 * half)) := scale_nonpos 2 m 1 971 hstep
    rw [Nat.one_mul] at hscale
    have hcarry : significandAt m 1 971 = significandLimit ↔
        significandLimit * (2 * half) - half ≤ m := by
      rw [significandAt, hscale]
      exact roundHalfEven_eq_limit_iff hhalf hlt
    have he : (m.log2 : Int) - 52 = 971 := by omega
    clear hhigh hlow hstep hbelow habove hbound
    simp only [he, hcarry]
    split <;> omega
  · have hle : significandLimit * (2 * half) ≤ m := by
      rw [← habove]
      exact hlow 1024 hlog
    clear hhigh hlow hstep hbelow habove hbound
    rw [hlimit] at hle ⊢
    constructor
    · omega
    · split <;> omega

end TypeLineage.Binary64
