import Mathlib.Order.WithBot
import TypeLineage.Number.Notation
import TypeLineage.Proofs.Nearest

/-!
# Differences of numbers

How numbers compare, and how a difference of two compares with a third. The difference is rounded,
but rounding never carries it past a number.
-/

namespace TypeLineage.Binary64

open Number

/-! ### Amounts -/

def signed (negative : Bool) (q : ℚ) : ℚ :=
  if negative then -q else q

/-- The exact amount of a finite number. -/
def amount? : Binary64 → Option ℚ
  | .finite negative m e => some (signed negative (size m e))
  | _ => none

/-- The amounts and the two infinities, in order. -/
abbrev Extent := WithBot (WithTop ℚ)

def Extent.of (q : ℚ) : Extent :=
  ((q : WithTop ℚ) : WithBot (WithTop ℚ))

/-- The extent of a number. Only `nan` has none. -/
def extent? : Binary64 → Option Extent
  | .nan => none
  | .infinite negative => some (if negative then ⊥ else ⊤)
  | .finite negative m e => some (.of (signed negative (size m e)))

/-- A number has a significand and an exponent that there are, if it has any. -/
def IsDouble : Binary64 → Prop
  | .finite _ m e => IsFinite m e
  | _ => True

section Amounts

variable {x y : Binary64} {negative : Bool} {m : Nat} {e unit : Int} {c : ℚ}

@[simp] lemma Extent.of_lt_of {a b : ℚ} : Extent.of a < Extent.of b ↔ a < b := by
  rw [Extent.of, Extent.of, WithBot.coe_lt_coe, WithTop.coe_lt_coe]

@[simp] lemma Extent.of_le_of {a b : ℚ} : Extent.of a ≤ Extent.of b ↔ a ≤ b := by
  rw [Extent.of, Extent.of, WithBot.coe_le_coe, WithTop.coe_le_coe]

@[simp] lemma Extent.of_lt_top (a : ℚ) : Extent.of a < ⊤ :=
  WithBot.coe_lt_coe.mpr (WithTop.coe_lt_top a)

@[simp] lemma Extent.bot_lt_of (a : ℚ) : ⊥ < Extent.of a :=
  WithBot.bot_lt_coe _

@[simp] lemma Extent.of_ne_bot (a : ℚ) : Extent.of a ≠ ⊥ :=
  (Extent.bot_lt_of a).ne'

@[simp] lemma Extent.of_ne_top (a : ℚ) : Extent.of a ≠ ⊤ :=
  (Extent.of_lt_top a).ne

lemma extent?_of_amount (h : x.amount? = some c) : x.extent? = some (.of c) := by
  cases x with
  | nan | infinite negative => cases h
  | finite negative m e => rw [← Option.some.inj h]; rfl

lemma size_nonneg (m : Nat) (e : Int) : 0 ≤ size m e := by
  unfold size
  positivity

lemma units_mul (h : unit ≤ e) :
    (units negative m e unit : ℚ) * 2 ^ unit = signed negative (size m e) := by
  have hsize : (m : ℚ) * 2 ^ (e - unit).toNat * 2 ^ unit = size m e := by
    obtain ⟨j, hj⟩ := Int.eq_ofNat_of_zero_le (sub_nonneg.mpr h)
    obtain rfl : e = j + unit := by omega
    rw [size, zpow_add₀ two_ne_zero, zpow_natCast, mul_assoc]
    simp
  rw [← hsize]
  cases negative <;> simp [units, signed]

theorem isLess_iff : x.isLess y = true ↔
    ∃ a b, x.extent? = some a ∧ y.extent? = some b ∧ a < b := by
  cases x with
  | nan => simp [isLess, extent?]
  | infinite negative =>
    cases y with
    | nan => simp [isLess, extent?]
    | infinite negative' => cases negative <;> cases negative' <;> simp [isLess, extent?]
    | finite negative' m' e' => cases negative <;> simp [isLess, extent?]
  | finite negative m e =>
    cases y with
    | nan => simp [isLess, extent?]
    | infinite negative' => cases negative' <;> simp [isLess, extent?]
    | finite negative' m' e' =>
      have hunit : (0 : ℚ) < 2 ^ min e e' := by positivity
      have hunits : units negative m e (min e e') < units negative' m' e' (min e e') ↔
          signed negative (size m e) < signed negative' (size m' e') := by
        rw [← units_mul (min_le_left e e'), ← units_mul (min_le_right e e'),
          mul_lt_mul_iff_left₀ hunit, Int.cast_lt]
      simp [isLess, extent?, hunits]

end Amounts

/-! ### Rounded amounts -/

def opposite : Binary64 → Binary64
  | .nan => .nan
  | .infinite negative => .infinite !negative
  | .finite negative m e => .finite (!negative) m e

/-- What an amount is rounded to. Below zero it is rounded as its opposite is. -/
def RoundsTo (q : ℚ) (z : Binary64) : Prop :=
  0 ≤ q ∧ Rounds q z ∨ q ≤ 0 ∧ Rounds (-q) z.opposite

section Rounding

variable {x y z : Binary64} {m : Nat} {e : Int} {a b c q : ℚ}

@[simp] lemma opposite_opposite (z : Binary64) : z.opposite.opposite = z := by
  cases z <;> simp [opposite]

lemma isDouble_opposite : z.opposite.IsDouble ↔ z.IsDouble := by
  cases z <;> rfl

lemma ofRatio_true (num den : Nat) : ofRatio true num den = (ofRatio false num den).opposite := by
  unfold ofRatio zero
  dsimp only
  split_ifs <;> rfl

lemma amount?_opposite (h : z.opposite.amount? = some c) : z.amount? = some (-c) := by
  cases z with
  | nan | infinite negative => cases h
  | finite negative m e =>
    obtain rfl := Option.some.inj h
    cases negative <;> simp [amount?, signed]

lemma extent?_opposite : (∃ v, z.opposite.extent? = some v ∧ .of (-c) ≤ v) ↔
    ∃ v, z.extent? = some v ∧ v ≤ .of c := by
  cases z with
  | nan => simp [opposite, extent?]
  | infinite negative => cases negative <;> simp [opposite, extent?]
  | finite negative m e => cases negative <;> simp [opposite, extent?, signed, neg_le]

lemma rounds_zero (negative : Bool) : RoundsTo 0 (zero negative) := by
  have hzero : Rounds 0 (zero false) := by simpa [ofRatio] using ofRatio_rounds 0 Nat.one_pos
  cases negative with
  | false => exact .inl ⟨le_rfl, hzero⟩
  | true => exact .inr ⟨le_rfl, by rwa [neg_zero]⟩

/-- A difference is the exact one, rounded once. -/
theorem sub_rounds (hx : x.amount? = some a) (hy : y.amount? = some b) :
    RoundsTo (a - b) (x.sub y) := by
  cases x with
  | nan | infinite negative => cases hx
  | finite negative m e =>
  cases y with
  | nan | infinite negative => cases hy
  | finite negative' m' e' =>
  obtain rfl := Option.some.inj hx
  obtain rfl := Option.some.inj hy
  rw [← units_mul (min_le_left e e'), ← units_mul (min_le_right e e'), ← sub_mul, ← Int.cast_sub]
  unfold sub
  dsimp only
  generalize min e e' = unit
  generalize units negative m e unit - units negative' m' e' unit = difference
  have hunit : (0 : ℚ) < 2 ^ unit := by positivity
  obtain ⟨hpos, hscale⟩ := @scale_spec difference.natAbs 1 Nat.one_pos unit
  have hrounds := ofRatio_rounds (scale 2 difference.natAbs 1 unit).1 hpos
  rw [hscale, Nat.cast_one, div_one, Nat.cast_natAbs, Int.cast_abs] at hrounds
  split_ifs with hzero
  · rw [hzero, Int.cast_zero, zero_mul]
    exact rounds_zero _
  · rcases lt_or_gt_of_ne hzero with hneg | hpositive
    · have hcast : (difference : ℚ) < 0 := by exact_mod_cast hneg
      rw [abs_of_neg hcast, neg_mul] at hrounds
      rw [decide_eq_true hneg, ofRatio_true]
      exact .inr ⟨(mul_neg_of_neg_of_pos hcast hunit).le, by rwa [opposite_opposite]⟩
    · have hcast : (0 : ℚ) < difference := by exact_mod_cast hpositive
      rw [abs_of_pos hcast] at hrounds
      rw [decide_eq_false (not_lt.mpr hpositive.le)]
      exact .inl ⟨(mul_pos hcast hunit).le, hrounds⟩

lemma size_lt_overflowBound (h : IsFinite m e) : size m e < overflowBound := by
  have hm : (m : ℚ) ≤ significandLimit - 1 := by
    have hle : m + 1 ≤ significandLimit := h.lt_limit
    have : (m : ℚ) + 1 ≤ significandLimit := by exact_mod_cast hle
    linarith
  have hlimit : (0 : ℚ) ≤ significandLimit - 1 := (Nat.cast_nonneg m).trans hm
  rw [overflowBound_eq]
  calc size m e ≤ (significandLimit - 1) * 2 ^ (971 : ℤ) :=
        mul_le_mul hm (zpow_le_zpow_right₀ one_le_two h.exponent_le) (by positivity) hlimit
    _ < (significandLimit - 1 / 2) * 2 ^ (971 : ℤ) :=
        mul_lt_mul_of_pos_right (by linarith) (by positivity)

lemma Rounds.le (h : Rounds q z) (hm : IsFinite m e) (hle : size m e ≤ q) :
    ∃ v, z.extent? = some v ∧ .of (size m e) ≤ v := by
  cases h with
  | infinite range => exact ⟨⊤, rfl, le_top⟩
  | @finite m₀ e₀ range isFinite nearest =>
    refine ⟨_, rfl, Extent.of_le_of.mpr ?_⟩
    by_contra hlt
    have hlt : size m₀ e₀ < size m e := not_le.mp hlt
    have hnear := nearest m e hm
    rw [abs_of_neg (by linarith), abs_of_nonpos (by linarith)] at hnear
    rcases hnear with heq | hless | ⟨heq, -⟩ <;> linarith

lemma Rounds.ge (h : Rounds q z) (hm : IsFinite m e) (hle : q ≤ size m e) :
    ∃ d, z.amount? = some d ∧ d ≤ size m e := by
  cases h with
  | infinite range => exact absurd (range.trans hle) (not_le.mpr (size_lt_overflowBound hm))
  | @finite m₀ e₀ range isFinite nearest =>
    refine ⟨_, rfl, ?_⟩
    change size m₀ e₀ ≤ size m e
    by_contra hlt
    have hlt : size m e < size m₀ e₀ := not_le.mp hlt
    have hnear := nearest m e hm
    rw [abs_of_pos (by linarith), abs_of_nonneg (by linarith)] at hnear
    rcases hnear with heq | hless | ⟨heq, -⟩ <;> linarith

lemma Rounds.nonneg (h : Rounds q z) : ∃ v, z.extent? = some v ∧ .of 0 ≤ v := by
  cases h with
  | infinite range => exact ⟨⊤, rfl, le_top⟩
  | finite range isFinite nearest => exact ⟨_, rfl, Extent.of_le_of.mpr (size_nonneg _ _)⟩

lemma Rounds.isDouble (h : Rounds q z) : z.IsDouble := by
  cases h with
  | infinite range => trivial
  | finite range isFinite nearest => exact isFinite

lemma exists_size (hx : x.IsDouble) (hc : x.amount? = some c) :
    ∃ m e, IsFinite m e ∧ |c| = size m e := by
  cases x with
  | nan | infinite negative => cases hc
  | finite negative m e =>
    obtain rfl := Option.some.inj hc
    refine ⟨m, e, hx, ?_⟩
    cases negative <;> simp [signed, abs_of_nonneg (size_nonneg m e)]

theorem RoundsTo.le (h : RoundsTo q z) (hx : x.IsDouble) (hc : x.amount? = some c) (hle : c ≤ q) :
    ∃ v, z.extent? = some v ∧ .of c ≤ v := by
  obtain ⟨m, e, hm, hsize⟩ := exists_size hx hc
  rcases h with ⟨hq, hrounds⟩ | ⟨hq, hrounds⟩
  · rcases le_total c 0 with hneg | hpos
    · obtain ⟨v, hv, hle⟩ := hrounds.nonneg
      exact ⟨v, hv, (Extent.of_le_of.mpr hneg).trans hle⟩
    · rw [abs_of_nonneg hpos] at hsize
      rw [hsize] at hle ⊢
      exact hrounds.le hm hle
  · rw [abs_of_nonpos (hle.trans hq)] at hsize
    obtain ⟨d, hd, hdle⟩ := hrounds.ge hm (by linarith)
    exact ⟨_, extent?_of_amount (amount?_opposite hd), Extent.of_le_of.mpr (by linarith)⟩

lemma RoundsTo.opposite (h : RoundsTo q z) : RoundsTo (-q) z.opposite := by
  rcases h with ⟨hq, h⟩ | ⟨hq, h⟩
  · exact .inr ⟨by linarith, by simpa using h⟩
  · exact .inl ⟨by linarith, h⟩

theorem RoundsTo.ge (h : RoundsTo q z) (hx : x.IsDouble) (hc : x.amount? = some c) (hle : q ≤ c) :
    ∃ v, z.extent? = some v ∧ v ≤ .of c := by
  have hx' : x.opposite.IsDouble := isDouble_opposite.mpr hx
  have hc' : x.opposite.amount? = some (-c) := amount?_opposite (by simpa using hc)
  exact extent?_opposite.mp (h.opposite.le hx' hc' (by linarith))

/-! ### Numbers that are read -/

lemma isDouble_ofRatio (negative : Bool) (num : Nat) {den : Nat} (hden : 0 < den) :
    (ofRatio negative num den).IsDouble := by
  have hpositive := (ofRatio_rounds num hden).isDouble
  cases negative with
  | false => exact hpositive
  | true => rwa [ofRatio_true, isDouble_opposite]

lemma isDouble_zero (negative : Bool) : (zero negative).IsDouble :=
  ⟨by decide, le_rfl, by decide, .inr rfl⟩

lemma isDouble_ofDecimal (negative : Bool) (digits : Nat) (exponent : Int) :
    (ofDecimal negative digits exponent).IsDouble := by
  have hscale : 0 < (scale 10 digits 1 exponent).2 := by
    unfold scale
    split
    · exact Nat.one_pos
    · exact Nat.mul_pos Nat.one_pos (Nat.pow_pos (by decide))
  unfold ofDecimal
  dsimp only
  split_ifs
  · exact isDouble_zero negative
  · trivial
  · exact isDouble_zero negative
  · exact isDouble_ofRatio negative _ hscale

lemma isDouble_ofText? {s : List Char} (h : ofText? s = some x) : x.IsDouble := by
  unfold ofText? at h
  dsimp only at h
  split_ifs at h
  · rw [← Option.some.inj h]
    trivial
  · rw [← Option.some.inj h]
    trivial
  · obtain ⟨⟨n, e⟩, -, rfl⟩ := Option.map_eq_some_iff.mp h
    exact isDouble_ofDecimal _ n e

end Rounding

end TypeLineage.Binary64
