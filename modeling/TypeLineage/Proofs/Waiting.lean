import Mathlib.Tactic.Linarith
import TypeLineage.Proofs.Debounce
import TypeLineage.Proofs.InForce

/-!
# The wait of a setting

What the setting for the wait takes, and what becomes of pending changes then. After a finite number
of seconds, which is not negative, they are handed over, and not before, as far as the difference of
two readings of the clock can tell. Two more numbers are taken: with `nan` nothing is waited for,
and with `inf` nothing is ever handed over.
-/

namespace TypeLineage

namespace Binary64

/-- The largest finite number. -/
def largest : Binary64 :=
  .finite false (significandLimit - 1) maxExponent

section Accepted

variable {x : Binary64} {d : ℚ}

lemma isDouble_largest : largest.IsDouble :=
  ⟨by decide, by decide, le_rfl, .inl (by decide)⟩

lemma amount_nonneg (hx : x.isNegative = false) (hd : x.amount? = some d) : 0 ≤ d := by
  cases x with
  | nan | infinite negative => cases hd
  | finite negative m e =>
    obtain rfl := Option.some.inj hd
    cases negative with
    | false => exact size_nonneg m e
    | true =>
      -- A number with a sign that is not below zero is a negative zero.
      obtain rfl : m = 0 := by simpa [isNegative] using hx
      simp [signed]

lemma ofRatio_ne_nan (negative : Bool) (num den : Nat) : ofRatio negative num den ≠ .nan := by
  unfold ofRatio zero
  dsimp only
  split_ifs <;> simp

lemma amount_ofInt_isSome {n : Int} (h : ∀ negative, ofInt n ≠ .infinite negative) :
    (ofInt n).amount?.isSome := by
  cases hx : ofInt n with
  | nan => exact absurd hx (ofRatio_ne_nan _ _ _)
  | infinite negative => exact absurd hx (h negative)
  | finite negative m e => rfl

lemma le_amount_largest (hx : x.IsDouble) (hd : x.amount? = some d) :
    ∃ top, largest.amount? = some top ∧ d ≤ top := by
  obtain ⟨m, e, hm, hsize⟩ := exists_size hx hd
  refine ⟨_, rfl, (le_abs_self d).trans ?_⟩
  have hle : (m : ℚ) ≤ (significandLimit - 1 : ℕ) := by
    exact_mod_cast Nat.le_sub_one_of_lt hm.lt_limit
  rw [hsize]
  exact mul_le_mul hle (zpow_le_zpow_right₀ one_le_two hm.exponent_le) (by positivity)
    (Nat.cast_nonneg _)

lemma eq_largest {top : ℚ} (hx : x.IsDouble) (hd : x.amount? = some d)
    (htop : largest.amount? = some top) (hle : top ≤ d) : x = largest := by
  obtain rfl := Option.some.inj htop
  have hpos : 0 < size (significandLimit - 1) maxExponent := by
    have hlimit : ((significandLimit - 1 : ℕ) : ℚ) = 9007199254740991 := by norm_cast
    rw [size, hlimit]
    positivity
  cases x with
  | nan | infinite negative => cases hd
  | finite negative m e =>
    obtain rfl := Option.some.inj hd
    cases negative with
    | true => exact absurd (hpos.trans_le hle) (not_lt.mpr (neg_nonpos.mpr (size_nonneg m e)))
    | false =>
      have hle : size (significandLimit - 1) maxExponent ≤ size m e := hle
      have hm : m ≤ significandLimit - 1 := Nat.le_sub_one_of_lt hx.lt_limit
      have hcast : (m : ℚ) ≤ (significandLimit - 1 : ℕ) := by exact_mod_cast hm
      have he : e = maxExponent := by
        refine le_antisymm hx.exponent_le (not_lt.mp fun hlt => ?_)
        -- At a lower exponent a number is at most half as large.
        have hhalf : size m e ≤ size (significandLimit - 1) (maxExponent - 1) :=
          mul_le_mul hcast (zpow_le_zpow_right₀ one_le_two (Int.le_sub_one_of_lt hlt))
            (by positivity) (Nat.cast_nonneg _)
        have hdouble : size (significandLimit - 1) maxExponent =
            2 * size (significandLimit - 1) (maxExponent - 1) := by
          rw [size, size, zpow_sub_one₀ two_ne_zero]
          ring
        linarith
      subst he
      have hpow : (0 : ℚ) < 2 ^ maxExponent := by positivity
      have hge : ((significandLimit - 1 : ℕ) : ℚ) ≤ m := le_of_mul_le_mul_right hle hpow
      have hge : significandLimit - 1 ≤ m := by exact_mod_cast hge
      rw [largest, le_antisymm hm hge]

end Accepted

end Binary64

namespace Watch

open Binary64

/-- All that is pending is handed over. -/
def Handler.HandsOver (h : Handler) (now : Binary64) : Prop :=
  h.flush now = (some h.pending, { h with pending := [] })

def Handler.Holds (h : Handler) (now : Binary64) : Prop :=
  h.flush now = (none, h)

section Waits

variable {x y last now : Binary64} {b c d t : ℚ} {h : Handler}

lemma handsOver_of_isPast (hpending : h.pending ≠ []) (hpast : IsPast h.wait h.lastChange now) :
    h.HandsOver now := by
  rw [Handler.HandsOver, Handler.flush, isLess_eq_false_iff.mpr hpast, if_neg (by simpa)]

lemma holds_of_not_isPast (hpast : ¬ IsPast h.wait h.lastChange now) : h.Holds now := by
  rw [← isLess_eq_false_iff, Bool.not_eq_false] at hpast
  rw [Handler.Holds, Handler.flush, hpast, if_pos (Bool.or_true _)]

lemma isPast_nan (last now : Binary64) : IsPast .nan last now := by
  rintro elapsed least - h
  cases h

lemma isPast_of_le (hx : x.IsDouble) (hd : x.amount? = some d) (ht : last.amount? = some t)
    (hc : now.amount? = some c) (hle : t + d ≤ c) : IsPast x last now := by
  obtain ⟨v, hv, hdv⟩ := (sub_rounds hc ht).le hx hd (by linarith)
  intro elapsed least helapsed hleast
  obtain rfl := Option.some.inj (hv.symm.trans helapsed)
  obtain rfl := Option.some.inj ((extent?_of_amount hd).symm.trans hleast)
  exact hdv

lemma not_isPast_of_le {limit : Extent} (hy : y.IsDouble) (hb : y.amount? = some b)
    (ht : last.amount? = some t) (hc : now.amount? = some c) (hle : c - t ≤ b)
    (hx : x.extent? = some limit) (hlimit : .of b < limit) : ¬ IsPast x last now := by
  obtain ⟨v, hv, hvb⟩ := (sub_rounds hc ht).ge hy hb hle
  exact fun hpast => absurd (hpast v limit hv hx) (not_le.mpr (hvb.trans_lt hlimit))

lemma not_isPast_infinite (ht : last.amount? = some t) (hnonneg : 0 ≤ t) (hnow : now.IsDouble)
    (hc : now.amount? = some c) : ¬ IsPast (.infinite false) last now := by
  obtain ⟨top, htop, hle⟩ := le_amount_largest hnow hc
  exact not_isPast_of_le isDouble_largest htop ht hc (by linarith) rfl (Extent.of_lt_top top)

end Waits

/-- From some finite reading of the clock on, all that is pending is handed over. -/
def Handler.LetsGo (h : Handler) : Prop :=
  ∃ (first : Binary64) (c : ℚ), first.IsDouble ∧ first.amount? = some c ∧
    ∀ (now : Binary64) (c' : ℚ), now.IsDouble → now.amount? = some c' → c ≤ c' → h.HandsOver now

lemma letsGo_iff {h : Handler} : h.LetsGo ↔ h.HandsOver largest := by
  obtain ⟨top, htop⟩ : ∃ top, largest.amount? = some top := ⟨_, rfl⟩
  constructor
  · rintro ⟨first, c, hfirst, hc, hfires⟩
    obtain ⟨top', htop', hle⟩ := le_amount_largest hfirst hc
    exact hfires largest top' isDouble_largest htop' hle
  · intro hfires
    refine ⟨largest, top, isDouble_largest, htop, fun now c hnow hc hle => ?_⟩
    rwa [eq_largest hnow hc htop hle]

/-- What a handler does that waits for a number of seconds and saw its last change at a time. -/
structure WaitsFor (h : Handler) (x : Binary64) (t : ℚ) : Prop where
  past : ∀ now, IsPast x h.lastChange now → h.HandsOver now
  notPast : ∀ now, ¬ IsPast x h.lastChange now → h.Holds now
  nan : x = .nan → ∀ now, h.HandsOver now
  infinite : x = .infinite false → 0 ≤ t →
    ∀ (now : Binary64) (c : ℚ), now.IsDouble → now.amount? = some c → h.Holds now
  after : ∀ d, x.amount? = some d → ∀ (now : Binary64) (c : ℚ), now.amount? = some c →
    t + d ≤ c → h.HandsOver now
  /-- Rounding makes up for less than the step to the next number below. -/
  before : ∀ d, x.amount? = some d → ∀ (y : Binary64) (b : ℚ), y.IsDouble → y.amount? = some b →
    b < d → ∀ (now : Binary64) (c : ℚ), now.amount? = some c → c - t ≤ b → h.Holds now
  letsGo : h.LetsGo ↔ h.HandsOver largest

lemma waitsFor {x : Binary64} {t : ℚ} {h : Handler} (hx : x.IsDouble) (hwait : h.wait = x)
    (hpending : h.pending ≠ []) (ht : h.lastChange.amount? = some t) : WaitsFor h x t := by
  subst hwait
  refine ⟨fun now => handsOver_of_isPast hpending, fun now => holds_of_not_isPast, ?_, ?_, ?_, ?_,
    letsGo_iff⟩
  · intro hnan now
    exact handsOver_of_isPast hpending (hnan ▸ isPast_nan _ _)
  · intro hinfinite hnonneg now c hnow hc
    exact holds_of_not_isPast (hinfinite ▸ not_isPast_infinite ht hnonneg hnow hc)
  · intro d hd now c hc hle
    exact handsOver_of_isPast hpending (isPast_of_le hx hd ht hc hle)
  · intro d hd y b hy hb hlt now c hc hle
    exact holds_of_not_isPast
      (not_isPast_of_le hy hb ht hc hle (extent?_of_amount hd) (Extent.of_lt_of.mpr hlt))

lemma isDouble_of_seconds {key : String} {v : Value} {x : Binary64}
    (hv : ∀ y, v = .real y → y.IsDouble) (hx : Setting.seconds key v = .ok x) : x.IsDouble := by
  unfold Setting.seconds at hx
  split at hx
  · rw [← Except.ok.inj hx]
    exact isDouble_ofRatio _ _ Nat.one_pos
  · split at hx
    · cases hx
    · rw [← Except.ok.inj hx]
      exact isDouble_ofRatio _ _ Nat.one_pos
  · rename_i y
    exact Except.ok.inj hx ▸ hv y rfl
  · split at hx
    · rename_i hread
      exact Except.ok.inj hx ▸ isDouble_ofText? hread
    · cases hx
  · obtain ⟨text, -, hx⟩ := exists_of_bind_eq_ok hx
    cases hx

/-- What the setting takes is a number of seconds that is not below zero, or one of two that are no
amounts: `nan`, with which a handler hands over at every clock reading, and `inf`, with which it
hands over at none. Every integer and truth value that is taken is finite. With a finite number, all
that is pending is handed over from so many seconds after the last change on, and not before, up to
the rounding of a difference: not if a smaller number of seconds has not passed. -/
theorem flush_of_accepted_wait (v w : Value) (hv : ∀ x, v = .real x → x.IsDouble)
    (hw : Setting.validate Setting.watchDebounce.name v = .ok w) :
    ∃ x : Binary64, w = .real x ∧ x.IsDouble ∧
      ((∃ d, x.amount? = some d ∧ 0 ≤ d) ∨ x = .nan ∨ x = .infinite false) ∧
      ((∃ n, v = .integer n) ∨ (∃ b, v = .flag b) → x.amount?.isSome) ∧
      ∀ (h : Handler) (t : ℚ), h.wait = x → h.pending ≠ [] → h.lastChange.amount? = some t →
        WaitsFor h x t := by
  rw [Setting.validate_name] at hw
  obtain ⟨x, hseconds, hsign⟩ := exists_of_bind_eq_ok hw
  split at hsign
  · cases hsign
  rename_i hx
  have hx : x.isNegative = false := by simpa using hx
  have hdouble := isDouble_of_seconds hv hseconds
  refine ⟨x, (Except.ok.inj hsign).symm, hdouble, ?_, ?_, fun h t => waitsFor hdouble⟩
  · cases x with
    | nan => exact .inr (.inl rfl)
    | infinite negative => exact .inr (.inr (congrArg _ hx))
    | finite negative m e => exact .inl ⟨_, rfl, amount_nonneg hx rfl⟩
  · rintro (⟨n, rfl⟩ | ⟨b, rfl⟩)
    · rw [Setting.seconds] at hseconds
      split at hseconds
      · cases hseconds
      · rename_i hfinite
        obtain rfl := Except.ok.inj hseconds
        exact amount_ofInt_isSome fun negative => hfinite negative
    · obtain rfl := Except.ok.inj hseconds
      cases b <;> decide

lemma validate_watchDebounce_text {x : Binary64} {s : String} (hs : ofText? s.toList = some x)
    (hx : x.isNegative = false) :
    Setting.validate Setting.watchDebounce.name (.text s) = .ok (.real x) := by
  rw [Setting.validate_name, Setting.accept, Setting.validateSeconds, Setting.seconds, hs]
  exact if_neg (by simp [hx])

/-- A handler whose only change was at two seconds on its clock. -/
def changedAtTwo (x : Binary64) : Handler :=
  ⟨none, x, [⟨.relative, ["a.ts"]⟩], .ofInt 2⟩

theorem flush_of_accepted_wait_spellings :
    (∀ (now : Binary64) (c : ℚ), now.amount? = some c → 12 ≤ c →
        (changedAtTwo (.ofInt 10)).HandsOver now) ∧
      (∀ (now : Binary64) (c : ℚ), now.amount? = some c → c ≤ 11 →
        (changedAtTwo (.ofInt 10)).Holds now) ∧
      (∀ now, (changedAtTwo .nan).HandsOver now) ∧
      ∀ (now : Binary64) (c : ℚ), now.IsDouble → now.amount? = some c →
        (changedAtTwo (.infinite false)).Holds now := by
  have htwo : (ofInt 2).amount? = some 2 := by
    rw [show ofInt 2 = .finite false 4503599627370496 (-51) by decide +kernel]
    norm_num [amount?, signed, size]
  have hnine : (ofInt 9).amount? = some 9 := by
    rw [show ofInt 9 = .finite false 5066549580791808 (-49) by decide +kernel]
    norm_num [amount?, signed, size]
  have hten : (ofInt 10).amount? = some 10 := by
    rw [show ofInt 10 = .finite false 5629499534213120 (-49) by decide +kernel]
    norm_num [amount?, signed, size]
  have hpending : ∀ x, (changedAtTwo x).pending ≠ [] := by simp [changedAtTwo]
  obtain ⟨x, hx, -, -, -, hwaits⟩ := flush_of_accepted_wait (.text " +1_0e-0 ")
    (.real (.ofInt 10)) (by simp) (validate_watchDebounce_text (by decide +kernel) rfl)
  obtain rfl := Value.real.inj hx
  have hfinite := hwaits (changedAtTwo (.ofInt 10)) 2 rfl (hpending _) htwo
  refine ⟨fun now c hc hle => ?_, fun now c hc hle => ?_, ?_, ?_⟩
  · exact hfinite.after 10 hten now c hc (by linarith)
  · exact hfinite.before 10 hten (ofInt 9) 9 (isDouble_ofRatio _ _ Nat.one_pos) hnine (by norm_num)
      now c hc (by linarith)
  · obtain ⟨x, hx, -, -, -, hwaits⟩ := flush_of_accepted_wait (.text "-NaN") (.real .nan) (by simp)
      (validate_watchDebounce_text (by decide +kernel) rfl)
    obtain rfl := Value.real.inj hx
    exact (hwaits (changedAtTwo .nan) 2 rfl (hpending _) htwo).nan rfl
  · obtain ⟨x, hx, -, -, -, hwaits⟩ := flush_of_accepted_wait (.text "1e999")
      (.real (.infinite false)) (by simp) (validate_watchDebounce_text (by decide +kernel) rfl)
    obtain rfl := Value.real.inj hx
    exact (hwaits (changedAtTwo (.infinite false)) 2 rfl (hpending _) htwo).infinite rfl
      (by norm_num)

end Watch

end TypeLineage
