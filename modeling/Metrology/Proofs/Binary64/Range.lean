import Metrology.Proofs.Decimal.Nearest

/-!
# Ranges of doubles

How large the results of a few operations can become, in powers of two. As long as the exponents
stay in the range of doubles, no operation on finite doubles overflows, and no quotient is divided
by zero.
-/

namespace Metrology.Binary64

variable {x y : Float} {i j k l : ℤ}

/-- The double is finite, and of this size at most. -/
structure AtMost (k : ℤ) (x : Float) : Prop where
  isFinite : x.isFinite = true
  le : |value x| ≤ 2 ^ k

/-- The double is positive, and between two powers of two. -/
structure Within (j k : ℤ) (x : Float) : Prop extends AtMost k x where
  ge : 2 ^ j ≤ value x

lemma Within.pos (h : Within j k x) : 0 < value x := (two_zpow_pos j).trans_le h.ge

lemma Within.beq_zero (h : Within j k x) : (x == 0.0) = false :=
  Bool.eq_false_iff.mpr fun hzero => h.pos.ne' ((beq_zero_iff h.isFinite).mp hzero)

lemma RoundsTo.atMost {v : ℚ} (h : RoundsTo v x) (hv : |v| ≤ 2 ^ k) (hk : -1074 ≤ k ∧ k ≤ 1023) :
    AtMost k x := ⟨h.isFinite hv hk, h.abs_value_le hv hk⟩

lemma RoundsTo.within {v : ℚ} (h : RoundsTo v x) (hv : |v| ≤ 2 ^ k) (hj : 2 ^ j ≤ v)
    (hjk : -1074 ≤ j ∧ -1074 ≤ k ∧ k ≤ 1023) : Within j k x :=
  ⟨h.atMost hv hjk.2, h.two_zpow_le_value hv hjk.2 hj hjk.1⟩

lemma AtMost.mono (h : AtMost k x) (hkl : k ≤ l) : AtMost l x :=
  ⟨h.isFinite, h.le.trans (two_zpow_le.mpr hkl)⟩

/-! ### Operations -/

section AtMost

variable (hx : AtMost k x)
include hx

lemma AtMost.add_abs_le (hy : AtMost k y) : |value x| + |value y| ≤ 2 ^ (k + 1) := by
  rw [two_zpow_add, zpow_one, mul_two]
  exact add_le_add hx.le hy.le

lemma AtMost.add (hy : AtMost k y) (hk : -1074 ≤ k ∧ k ≤ 1022) : AtMost (k + 1) (x + y) :=
  (roundsTo_add hx.isFinite hy.isFinite).atMost ((abs_add_le _ _).trans (hx.add_abs_le hy))
    (by omega)

lemma AtMost.sub (hy : AtMost k y) (hk : -1074 ≤ k ∧ k ≤ 1022) : AtMost (k + 1) (x - y) :=
  (roundsTo_sub hx.isFinite hy.isFinite).atMost ((abs_sub _ _).trans (hx.add_abs_le hy)) (by omega)

lemma AtMost.abs_mul_le (hy : AtMost l y) : |value x * value y| ≤ 2 ^ (k + l) := by
  rw [abs_mul, two_zpow_add]
  exact mul_le_mul hx.le hy.le (abs_nonneg _) (two_zpow_pos k).le

lemma AtMost.mul (hy : AtMost l y) (hk : -1074 ≤ k + l ∧ k + l ≤ 1023) : AtMost (k + l) (x * y) :=
  (roundsTo_mul hx.isFinite hy.isFinite).atMost (hx.abs_mul_le hy) hk

lemma AtMost.abs_div_le (hy : Within j l y) : |value x / value y| ≤ 2 ^ (k - j) := by
  rw [abs_div, abs_of_pos hy.pos, div_le_iff₀ hy.pos]
  calc |value x| ≤ 2 ^ k := hx.le
    _ = 2 ^ (k - j) * 2 ^ j := by rw [← two_zpow_add, sub_add_cancel]
    _ ≤ 2 ^ (k - j) * value y := mul_le_mul_of_nonneg_left hy.ge (two_zpow_pos _).le

lemma AtMost.div (hy : Within j l y) (hk : -1074 ≤ k - j ∧ k - j ≤ 1023) :
    AtMost (k - j) (x / y) :=
  (roundsTo_div hx.isFinite hy.isFinite hy.pos.ne').atMost (hx.abs_div_le hy) hk

end AtMost

lemma Within.mul (hx : Within i k x) (hy : Within j l y)
    (hk : -1074 ≤ i + j ∧ -1074 ≤ k + l ∧ k + l ≤ 1023) : Within (i + j) (k + l) (x * y) := by
  refine (roundsTo_mul hx.isFinite hy.isFinite).within (hx.abs_mul_le hy.toAtMost) ?_ hk
  rw [two_zpow_add]
  exact mul_le_mul hx.ge hy.ge (two_zpow_pos j).le hx.pos.le

lemma Within.div (hx : Within i k x) (hy : Within j l y)
    (hk : -1074 ≤ i - l ∧ -1074 ≤ k - j ∧ k - j ≤ 1023) : Within (i - l) (k - j) (x / y) := by
  refine (roundsTo_div hx.isFinite hy.isFinite hy.pos.ne').within (hx.abs_div_le hy) ?_ hk
  have hle : value y ≤ 2 ^ l := (le_abs_self _).trans hy.le
  rw [le_div_iff₀ hy.pos]
  calc (2 : ℚ) ^ (i - l) * value y ≤ 2 ^ (i - l) * 2 ^ l :=
        mul_le_mul_of_nonneg_left hle (two_zpow_pos _).le
    _ = 2 ^ i := by rw [← two_zpow_add, sub_add_cancel]
    _ ≤ value x := hx.ge

lemma Within.mono (h : Within j k x) (hij : i ≤ j) (hkl : k ≤ l) : Within i l x :=
  ⟨h.toAtMost.mono hkl, (two_zpow_le.mpr hij).trans h.ge⟩

/-! ### Literals -/

/-- A literal is between the powers of two that it is between. -/
lemma within_ofScientific {m e : ℕ} {negative : Bool}
    (hle : (m * 10 ^ (if negative then -(e : ℤ) else e) : ℚ) ≤ 2 ^ k)
    (hge : 2 ^ j ≤ (m * 10 ^ (if negative then -(e : ℤ) else e) : ℚ))
    (hjk : -1074 ≤ j ∧ -1074 ≤ k ∧ k ≤ 1023) : Within j k (Float.ofScientific m negative e) := by
  refine (roundsTo_ofScientific m negative e).within ?_ hge hjk
  rwa [abs_of_nonneg ((two_zpow_pos j).le.trans hge)]

/-- A number from one to thousand. -/
lemma within_of_le_of_le (hone : 1.0 ≤ x) (hthousand : x ≤ 1000.0) : Within 0 10 x := by
  have h₁ : Within 0 0 1.0 := within_ofScientific (by norm_num) (by norm_num) (by decide)
  have h₂ : Within 9 10 1000.0 := within_ofScientific (by norm_num) (by norm_num) (by decide)
  obtain ⟨hfinite, hge, hle⟩ := value_mem_of_le h₁.isFinite h₂.isFinite hone hthousand
  have hpos : 0 ≤ value x := h₁.pos.le.trans hge
  refine ⟨⟨hfinite, ?_⟩, h₁.ge.trans hge⟩
  rw [abs_of_nonneg hpos]
  exact hle.trans ((le_abs_self _).trans h₂.le)

end Metrology.Binary64
