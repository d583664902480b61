import Mathlib.Algebra.Order.Field.Power
import Mathlib.Algebra.Order.Field.Rat
import Mathlib.Tactic.FieldSimp
import Mathlib.Tactic.Linarith
import Mathlib.Tactic.NormNum
import Mathlib.Tactic.Positivity
import Mathlib.Tactic.Ring

/-!
# Rounding exact numbers

What a positive number rounds to, said without bits: a natural number of steps of the size that the
doubles around the number have, the nearest one, and of two the even one. Both the step and the
number of steps are unique, powers of two are never crossed, and a number that is a whole number of
steps rounds to itself.
-/

namespace Metrology.Binary64

/-! ### The nearest natural number -/

/-- Is `n` the natural number nearest to `z`, the even one of two? -/
structure IsNearest (z : ℚ) (n : ℕ) : Prop where
  ge : n - 1 / 2 ≤ z
  le : z ≤ n + 1 / 2
  even : z = n - 1 / 2 ∨ z = n + 1 / 2 → n % 2 = 0

lemma isNearest_natCast (n : ℕ) : IsNearest n n where
  ge := by linarith
  le := by linarith
  even := by
    rintro (h | h) <;> linarith

lemma IsNearest.mono {z w : ℚ} {n k : ℕ} (hz : IsNearest z n) (hw : IsNearest w k) (h : z ≤ w) :
    n ≤ k := by
  by_contra hlt
  have hstep : k + 1 ≤ n := by omega
  have hcast : (k : ℚ) + 1 ≤ n := by exact_mod_cast hstep
  -- both numbers lie half-way between `k` and `k + 1`, which are not both even
  have hk := hw.even (.inr (by linarith [hz.ge, hw.le]))
  have hn := hz.even (.inl (by linarith [hz.ge, hw.le]))
  have hnext : (n : ℚ) ≤ k + 1 := by linarith [hz.ge, hw.le]
  have hnext : n ≤ k + 1 := by exact_mod_cast hnext
  omega

lemma IsNearest.unique {z : ℚ} {n k : ℕ} (hn : IsNearest z n) (hk : IsNearest z k) : n = k :=
  le_antisymm (hn.mono hk le_rfl) (hk.mono hn le_rfl)

lemma IsNearest.le_of_le {z : ℚ} {n k : ℕ} (h : IsNearest z n) (hz : z ≤ k) : n ≤ k :=
  h.mono (isNearest_natCast k) hz

lemma IsNearest.le_of_ge {z : ℚ} {n k : ℕ} (h : IsNearest z n) (hz : k ≤ z) : k ≤ n :=
  (isNearest_natCast k).mono h hz

lemma IsNearest.eq_of_eq {z : ℚ} {n k : ℕ} (h : IsNearest z n) (hz : z = k) : n = k :=
  h.unique (hz ▸ isNearest_natCast k)

/-! ### Steps of a power of two -/

lemma two_zpow_pos (e : ℤ) : (0 : ℚ) < 2 ^ e := zpow_pos (by norm_num) e

lemma two_zpow_le {a b : ℤ} : (2 : ℚ) ^ a ≤ 2 ^ b ↔ a ≤ b := zpow_le_zpow_iff_right₀ (by norm_num)

lemma two_zpow_lt {a b : ℤ} : (2 : ℚ) ^ a < 2 ^ b ↔ a < b := zpow_lt_zpow_iff_right₀ (by norm_num)

lemma two_zpow_add (a b : ℤ) : (2 : ℚ) ^ (a + b) = 2 ^ a * 2 ^ b := zpow_add₀ (by norm_num) a b

/-- A power of two is a whole number of steps of any smaller power of two. -/
lemma exists_steps {e k : ℤ} (h : e ≤ k) : ∃ N : ℕ, (2 : ℚ) ^ k = N * 2 ^ e := by
  refine ⟨2 ^ (k - e).toNat, ?_⟩
  have hk : k = (k - e).toNat + e := by omega
  conv_lhs => rw [hk, two_zpow_add, zpow_natCast]
  push_cast
  rfl

/-- The number `y` rounds to `n` steps of `2 ^ e`: the step is the one that doubles of the size of
`y` have, which leaves at most 53 bits to `n`. -/
structure Rounds (y : ℚ) (n : ℕ) (e : ℤ) : Prop where
  least : -1074 ≤ e
  fits : y < 9007199254740992 * 2 ^ e
  fills : e = -1074 ∨ 4503599627370496 * 2 ^ e ≤ y
  nearest : IsNearest (y / 2 ^ e) n

/-- The size of the numbers with a given step. -/
lemma two_zpow_of_fits (e : ℤ) : 9007199254740992 * (2 : ℚ) ^ e = 2 ^ (e + 53) := by
  rw [two_zpow_add]
  norm_num
  ring

lemma two_zpow_of_fills (e : ℤ) : 4503599627370496 * (2 : ℚ) ^ e = 2 ^ (e + 52) := by
  rw [two_zpow_add]
  norm_num
  ring

variable {y : ℚ} {n : ℕ} {e k : ℤ}

/-- The step is no larger than the number needs. -/
lemma Rounds.step_le (h : Rounds y n e) (hy : y < 2 ^ (k + 53)) (hk : -1074 ≤ k) : e ≤ k := by
  rcases h.fills with he | he
  · omega
  · rw [two_zpow_of_fills] at he
    have := two_zpow_lt.mp (he.trans_lt hy)
    omega

lemma Rounds.le_fits (h : Rounds y n e) : n ≤ 9007199254740992 := by
  refine h.nearest.le_of_le ?_
  rw [div_le_iff₀ (two_zpow_pos e)]
  exact h.fits.le

lemma Rounds.fills_le (h : Rounds y n e) : e = -1074 ∨ 4503599627370496 ≤ n := by
  refine h.fills.imp_right fun he => h.nearest.le_of_ge ?_
  rw [le_div_iff₀ (two_zpow_pos e)]
  exact he

lemma Rounds.unique {m : ℕ} {q : ℤ} (h : Rounds y n e) (h' : Rounds y m q) : n = m ∧ e = q := by
  have hstep : e = q := by
    refine le_antisymm (h.step_le ?_ h'.least) (h'.step_le ?_ h.least)
    · exact two_zpow_of_fits q ▸ h'.fits
    · exact two_zpow_of_fits e ▸ h.fits
  subst hstep
  exact ⟨h.nearest.unique h'.nearest, rfl⟩

/-- Rounding does not cross a power of two from below. -/
lemma Rounds.le_two_zpow (h : Rounds y n e) (hy : y ≤ 2 ^ k) (hk : -1074 ≤ k) :
    n * 2 ^ e ≤ (2 : ℚ) ^ k := by
  have hek : e ≤ k := h.step_le (hy.trans_lt (two_zpow_lt.mpr (by omega))) hk
  obtain ⟨N, hN⟩ := exists_steps hek
  have hn : n ≤ N := by
    refine h.nearest.le_of_le ?_
    rw [div_le_iff₀ (two_zpow_pos e), ← hN]
    exact hy
  rw [hN]
  exact mul_le_mul_of_nonneg_right (by exact_mod_cast hn) (two_zpow_pos e).le

/-- Rounding does not cross a power of two from above. -/
lemma Rounds.two_zpow_le (h : Rounds y n e) (hy : 2 ^ k ≤ y) (hk : -1074 ≤ k) :
    (2 : ℚ) ^ k ≤ n * 2 ^ e := by
  by_cases hek : e ≤ k
  · obtain ⟨N, hN⟩ := exists_steps hek
    have hn : N ≤ n := by
      refine h.nearest.le_of_ge ?_
      rw [le_div_iff₀ (two_zpow_pos e), ← hN]
      exact hy
    rw [hN]
    exact mul_le_mul_of_nonneg_right (by exact_mod_cast hn) (two_zpow_pos e).le
  · rcases h.fills_le with he | he
    · omega
    · have hone : (1 : ℚ) ≤ n := by exact_mod_cast (by omega : 1 ≤ n)
      calc (2 : ℚ) ^ k ≤ 2 ^ e := Binary64.two_zpow_le.mpr (by omega)
        _ ≤ n * 2 ^ e := le_mul_of_one_le_left (two_zpow_pos e).le hone

/-- A whole number of steps, if they are few enough, rounds to itself. -/
lemma Rounds.eq_of_eq {m : ℕ} {q : ℤ} (h : Rounds y n e) (hy : y = m * 2 ^ q)
    (hm : m < 9007199254740992) (hq : -1074 ≤ q) : n * 2 ^ e = y := by
  have hcast : (m : ℚ) < 9007199254740992 := by exact_mod_cast hm
  have heq : e ≤ q := by
    refine h.step_le ?_ hq
    rw [hy, ← two_zpow_of_fits]
    exact mul_lt_mul_of_pos_right hcast (two_zpow_pos q)
  obtain ⟨N, hN⟩ := exists_steps heq
  have hn : n = m * N := by
    refine h.nearest.eq_of_eq ?_
    rw [div_eq_iff (two_zpow_pos e).ne', hy, hN]
    push_cast
    ring
  rw [hn, hy, hN]
  push_cast
  ring

/-- The parts of a double are what its value rounds to. -/
lemma rounds_of_parts (hm : n < 9007199254740992) (he : -1074 ≤ e)
    (hfill : e = -1074 ∨ 4503599627370496 ≤ n) : Rounds (n * 2 ^ e) n e where
  least := he
  fits := mul_lt_mul_of_pos_right (by exact_mod_cast hm) (two_zpow_pos e)
  fills := hfill.imp_right fun h =>
    mul_le_mul_of_nonneg_right (by exact_mod_cast h) (two_zpow_pos e).le
  nearest := by
    rw [mul_div_cancel_right₀ _ (two_zpow_pos e).ne']
    exact isNearest_natCast n

end Metrology.Binary64
