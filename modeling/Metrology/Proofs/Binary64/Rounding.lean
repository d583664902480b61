import Mathlib
import Metrology.Proofs.Binary64.Nearest

/-!
# Rounding of mantissas

Doubles compute with a mantissa, an exponent and what is known of the bits that were cut off, and
round at the end. The result is what the exact number rounds to, for every mantissa with enough
bits.
-/

namespace Metrology.Binary64

open Float.Model Float.Model.UnpackedFloat

/-! ### What is known of a number behind its mantissa -/

/-- The mantissa and the bit behind it. -/
def known (em : ExtendedMantissa) : ℚ := em.mantissa + if em.roundBit then 1 / 2 else 0

/-- An extended mantissa knows `z` down to halves, and whether that is all of it. -/
structure Represents (em : ExtendedMantissa) (z : ℚ) : Prop where
  ge : known em ≤ z
  lt : z < known em + 1 / 2
  sticky : em.stickyBit = true ↔ z ≠ known em

variable {em : ExtendedMantissa} {z : ℚ}

lemma mantissa_le_known (em : ExtendedMantissa) : em.mantissa ≤ known em := by
  unfold known
  split <;> linarith

lemma known_le (em : ExtendedMantissa) : known em ≤ em.mantissa + 1 / 2 := by
  unfold known
  split <;> linarith

lemma represents_exact (m : ℕ) : Represents (.ofMantissaAndAccuracy m .exact) m where
  ge := by simp [known, ExtendedMantissa.ofMantissaAndAccuracy]
  lt := by simp [known, ExtendedMantissa.ofMantissaAndAccuracy]
  sticky := by simp [known, ExtendedMantissa.ofMantissaAndAccuracy]

/-- A quotient is represented by what the division of natural numbers leaves. -/
lemma represents_fraction (m : ℕ) {num den : ℕ} (h : num < den) :
    Represents (.ofMantissaAndAccuracy m (accuracyOfFraction num den)) (m + num / den) := by
  have hden : (0 : ℚ) < den := by exact_mod_cast Nat.zero_lt_of_lt h
  have hlt : (num : ℚ) / den < 1 := by
    rw [div_lt_one hden]
    exact_mod_cast h
  have hpos : 0 < num → (0 : ℚ) < num / den := fun h => div_pos (by exact_mod_cast h) hden
  by_cases hnum : num = 0
  · subst hnum
    simpa [accuracyOfFraction] using represents_exact m
  rw [accuracyOfFraction, if_neg hnum]
  have hpos := hpos (Nat.pos_of_ne_zero hnum)
  cases hcmp : compare (2 * num) den with
  | lt =>
    have hhalf : (num : ℚ) / den < 1 / 2 := by
      have : (2 * num : ℚ) < den := by exact_mod_cast Nat.compare_eq_lt.mp hcmp
      rw [div_lt_div_iff₀ hden (by norm_num)]
      linarith
    constructor <;> simp [known, ExtendedMantissa.ofMantissaAndAccuracy] <;> grind
  | eq =>
    have hhalf : (num : ℚ) / den = 1 / 2 := by
      have : (2 * num : ℚ) = den := by exact_mod_cast Nat.compare_eq_eq.mp hcmp
      rw [div_eq_div_iff hden.ne' (by norm_num)]
      linarith
    constructor <;> simp [known, ExtendedMantissa.ofMantissaAndAccuracy, hhalf]
  | gt =>
    have hhalf : 1 / 2 < (num : ℚ) / den := by
      have : (den : ℚ) < 2 * num := by exact_mod_cast Nat.compare_eq_gt.mp hcmp
      rw [div_lt_div_iff₀ (by norm_num) hden]
      linarith
    constructor <;> simp [known, ExtendedMantissa.ofMantissaAndAccuracy] <;> grind

lemma known_shiftRightOne (em : ExtendedMantissa) : known em.shiftRightOne = em.mantissa / 2 := by
  have hparts : (em.mantissa : ℚ) = 2 * (em.mantissa / 2 : ℕ) + (em.mantissa % 2 : ℕ) := by
    exact_mod_cast (Nat.div_add_mod em.mantissa 2).symm
  rw [hparts]
  rcases Nat.mod_two_eq_zero_or_one em.mantissa with h | h
  · simp [known, ExtendedMantissa.shiftRightOne, h]
  · simp [known, ExtendedMantissa.shiftRightOne, h]
    ring

lemma Represents.shiftRightOne (h : Represents em z) : Represents em.shiftRightOne (z / 2) where
  ge := by
    rw [known_shiftRightOne]
    linarith [h.ge, mantissa_le_known em]
  lt := by
    rw [known_shiftRightOne]
    linarith [h.lt, known_le em]
  sticky := by
    rw [known_shiftRightOne]
    have hge := h.ge
    have hsticky := h.sticky
    have hhalves : z / 2 = em.mantissa / 2 ↔ z = em.mantissa := by
      constructor <;> intro h <;> linarith
    -- a round bit alone keeps the number away from its mantissa
    cases hround : em.roundBit <;>
      simp only [known, hround, ExtendedMantissa.shiftRightOne, ne_eq, hhalves, Bool.false_or,
        Bool.true_or, true_iff, if_true, Bool.false_eq_true, if_false, add_zero] at hge hsticky ⊢
    · exact hsticky
    · intro hz
      linarith

lemma Represents.shiftRight (h : Represents em z) (k : ℕ) : Represents (em >>> k) (z / 2 ^ k) := by
  change Represents (k.repeat ExtendedMantissa.shiftRightOne em) (z / 2 ^ k)
  induction k with
  | zero => simpa [Nat.repeat] using h
  | succ k ih =>
    rw [Nat.repeat, pow_succ, ← div_div]
    exact ih.shiftRightOne

/-- The bits kept decide the nearest natural number. -/
lemma Represents.isNearest (h : Represents em z) : IsNearest z em.roundedMantissa := by
  obtain ⟨m, round, sticky⟩ := em
  obtain ⟨hge, hlt, hsticky⟩ := h
  cases round <;> cases sticky <;> simp only [known, ExtendedMantissa.roundedMantissa,
    ExtendedMantissa.accuracy, Accuracy.roundToNearestEven, Bool.false_eq_true, if_false, if_true,
    add_zero, ne_eq, false_iff, true_iff, not_not] at hge hlt hsticky ⊢
  · subst hsticky
    exact isNearest_natCast m
  · have := lt_of_le_of_ne hge (Ne.symm hsticky)
    exact ⟨by linarith, by linarith, by rintro (h | h) <;> linarith⟩
  · -- half-way, where the even one of the two neighbours is taken
    rcases Nat.mod_two_eq_zero_or_one m with h | h <;> rw [h] <;>
      exact ⟨by push_cast; linarith, by push_cast; linarith, by intro _; omega⟩
  · have := lt_of_le_of_ne hge (Ne.symm hsticky)
    refine ⟨by push_cast; linarith, by push_cast; linarith, ?_⟩
    push_cast
    rintro (h | h) <;> linarith

/-! ### Rounding to 53 bits -/

/-- The double of a given sign with the value `n · 2 ^ e`, where `n` has 53 bits or is the next
number after them. -/
def ofSteps (s : Sign) (n : ℕ) (e : ℤ) : UnpackedFloat :=
  if h : n = 0 then .zero s
  else if n = 9007199254740992 then .finite s 4503599627370496 (e + 1) (by decide)
  else .finite s n e (Nat.pos_of_ne_zero h)

lemma targetExponent_eq (t : ℤ) : Format.binary64.targetExponent t = max (t - 53) (-1074) := rfl

lemma log2_bounds {m : ℕ} (h : m ≠ 0) : (2 : ℚ) ^ (m.log2 : ℤ) ≤ m := by
  rw [zpow_natCast]
  exact_mod_cast Nat.log2_self_le h

lemma lt_log2 (m : ℕ) : ((m + 1 : ℕ) : ℚ) ≤ 2 ^ (m.log2 + 1 : ℤ) := by
  have h : m + 1 ≤ 2 ^ (m.log2 + 1) := Nat.lt_log2_self
  rw [← Nat.cast_succ, zpow_natCast]
  exact_mod_cast h

/-- After the first rounding the mantissa fits, except that it may be the first one that does
not. -/
lemma shiftToTargetExponent_exact {n : ℕ} {e : ℤ} (hn : n ≤ 9007199254740992) (he : -1074 ≤ e) :
    (shiftToTargetExponent .binary64 n e .exact).1.mantissa =
        (if n = 9007199254740992 then 4503599627370496 else n) ∧
      (shiftToTargetExponent .binary64 n e .exact).2 =
        if n = 9007199254740992 then e + 1 else e := by
  by_cases hmax : n = 9007199254740992
  · have htarget : Format.binary64.targetExponent (totalExponent n e) = e + 1 := by
      have hlog : Nat.log2 9007199254740992 = 53 := by decide
      rw [hmax, totalExponent, hlog, targetExponent_eq]
      omega
    have hone : (e + 1 - e).toNat = 1 := by omega
    rw [if_pos hmax, if_pos hmax, shiftToTargetExponent, htarget, shiftToExponent, hone, hmax]
    exact ⟨rfl, rfl⟩
  · have htarget : Format.binary64.targetExponent (totalExponent n e) ≤ e := by
      have hlog : n.log2 < 53 := by
        by_cases hzero : n = 0
        · subst hzero
          decide
        · exact (Nat.log2_lt hzero).mpr (by omega)
      rw [targetExponent_eq, totalExponent]
      omega
    have hnone : (Format.binary64.targetExponent (totalExponent n e) - e).toNat = 0 := by omega
    rw [if_neg hmax, if_neg hmax, shiftToTargetExponent, shiftToExponent, hnone]
    exact ⟨rfl, by simp⟩

/-- The mantissa that remains when all bits below the step are shifted out is what the number rounds
to. -/
lemma Represents.rounds {m k : ℕ} {e q : ℤ} {acc : Accuracy}
    (h : Represents (.ofMantissaAndAccuracy m acc) z) (hm : (m : ℚ) ≤ z ∧ z < (m + 1 : ℕ))
    (hq : q = max (m.log2 + 1 + e - 53) (-1074)) (hkq : q = k + e) :
    Rounds (z * 2 ^ e) (ExtendedMantissa.ofMantissaAndAccuracy m acc >>> k).roundedMantissa q := by
  refine ⟨by omega, ?_, ?_, ?_⟩
  · rw [two_zpow_of_fits]
    calc z * 2 ^ e < (m + 1 : ℕ) * 2 ^ e := mul_lt_mul_of_pos_right hm.2 (two_zpow_pos e)
      _ ≤ 2 ^ (m.log2 + 1 : ℤ) * 2 ^ e :=
        mul_le_mul_of_nonneg_right (lt_log2 m) (two_zpow_pos e).le
      _ = 2 ^ (m.log2 + 1 + e : ℤ) := (two_zpow_add _ _).symm
      _ ≤ 2 ^ (q + 53) := two_zpow_le.mpr (by omega)
  · by_cases hsub : q = -1074
    · exact .inl hsub
    · right
      have hne : m ≠ 0 := by
        rintro rfl
        simp at hq
        omega
      rw [two_zpow_of_fills]
      calc (2 : ℚ) ^ (q + 52) = 2 ^ (m.log2 + e : ℤ) := by congr 1; omega
        _ = 2 ^ (m.log2 : ℤ) * 2 ^ e := two_zpow_add _ _
        _ ≤ m * 2 ^ e := mul_le_mul_of_nonneg_right (log2_bounds hne) (two_zpow_pos e).le
        _ ≤ z * 2 ^ e := mul_le_mul_of_nonneg_right hm.1 (two_zpow_pos e).le
  · have hscale : z * 2 ^ e / 2 ^ q = z / 2 ^ k := by
      rw [hkq, two_zpow_add, zpow_natCast, mul_div_mul_right _ _ (two_zpow_pos e).ne']
    rw [hscale]
    exact (h.shiftRight k).isNearest

/-- A mantissa with enough bits, and what is known behind it, are rounded as the number they stand
for is. -/
lemma rounds_of_represents {m : ℕ} {e : ℤ} {acc : Accuracy}
    (h : Represents (.ofMantissaAndAccuracy m acc) z)
    (hm : (m : ℚ) ≤ z ∧ z < (m + 1 : ℕ))
    (he : e ≤ Format.binary64.targetExponent (totalExponent m e)) (s : Sign) :
    ∃ n q, Rounds (z * 2 ^ e) n q ∧ roundWithAccuracy .binary64 s m e acc = ofSteps s n q := by
  set q := Format.binary64.targetExponent (totalExponent m e) with hq
  have hqmax : q = max (m.log2 + 1 + e - 53) (-1074) := by rw [hq, targetExponent_eq, totalExponent]
  have hleast : -1074 ≤ q := by omega
  set k := (q - e).toNat with hk
  have hkq : q = k + e := by omega
  have hround := h.rounds hm hqmax hkq
  refine ⟨_, q, hround, ?_⟩
  have hfirst : shiftToTargetExponent .binary64 m e acc =
      (ExtendedMantissa.ofMantissaAndAccuracy m acc >>> k, q) := by
    rw [shiftToTargetExponent, ← hq, shiftToExponent, ← hk]
    congr 1
    omega
  obtain ⟨hsecond, hexponent⟩ := shiftToTargetExponent_exact hround.le_fits hleast
  simp only [roundWithAccuracy, hfirst, hsecond, hexponent, ofSteps]
  by_cases hmax :
      (ExtendedMantissa.ofMantissaAndAccuracy m acc >>> k).roundedMantissa = 9007199254740992
  · simp [hmax]
  · simp [hmax]

lemma log2_shiftLeft {m : ℕ} (hm : m ≠ 0) (k : ℕ) : (m <<< k).log2 = m.log2 + k := by
  induction k with
  | zero => rfl
  | succ k ih =>
    have hne : m <<< k ≠ 0 := by simpa [Nat.shiftLeft_eq] using hm
    rw [Nat.shiftLeft_succ, Nat.log2_two_mul hne, ih, Nat.add_assoc]

/-- An exact mantissa is given enough bits before it is rounded. -/
lemma rounds_round {m : ℕ} (hm : m ≠ 0) (e : ℤ) (s : Sign) :
    ∃ n q, Rounds (m * 2 ^ e) n q ∧ UnpackedFloat.round .binary64 s m e = ofSteps s n q := by
  set t := Format.binary64.targetExponent (totalExponent m e) with ht
  set k := (e - t).toNat with hk
  have htotal : totalExponent (m <<< k) (e - k) = totalExponent m e := by
    rw [totalExponent, totalExponent, log2_shiftLeft hm]
    push_cast
    ring
  have hvalue : ((m <<< k : ℕ) : ℚ) * 2 ^ (e - k) = m * 2 ^ e := by
    rw [Nat.shiftLeft_eq, zpow_sub₀ (by norm_num), zpow_natCast]
    push_cast
    field_simp
  have hround := rounds_of_represents (e := e - k) (represents_exact (m <<< k))
    ⟨le_rfl, by push_cast; linarith⟩ (by rw [htotal, ← ht]; omega) s
  rw [hvalue] at hround
  exact hround

/-! ### Signs -/

/-- May a double of this sign stand for `v`? Zero has both signs. -/
def SignOf : Sign → ℚ → Prop
  | .positive, v => 0 ≤ v
  | .negative, v => v ≤ 0

variable {s t : Sign} {v w : ℚ}

lemma SignOf.mul (hv : SignOf s v) (hw : SignOf t w) : SignOf (s * t) (v * w) := by
  cases s <;> cases t
  · exact mul_nonneg_of_nonpos_of_nonpos hv hw
  · exact mul_nonpos_of_nonpos_of_nonneg hv hw
  · exact mul_nonpos_of_nonneg_of_nonpos hv hw
  · exact mul_nonneg hv hw

lemma SignOf.div (hv : SignOf s v) (hw : SignOf t w) : SignOf (s / t) (v / w) := by
  cases s <;> cases t
  · exact div_nonneg_of_nonpos hv hw
  · exact div_nonpos_of_nonpos_of_nonneg hv hw
  · exact div_nonpos_of_nonneg_of_nonpos hv hw
  · exact div_nonneg hv hw

lemma SignOf.neg (hv : SignOf s v) : SignOf (-s) (-v) := by
  cases s
  · exact neg_nonneg.mpr hv
  · exact neg_nonpos.mpr hv

lemma signOf_apply (s : Sign) (m : ℕ) (e : ℤ) : SignOf s (s.apply m * 2 ^ e) := by
  have h : (0 : ℚ) ≤ m * 2 ^ e := by positivity
  cases s
  · simpa [SignOf, Sign.apply] using h
  · simpa [SignOf, Sign.apply] using h

/-- The sum of two mantissas, which may be negative, is rounded as any other. -/
lemma rounds_normalize {m : ℤ} (hm : m ≠ 0) (e : ℤ) (zero : Sign) :
    ∃ s n q, SignOf s (m * 2 ^ e) ∧ Rounds |(m * 2 ^ e : ℚ)| n q ∧
      UnpackedFloat.normalize .binary64 m e zero = ofSteps s n q := by
  have habs : |(m * 2 ^ e : ℚ)| = (m.natAbs : ℕ) * 2 ^ e := by
    rw [abs_mul, abs_of_pos (two_zpow_pos e), Nat.cast_natAbs, Int.cast_abs]
  rw [habs]
  rcases lt_or_gt_of_ne hm with h | h
  · obtain ⟨n, q, hround, heq⟩ := rounds_round (m := m.natAbs) (by omega) e .negative
    have hneg : (-m).toNat = m.natAbs := by omega
    refine ⟨.negative, n, q, ?_, hround, ?_⟩
    · exact mul_nonpos_of_nonpos_of_nonneg (by exact_mod_cast h.le) (two_zpow_pos e).le
    · rw [UnpackedFloat.normalize, Int.compare_eq_lt.mpr h, hneg]
      exact heq
  · obtain ⟨n, q, hround, heq⟩ := rounds_round (m := m.natAbs) (by omega) e .positive
    have hpos : m.toNat = m.natAbs := by omega
    refine ⟨.positive, n, q, ?_, hround, ?_⟩
    · exact mul_nonneg (by exact_mod_cast h.le) (two_zpow_pos e).le
    · rw [UnpackedFloat.normalize, Int.compare_eq_gt.mpr h, hpos]
      exact heq

end Metrology.Binary64
