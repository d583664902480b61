import Metrology.Decimal.Significant
import Metrology.Proofs.Decimal.Nearest
import Metrology.Proofs.Decimal.Reading

/-!
# The shortest digits read back

The digits chosen for a double stand for a number that rounds to it: seventeen of them always do,
and fewer are taken only if they do.
-/

namespace Metrology.Decimal

open Binary64

variable {m : ℕ} {q : ℤ} {narrow : Bool} {v : ℚ}

/-- The numbers that are read as `m · 2 ^ q`, as far as the neighbouring doubles leave room. -/
structure Recovers (m : ℕ) (q : ℤ) (narrow : Bool) (v : ℚ) : Prop where
  ge : m - (if narrow then 1 / 4 else 1 / 2) ≤ v / 2 ^ q
  le : v / 2 ^ q ≤ m + 1 / 2
  even : v / 2 ^ q = m - (if narrow then 1 / 4 else 1 / 2) ∨ v / 2 ^ q = m + 1 / 2 → m % 2 = 0

/-! ### Fractions -/

/-- A power as a fraction of two powers, one of them with the exponent zero. -/
lemma pow_toNat_div (b : ℚ) (hb : b ≠ 0) (e : ℤ) : b ^ e.toNat / b ^ (-e).toNat = b ^ e := by
  rw [← zpow_natCast, ← zpow_natCast, ← zpow_sub₀ hb]
  congr 1
  omega

lemma fraction_eq (m : ℕ) (q : ℤ) :
    ((fraction m q).1 : ℚ) / (fraction m q).2 = m * 2 ^ q ∧ 0 < (fraction m q).2 := by
  constructor
  · have h := pow_toNat_div 2 (by norm_num) q
    rw [fraction]
    change ((m * 2 ^ q.toNat : ℕ) : ℚ) / ((2 ^ (-q).toNat : ℕ) : ℚ) = m * 2 ^ q
    push_cast
    rw [mul_div_assoc, h]
  · exact Nat.pow_pos (by decide)

lemma inUnits_eq (num : ℕ) {den : ℕ} (hden : 0 < den) (step : ℤ) :
    ((inUnits num den step).1 : ℚ) / (inUnits num den step).2 = num / den / 10 ^ step ∧
      0 < (inUnits num den step).2 := by
  constructor
  · have h := pow_toNat_div 10 (by norm_num) step
    rw [inUnits]
    change ((num * 10 ^ (-step).toNat : ℕ) : ℚ) / ((den * 10 ^ step.toNat : ℕ) : ℚ) = _
    have hcast : (den : ℚ) ≠ 0 := by exact_mod_cast hden.ne'
    push_cast
    rw [← h]
    field_simp
  · exact Nat.mul_pos hden (Nat.pow_pos (by decide))

/-! ### The first digit -/

lemma lt_ten_zpow (n : ℕ) : ((n + 1 : ℕ) : ℚ) ≤ 10 ^ (digitCount n : ℤ) := by
  rw [zpow_natCast]
  exact_mod_cast lt_pow_length_toDigits n

lemma ten_zpow_le {n : ℕ} (hn : 0 < n) : (10 : ℚ) ^ (digitCount n - 1 : ℤ) ≤ n := by
  have hpos : 0 < digitCount n := Nat.length_toDigits_pos
  have hcast : (digitCount n - 1 : ℤ) = (digitCount n - 1 : ℕ) := by omega
  rw [hcast, zpow_natCast]
  exact_mod_cast pow_length_toDigits_le hn

/-- The leading exponent is the one of the power of ten below. -/
lemma ten_zpow_leadingExponent_le {num den : ℕ} (hnum : 0 < num) (hden : 0 < den) :
    (10 : ℚ) ^ leadingExponent num den ≤ num / den := by
  have hcast : (0 : ℚ) < den := by exact_mod_cast hden
  rw [leadingExponent, le_div_iff₀ hcast]
  split_ifs with hle
  · have hquotient : 0 < num / den := Nat.div_pos hle hden
    calc (10 : ℚ) ^ (digitCount (num / den) - 1 : ℤ) * den ≤ (num / den : ℕ) * den :=
          mul_le_mul_of_nonneg_right (ten_zpow_le hquotient) hcast.le
      _ ≤ num := by exact_mod_cast Nat.div_mul_le_self num den
  · have hnumcast : (0 : ℚ) < num := by exact_mod_cast hnum
    have hbelow : den ≤ ((den - 1) / num + 1) * num := by
      have := Nat.lt_div_mul_add (a := den - 1) hnum
      rw [Nat.add_mul, Nat.one_mul]
      omega
    have hbelow : (den : ℚ) ≤ ((den - 1) / num + 1 : ℕ) * num := by exact_mod_cast hbelow
    rw [zpow_neg, inv_mul_le_iff₀ (ten_zpow_pos _)]
    exact hbelow.trans (mul_le_mul_of_nonneg_right (lt_ten_zpow _) hnumcast.le)

/-! ### Rounding to a grid -/

open Float.Model.UnpackedFloat in
/-- Quotients are rounded here as they are inside a division of doubles. -/
lemma roundDiv_eq (num : ℕ) {den : ℕ} (hden : 0 < den) :
    roundDiv num den = (ExtendedMantissa.ofMantissaAndAccuracy (num / den)
      (accuracyOfFraction (num % den) den)).roundedMantissa := by
  rw [roundDiv, accuracyOfFraction]
  by_cases hzero : num % den = 0
  · rw [if_pos hzero, if_pos (.inl (by omega))]
    rfl
  rw [if_neg hzero]
  cases hcmp : compare (2 * (num % den)) den with
  | lt => rw [if_pos (.inl (Nat.compare_eq_lt.mp hcmp))]; rfl
  | gt =>
    have := Nat.compare_eq_gt.mp hcmp
    rw [if_neg (by omega)]
    rfl
  | eq =>
    have heq := Nat.compare_eq_eq.mp hcmp
    change _ = num / den + num / den % 2
    split_ifs with heven <;> omega

/-- Rounding a quotient takes the nearest natural number. -/
lemma isNearest_roundDiv (num : ℕ) {den : ℕ} (hden : 0 < den) :
    IsNearest (num / den) (roundDiv num den) := by
  have hcast : (den : ℚ) ≠ 0 := by exact_mod_cast hden.ne'
  have hparts : (num : ℚ) / den = (num / den : ℕ) + (num % den : ℕ) / den := by
    have h : (num : ℚ) = den * (num / den : ℕ) + (num % den : ℕ) := by
      exact_mod_cast (Nat.div_add_mod num den).symm
    conv_lhs => rw [h]
    field_simp
  rw [hparts, roundDiv_eq num hden]
  exact (represents_fraction (num / den) (Nat.mod_lt num hden)).isNearest

/-! ### Significands -/

lemma digitCount_mul_ten {n : ℕ} (hn : 0 < n) : digitCount (10 * n) = digitCount n + 1 := by
  have h := Nat.toDigits_append_toDigits (show 1 < 10 by decide) hn (show 0 < 10 by decide)
  rw [Nat.add_zero] at h
  rw [digitCount, ← h, List.length_append]
  rfl

/-- Zeros at the end are dropped without a change of the number. -/
lemma value_dropZeros (n : ℕ) (e : ℤ) :
    (dropZeros n : ℚ) * 10 ^ (e - digitCount (dropZeros n)) = n * 10 ^ (e - digitCount n) := by
  fun_induction dropZeros n with
  | case1 n h ih =>
    obtain ⟨k, rfl⟩ := Nat.dvd_of_mod_eq_zero h.2
    have hk : 0 < k := by omega
    have hten : (10 : ℚ) ^ (e - digitCount k) = 10 * 10 ^ (e - digitCount (10 * k)) := by
      rw [digitCount_mul_ten hk, ← zpow_one_add₀ (by norm_num)]
      congr 1
      push_cast
      ring
    rw [Nat.mul_div_cancel_left k (by decide)] at ih ⊢
    rw [ih, hten]
    push_cast
    ring
  | case2 n h => rfl

lemma value_ofUnits (d : ℕ) (step : ℤ) : (Significand.ofUnits d step).value = d * 10 ^ step := by
  have hexponent : step + digitCount d - 1 + 1 = step + digitCount d := by ring
  rw [Significand.value, Significand.ofUnits, hexponent, value_dropZeros]
  congr 2
  ring

/-! ### Enough digits -/

/-- Rounding to `k` digits moves a number by at most half a unit of its last digit. -/
lemma abs_value_rounded_sub_le (k : ℕ) (hm : 0 < m) (q : ℤ) :
    |(rounded k m q).value - m * 2 ^ q| ≤ m * 2 ^ q * 10 ^ (1 - k : ℤ) / 2 := by
  obtain ⟨hvalue, hden⟩ := fraction_eq m q
  have hnum : 0 < (fraction m q).1 := Nat.mul_pos hm (Nat.pow_pos (by decide))
  have hlead := ten_zpow_leadingExponent_le hnum hden
  rw [rounded]
  set L := leadingExponent (fraction m q).1 (fraction m q).2 with hL
  set step := L - k + 1 with hstep
  obtain ⟨hunits, hunitsden⟩ := inUnits_eq (fraction m q).1 hden step
  have hnear := isNearest_roundDiv (inUnits (fraction m q).1 (fraction m q).2 step).1 hunitsden
  rw [hunits, hvalue] at hnear
  rw [hvalue] at hlead
  have hpos := ten_zpow_pos step
  have hstepeq : (10 : ℚ) ^ step = 10 ^ L * 10 ^ (1 - k : ℤ) := by
    rw [← zpow_add₀ (by norm_num), hstep]
    congr 1
    ring
  have hbound : (10 : ℚ) ^ step ≤ m * 2 ^ q * 10 ^ (1 - k : ℤ) := by
    rw [hstepeq]
    exact mul_le_mul_of_nonneg_right hlead (ten_zpow_pos _).le
  have hge := hnear.ge
  have hle := hnear.le
  rw [le_div_iff₀ hpos] at hge
  rw [div_le_iff₀ hpos] at hle
  simp only [value_ofUnits]
  rw [abs_le]
  constructor <;> linarith

/-- Seventeen digits read back. -/
lemma recovers_rounded (hm : 0 < m) (hfits : m < 9007199254740992)
    (hnarrow : narrow = true → m = 4503599627370496) (q : ℤ) :
    Recovers m q narrow (rounded 17 m q).value := by
  have hpos := two_zpow_pos q
  have herror := abs_value_rounded_sub_le 17 hm q
  have hscale : |(rounded 17 m q).value / 2 ^ q - m| ≤ m * 10 ^ (1 - (17 : ℕ) : ℤ) / 2 := by
    have hdiv : (rounded 17 m q).value / 2 ^ q - m =
        ((rounded 17 m q).value - m * 2 ^ q) / 2 ^ q := by
      field_simp
    rw [hdiv, abs_div, abs_of_pos hpos, div_le_iff₀ hpos]
    linarith
  have hsmall : (10 : ℚ) ^ (1 - (17 : ℕ) : ℤ) = 1 / 10000000000000000 := by norm_num
  have hmcast : (m : ℚ) < 9007199254740992 := by exact_mod_cast hfits
  -- the error is less than a quarter of a step where the double below is near
  have hmargin : (m : ℚ) * (1 / 10000000000000000) / 2 < if narrow then 1 / 4 else 1 / 2 := by
    cases narrow with
    | false =>
      rw [if_neg (by decide)]
      linarith
    | true =>
      have hm' : (m : ℚ) = 4503599627370496 := by exact_mod_cast hnarrow rfl
      rw [if_pos rfl, hm']
      norm_num
  obtain ⟨hlow, hhigh⟩ := abs_le.mp (hsmall ▸ hscale)
  constructor
  · linarith
  · linarith
  · rintro (h | h) <;> exfalso <;> linarith

/-! ### Few digits -/

/-- What the test of a few digits compares, in units of a quarter of a step. -/
lemma bounds_of_readsBack {n d : ℕ} (h : readsBack m q narrow n d = true) :
    let P := Nat.pow 2 q.toNat
    let point := n * (4 * Nat.pow 2 (-q).toNat)
    let below := (4 * m * P - if narrow then P else 2 * P) * d
    let above := (4 * m * P + 2 * P) * d
    (below ≤ point ∧ point ≤ above) ∧ (m % 2 ≠ 0 → below < point ∧ point < above) := by
  intro P point below above
  have hhalf : (if narrow then 2 * Nat.pow 2 q.toNat / 2 else 2 * Nat.pow 2 q.toNat) =
      if narrow then P else 2 * P := by
    rw [Nat.mul_div_cancel_left _ two_pos]
  have htest : (if m % 2 = 0 then decide (below ≤ point) && decide (point ≤ above)
      else decide (below < point) && decide (point < above)) = true := by
    simp only [readsBack, fraction, hhalf] at h
    exact h
  split_ifs at htest with heven <;>
    rw [Bool.and_eq_true, decide_eq_true_eq, decide_eq_true_eq] at htest
  · exact ⟨htest, fun hne => absurd heven hne⟩
  · exact ⟨⟨htest.1.le, htest.2.le⟩, fun _ => htest⟩

/-- The test of a few digits is the interval of the double. -/
lemma recovers_of_readsBack {n d : ℕ} (hd : 0 < d) (hm : 0 < m)
    (h : readsBack m q narrow n d = true) : Recovers m q narrow (n / d) := by
  obtain ⟨⟨hge, hle⟩, hodd⟩ := bounds_of_readsBack h
  set P := Nat.pow 2 q.toNat with hP
  set D := Nat.pow 2 (-q).toNat with hD
  have hPpos : (0 : ℚ) < P := by exact_mod_cast (Nat.pow_pos (by decide) : 0 < P)
  have hDpos : (0 : ℚ) < D := by exact_mod_cast (Nat.pow_pos (by decide) : 0 < D)
  have hdpos : (0 : ℚ) < d := by exact_mod_cast hd
  have hpoint : ((n * (4 * D) : ℕ) : ℚ) = (n / d / 2 ^ q) * (4 * P * d) := by
    have hstep : (2 : ℚ) ^ q = P / D := by
      rw [← pow_toNat_div 2 (by norm_num) q, hP, hD]
      exact congrArg₂ _ (Nat.cast_pow 2 _).symm (Nat.cast_pow 2 _).symm
    rw [hstep]
    push_cast
    field_simp
  have hbelow : (((4 * m * P - if narrow then P else 2 * P) * d : ℕ) : ℚ) =
      (m - (if narrow then 1 / 4 else 1 / 2)) * (4 * P * d) := by
    have hle : (if narrow then P else 2 * P) ≤ 4 * m * P := by
      have : 4 * P ≤ 4 * m * P := Nat.mul_le_mul_right P (by omega)
      split_ifs <;> omega
    rw [Nat.cast_mul, Nat.cast_sub hle]
    split_ifs <;> push_cast <;> ring
  have habove : (((4 * m * P + 2 * P) * d : ℕ) : ℚ) = (m + 1 / 2) * (4 * P * d) := by
    push_cast
    ring
  have hpos : (0 : ℚ) < 4 * P * d := by positivity
  constructor
  · refine le_of_mul_le_mul_right ?_ hpos
    rw [← hpoint, ← hbelow]
    exact_mod_cast hge
  · refine le_of_mul_le_mul_right ?_ hpos
    rw [← hpoint, ← habove]
    exact_mod_cast hle
  · intro hend
    by_contra hne
    obtain ⟨hgt, hlt⟩ := hodd hne
    rw [← Nat.cast_lt (α := ℚ), hpoint, hbelow] at hgt
    rw [← Nat.cast_lt (α := ℚ), hpoint, habove] at hlt
    rcases hend with h | h
    · rw [h] at hgt
      exact lt_irrefl _ hgt
    · rw [h] at hlt
      exact lt_irrefl _ hlt

lemma recovers_of_pointOn? (hm : 0 < m) {k : ℕ} {s : Significand}
    (h : pointOn? m q narrow k = some s) : Recovers m q narrow s.value := by
  have hhit : ∀ p step, readsBack m q narrow (p * (inUnits 1 1 (-step)).1)
      (inUnits 1 1 (-step)).2 = true → Recovers m q narrow (Significand.ofUnits p step).value := by
    intro p step hreads
    obtain ⟨hunits, hden⟩ := inUnits_eq 1 one_pos (-step)
    have h := recovers_of_readsBack hden hm hreads
    rw [Nat.cast_mul, mul_div_assoc, hunits] at h
    rw [value_ofUnits]
    simpa using h
  simp only [pointOn?] at h
  split_ifs at h <;> obtain rfl := Option.some.inj h <;> exact hhit _ _ (by assumption)

/-- The digits chosen for a double are read back. -/
theorem recovers_shortest (hm : 0 < m) (hfits : m < 9007199254740992)
    (hnarrow : narrow = true → m = 4503599627370496) (q : ℤ) :
    Recovers m q narrow (shortest m q narrow).value := by
  rw [shortest]
  cases hfind : (List.range 17).findSome? fun i => pointOn? m q narrow (i + 1) with
  | none => exact recovers_rounded hm hfits hnarrow q
  | some s =>
    obtain ⟨i, -, hpoint⟩ := List.exists_of_findSome?_eq_some hfind
    exact recovers_of_pointOn? hm hpoint

end Metrology.Decimal
