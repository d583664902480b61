import Metrology.Decimal.Literal
import Metrology.Proofs.Binary64.Arithmetic

/-!
# Reading decimal numbers

A decimal number is read as the double that it rounds to, whatever its size: numbers with few digits
by one exact operation on two doubles, the others by one rounding of their mantissa, and those that
are out of range without a computation.
-/

namespace Metrology.Binary64

open Float.Model Float.Model.UnpackedFloat

variable {v : ℚ} {k : ℤ}

/-! ### Numbers out of range -/

/-- Every positive number rounds to some mantissa. -/
lemma exists_rounds (hv : 0 < v) : ∃ n e, Rounds v n e := by
  have hpos : 0 < v.num.toNat := by
    have := Rat.num_pos.mpr hv
    omega
  obtain ⟨n, e, hround, -⟩ := rounds_div hpos v.den_pos 0 0 .positive
  have hnum : ((v.num.toNat : ℕ) : ℚ) = v.num := by
    have h : ((v.num.toNat : ℕ) : ℤ) = v.num := Int.toNat_of_nonneg (Rat.num_nonneg.mpr hv.le)
    exact_mod_cast congrArg (Int.cast : ℤ → ℚ) h
  rw [zpow_zero, mul_one, mul_one, hnum, Rat.num_div_den] at hround
  exact ⟨n, e, hround⟩

/-- A number too large for a double is infinite. -/
lemma roundsTo_infinity (hv : 2 ^ k ≤ v) (hk : 1024 ≤ k) :
    RoundsTo v (.ofModel (.pack (.infinity .positive))) := by
  have hpos : 0 < v := (two_zpow_pos k).trans_le hv
  obtain ⟨n, e, hround⟩ := exists_rounds hpos
  have hn : (2 : ℚ) ^ k ≤ n * 2 ^ e := hround.two_zpow_le hv (by omega)
  have hpack : ∀ {m : ℕ} {q : ℤ} (hm : 0 < m), 972 ≤ q →
      Float.Model.pack (.finite .positive m q hm) = .pack (.infinity .positive) := by
    intro m q hm hq
    have h : pack .binary64 (.finite .positive m q hm) = pack .binary64 (.infinity .positive) := by
      rw [pack_finite, if_pos (by omega)]
      rfl
    simp only [Float.Model.pack, h]
  refine ⟨.positive, n, e, hpos.le, by rwa [abs_of_pos hpos], ?_⟩
  rw [ofSteps]
  split_ifs with hzero hmax
  · rw [hzero, Nat.cast_zero, zero_mul] at hn
    exact absurd hn (two_zpow_pos k).not_ge
  · rw [hpack]
    have hle : (2 : ℚ) ^ k ≤ 2 ^ (e + 53) := by
      rw [← two_zpow_of_fits]
      exact_mod_cast hmax ▸ hn
    have := two_zpow_le.mp hle
    omega
  · rw [hpack]
    have hfits : (n : ℚ) < 9007199254740992 := by
      exact_mod_cast lt_of_le_of_ne hround.le_fits hmax
    have hlt : (2 : ℚ) ^ k < 2 ^ (e + 53) := by
      rw [← two_zpow_of_fits]
      exact hn.trans_lt (mul_lt_mul_of_pos_right hfits (two_zpow_pos e))
    have := two_zpow_lt.mp hlt
    omega

/-- A number below half of the smallest double is zero. -/
lemma roundsTo_zero_of_le (hpos : 0 < v) (hv : v ≤ 2 ^ k) (hk : k ≤ -1076) :
    RoundsTo v (.ofModel (.pack (.zero .positive))) := by
  obtain ⟨n, e, hround⟩ := exists_rounds hpos
  have he : e = -1074 := by
    refine hround.fills.resolve_right ?_
    rw [two_zpow_of_fills]
    intro h
    have := two_zpow_le.mp (h.trans hv)
    have := hround.least
    omega
  have hn : n = 0 := by
    have hhalf : v / 2 ^ e ≤ 1 / 4 := by
      rw [div_le_iff₀ (two_zpow_pos e)]
      calc v ≤ 2 ^ (-1076 : ℤ) := hv.trans (two_zpow_le.mpr hk)
        _ = 2 ^ (-2 : ℤ) * 2 ^ e := by rw [← two_zpow_add, he]; rfl
        _ = 1 / 4 * 2 ^ e := by norm_num
    have hge := hround.nearest.ge
    by_contra hne
    have : (1 : ℚ) ≤ n := by exact_mod_cast Nat.pos_of_ne_zero hne
    linarith
  refine ⟨.positive, n, e, hpos.le, by rwa [abs_of_pos hpos], ?_⟩
  rw [ofSteps, dif_pos hn]

/-! ### Powers of ten -/

lemma ten_zpow_pos (e : ℤ) : (0 : ℚ) < 10 ^ e := zpow_pos (by norm_num) e

/-- A power of ten is at least the same power of eight. -/
lemma two_zpow_le_ten_zpow (e : ℕ) : (2 : ℚ) ^ (3 * e : ℤ) ≤ 10 ^ (e : ℤ) := by
  rw [zpow_mul, zpow_natCast, zpow_natCast]
  exact pow_le_pow_left₀ (by norm_num) (by norm_num) e

lemma ten_zpow_neg_le (e : ℕ) : (10 : ℚ) ^ (-(e : ℤ)) ≤ 2 ^ (-(3 * e : ℤ)) := by
  rw [zpow_neg, zpow_neg]
  exact inv_anti₀ (two_zpow_pos _) (two_zpow_le_ten_zpow e)

/-- A whole number of 53 bits, with a few zeros behind them, is a double. -/
lemma value_ofNat {n m q : ℕ} (hn : n = m * 2 ^ q) (hm : m < 9007199254740992) (hq : q ≤ 22) :
    (Float.ofModel (.ofNat n)).isFinite = true ∧ value (.ofModel (.ofNat n)) = n := by
  have hround : RoundsTo n (.ofModel (.ofNat n)) := by
    have h := roundsTo_normalize n 0
    rw [zpow_zero, mul_one] at h
    exact_mod_cast h
  have hvalue : (n : ℚ) = m * 2 ^ (q : ℤ) := by
    rw [hn, zpow_natCast]
    push_cast
    rfl
  have hle : (n : ℚ) ≤ 2 ^ (100 : ℤ) := by
    have hcast : (m : ℚ) ≤ 9007199254740992 := by exact_mod_cast hm.le
    rw [hvalue]
    calc (m : ℚ) * 2 ^ (q : ℤ) ≤ 9007199254740992 * 2 ^ (q : ℤ) :=
          mul_le_mul_of_nonneg_right hcast (two_zpow_pos _).le
      _ = 2 ^ (q + 53 : ℤ) := two_zpow_of_fits q
      _ ≤ 2 ^ (100 : ℤ) := two_zpow_le.mpr (by omega)
  exact hround.value_eq hm (by omega) hvalue hle (by decide)

lemma value_toUInt64 {m : ℕ} (hm : m < 9007199254740992) :
    m.toUInt64.toFloat.isFinite = true ∧ value m.toUInt64.toFloat = m := by
  have heq : m.toUInt64.toFloat = .ofModel (.ofNat m) := by
    have hm' : m.toUInt64.toNat = m := by
      rw [Nat.toUInt64, UInt64.toNat_ofNat']
      omega
    rw [UInt64.toFloat, Float.Model.ofUInt64, UnpackedFloat.ofUInt64, hm']
    rfl
  rw [heq]
  exact value_ofNat (q := 0) (by simp) hm (by decide)

/-- The powers of ten that are doubles. -/
lemma value_powersOfTen {e : ℕ} (he : e ≤ 22) (h : e < Float.exactlyRepresentablePowersOfTen.size) :
    Float.exactlyRepresentablePowersOfTen[e].isFinite = true ∧
      value Float.exactlyRepresentablePowersOfTen[e] = 10 ^ (e : ℤ) := by
  have htable : ∀ e (h : e < Float.exactlyRepresentablePowersOfTen.size),
      Float.exactlyRepresentablePowersOfTen[e] = .ofModel (.ofNat (10 ^ e)) := by
    decide +kernel
  have hsplit : 10 ^ e = 5 ^ e * 2 ^ e := by rw [← Nat.mul_pow]
  have hfive : 5 ^ e < 9007199254740992 := by
    calc 5 ^ e ≤ 5 ^ 22 := Nat.pow_le_pow_right (by decide) he
      _ < 9007199254740992 := by decide
  rw [htable e h]
  have hvalue := value_ofNat hsplit hfive he
  rw [zpow_natCast]
  push_cast at hvalue
  exact hvalue

/-! ### Rounding of decimal numbers -/

lemma roundsTo_ofScientific_mul {m : ℕ} (hm : 0 < m) (e : ℕ) :
    RoundsTo (m * 10 ^ (e : ℤ)) (.ofModel (.ofScientific m e)) := by
  have hmcast : (1 : ℚ) ≤ m := by exact_mod_cast hm
  rw [Float.Model.ofScientific, UnpackedFloat.ofScientific, dif_neg hm.ne']
  split_ifs with hlarge hsmall hsign
  · -- the power alone is out of range
    refine roundsTo_infinity (k := 3 * e) ?_ ?_
    · calc (2 : ℚ) ^ (3 * e : ℤ) ≤ 10 ^ (e : ℤ) := two_zpow_le_ten_zpow e
        _ ≤ m * 10 ^ (e : ℤ) := le_mul_of_one_le_left (ten_zpow_pos e).le hmcast
    · change (2048 : ℤ) < e at hlarge
      omega
  · change (e : ℤ) < -(2048 + (m.log2 : ℤ)) at hsmall
    omega
  · have hbits : (-53 : ℤ) + 0 ≤ -1074 ∨ 4503599627370496 ≤ (m <<< 53) * 10 ^ e := by
      right
      have hpow : 1 ≤ 10 ^ e := Nat.one_le_pow _ _ (by decide)
      have hshift : 4503599627370496 ≤ m <<< 53 := by
        rw [Nat.shiftLeft_eq]
        omega
      exact hshift.trans (Nat.le_mul_of_pos_right _ hpow)
    obtain ⟨n, q, hround, heq⟩ := rounds_mul hbits .positive
    have hvalue : ((m <<< 53 : ℕ) * 2 ^ (-53 : ℤ)) * ((10 ^ e : ℕ) * 2 ^ (0 : ℤ)) =
        (m * 10 ^ (e : ℤ) : ℚ) := by
      rw [Nat.shiftLeft_eq, zpow_natCast]
      push_cast
      norm_num
      ring
    rw [hvalue] at hround
    have hpos : (0 : ℚ) ≤ m * 10 ^ (e : ℤ) := by positivity
    refine ⟨.positive, n, q, hpos, by rwa [abs_of_nonneg hpos], ?_⟩
    rw [← heq]
    rfl
  · omega

lemma roundsTo_ofScientific_div {m : ℕ} (hm : 0 < m) {e : ℕ} (he : 0 < e) :
    RoundsTo (m * 10 ^ (-(e : ℤ))) (.ofModel (.ofScientific m (-e))) := by
  have hpos : (0 : ℚ) < m * 10 ^ (-(e : ℤ)) := mul_pos (by exact_mod_cast hm) (ten_zpow_pos _)
  rw [Float.Model.ofScientific, UnpackedFloat.ofScientific, dif_neg hm.ne']
  split_ifs with hlarge hsmall hsign
  · change (2048 : ℤ) < -e at hlarge
    omega
  · -- the power outweighs the mantissa
    change -(e : ℤ) < -(2048 + (m.log2 : ℤ)) at hsmall
    have hmcast : (m : ℚ) ≤ 2 ^ (m.log2 + 1 : ℤ) := by
      have := lt_log2 m
      push_cast at this
      linarith
    refine roundsTo_zero_of_le (k := m.log2 + 1 + -(3 * e)) hpos ?_ (by omega)
    rw [two_zpow_add]
    exact mul_le_mul hmcast (ten_zpow_neg_le e) (ten_zpow_pos _).le (two_zpow_pos _).le
  · omega
  · obtain ⟨n, q, hround, heq⟩ := rounds_div hm (Nat.pow_pos (n := e) (by decide : 0 < 10)) 0 0
      .positive
    have hvalue : (m * 2 ^ (0 : ℤ)) / ((10 ^ e : ℕ) * 2 ^ (0 : ℤ)) =
        (m * 10 ^ (-(e : ℤ)) : ℚ) := by
      rw [zpow_neg, zpow_natCast, zpow_zero]
      push_cast
      field_simp
    rw [hvalue] at hround
    refine ⟨.positive, n, q, hpos.le, by rwa [abs_of_pos hpos], ?_⟩
    rw [← heq]
    have hnat : (- -(e : ℤ)).toNat = e := by omega
    simp only [hnat]
    rfl

/-- Numbers with many digits are rounded from their mantissa and their exponent. -/
lemma roundsTo_ofScientific_model (m : ℕ) (e : ℤ) :
    RoundsTo (m * 10 ^ e) (.ofModel (.ofScientific m e)) := by
  by_cases hm : m = 0
  · subst hm
    simpa [Float.Model.ofScientific, UnpackedFloat.ofScientific] using roundsTo_zero .positive
  by_cases he : 0 ≤ e
  · obtain ⟨k, rfl⟩ := Int.eq_ofNat_of_zero_le he
    exact roundsTo_ofScientific_mul (Nat.pos_of_ne_zero hm) k
  · obtain ⟨k, rfl⟩ := Int.exists_eq_neg_ofNat (le_of_not_ge he)
    exact roundsTo_ofScientific_div (Nat.pos_of_ne_zero hm) (by omega)

/-- Decimal numbers are read by the rules of rounding. -/
theorem roundsTo_ofScientific (m : ℕ) (negative : Bool) (e : ℕ) :
    RoundsTo (m * 10 ^ (if negative then -(e : ℤ) else e)) (Float.ofScientific m negative e) := by
  rw [Float.ofScientific]
  by_cases hfast : m < 2 ^ 53 ∧ e ≤ 22
  · -- both numbers are doubles, so that one rounding is left
    rw [dif_pos hfast]
    obtain ⟨hm, hmvalue⟩ := value_toUInt64 (m := m) hfast.1
    obtain ⟨he, hevalue⟩ := value_powersOfTen hfast.2 (by
      change e < 23
      omega)
    cases negative with
    | true =>
      have hround := roundsTo_div hm he (by rw [hevalue]; exact (ten_zpow_pos e).ne')
      rw [hmvalue, hevalue, div_eq_mul_inv, ← zpow_neg] at hround
      exact hround
    | false =>
      have hround := roundsTo_mul hm he
      rw [hmvalue, hevalue] at hround
      exact hround
  · rw [dif_neg hfast]
    cases negative with
    | true =>
      have hneg : Int.negOfNat e = -(e : ℤ) := Int.negOfNat_eq
      simp only [if_true, hneg]
      exact roundsTo_ofScientific_model m (-e)
    | false => exact roundsTo_ofScientific_model m e

end Metrology.Binary64

namespace Metrology.Decimal

open Binary64

/-! ### Literals -/

lemma lt_pow_length_toDigits (n : ℕ) : n < 10 ^ (Nat.toDigits 10 n).length :=
  (Nat.length_toDigits_le_iff (by decide) Nat.length_toDigits_pos).mp le_rfl

lemma pow_length_toDigits_le {n : ℕ} (hn : 0 < n) : 10 ^ ((Nat.toDigits 10 n).length - 1) ≤ n := by
  by_contra hlt
  by_cases hone : (Nat.toDigits 10 n).length - 1 = 0
  · rw [hone] at hlt
    omega
  · have hle := (Nat.length_toDigits_le_iff (show 1 < 10 by decide) (Nat.pos_of_ne_zero hone)).mpr
      (Nat.lt_of_not_le hlt)
    omega

/-- A literal is read as the double that it rounds to. -/
theorem roundsTo_nearest (digits : ℕ) (exponent : ℤ) :
    RoundsTo (digits * 10 ^ exponent) (nearest digits exponent) := by
  have hzero : (0.0 : Float) = .ofModel (.pack (.zero .positive)) := by decide +kernel
  have hinfinity : (1.0 / 0.0 : Float) = .ofModel (.pack (.infinity .positive)) := by
    decide +kernel
  rw [nearest]
  set len := (Nat.toDigits 10 digits).length with hlen
  have hpos : 0 < len := Nat.length_toDigits_pos
  by_cases hdigits : digits = 0
  · rw [if_pos (.inl hdigits), hdigits, hzero, Nat.cast_zero, zero_mul]
    exact roundsTo_zero .positive
  by_cases hsmall : exponent + len < -400
  · rw [if_pos (.inr hsmall), hzero]
    obtain ⟨k, hk⟩ := Int.exists_eq_neg_ofNat (show exponent + len ≤ 0 by omega)
    have hbelow : (digits : ℚ) ≤ 10 ^ (len : ℤ) := by
      rw [zpow_natCast]
      exact_mod_cast (lt_pow_length_toDigits digits).le
    have hdigitspos : (0 : ℚ) < digits := by exact_mod_cast Nat.pos_of_ne_zero hdigits
    refine roundsTo_zero_of_le (k := -(3 * k)) (mul_pos hdigitspos (ten_zpow_pos _)) ?_ (by omega)
    calc (digits : ℚ) * 10 ^ exponent ≤ 10 ^ (len : ℤ) * 10 ^ exponent :=
          mul_le_mul_of_nonneg_right hbelow (ten_zpow_pos _).le
      _ = 10 ^ (-(k : ℤ)) := by rw [← zpow_add₀ (by norm_num), add_comm, hk]
      _ ≤ 2 ^ (-(3 * k : ℤ)) := ten_zpow_neg_le k
  rw [if_neg (by simp [hdigits, hsmall])]
  by_cases hlarge : 400 < exponent + len
  · rw [if_pos hlarge, hinfinity]
    obtain ⟨k, hk⟩ := Int.eq_ofNat_of_zero_le (show 0 ≤ (len - 1 : ℕ) + exponent by omega)
    have habove : (10 : ℚ) ^ ((len - 1 : ℕ) : ℤ) ≤ digits := by
      rw [zpow_natCast]
      exact_mod_cast pow_length_toDigits_le (Nat.pos_of_ne_zero hdigits)
    refine roundsTo_infinity (k := 3 * k) ?_ (by omega)
    calc (2 : ℚ) ^ (3 * k : ℤ) ≤ 10 ^ (k : ℤ) := two_zpow_le_ten_zpow k
      _ = 10 ^ ((len - 1 : ℕ) : ℤ) * 10 ^ exponent := by rw [← zpow_add₀ (by norm_num), hk]
      _ ≤ digits * 10 ^ exponent := mul_le_mul_of_nonneg_right habove (ten_zpow_pos _).le
  · rw [if_neg hlarge]
    have hround := roundsTo_ofScientific digits (exponent < 0) exponent.natAbs
    have hexponent : (if decide (exponent < 0) = true then -(exponent.natAbs : ℤ)
        else exponent.natAbs) = exponent := by
      split_ifs with h <;> simp at h <;> omega
    rwa [hexponent] at hround

end Metrology.Decimal
