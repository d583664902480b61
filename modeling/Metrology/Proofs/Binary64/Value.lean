import Metrology.Proofs.Binary64.Packing

/-!
# The values of doubles

A finite double has an exact value, and any exact number has a double that it rounds to. Between
powers of two in the range of doubles the rounded value is finite and stays between them, and a
number that is the value of a double rounds to this double.
-/

namespace Metrology.Binary64

open Float.Model Float.Model.UnpackedFloat

variable {s : Sign} {v : ℚ} {n : ℕ} {e k : ℤ} {x y : Float}

/-! ### Values -/

def toRat : UnpackedFloat → ℚ
  | .finite s m e _ => s.apply m * 2 ^ e
  | _ => 0

/-- The exact value of a finite double. Other doubles have the value zero here. -/
def value (x : Float) : ℚ := toRat x.toModel.unpack

lemma isCanonical_toModel (x : Float) : IsCanonical x.toModel.unpack := isCanonical_unpack _

lemma ofModel_pack_unpack (x : Float) : Float.ofModel (.pack x.toModel.unpack) = x := by
  rw [pack_unpack]

/-- Doubles with equal parts are equal. -/
lemma eq_of_unpack_eq (h : x.toModel.unpack = y.toModel.unpack) : x = y := by
  rw [← ofModel_pack_unpack x, h, ofModel_pack_unpack]

lemma unpack_ofModel_pack {u : UnpackedFloat} (h : IsCanonical u) :
    (Float.ofModel (.pack u)).toModel.unpack = u := unpack_pack h

lemma abs_apply (s : Sign) (n : ℕ) : |((s.apply n : ℤ) : ℚ)| = n := by
  cases s <;> simp [Sign.apply]

lemma toRat_ofSteps (s : Sign) (n : ℕ) (e : ℤ) : toRat (ofSteps s n e) = s.apply n * 2 ^ e := by
  rw [ofSteps]
  split_ifs with hzero hmax
  · rw [hzero]
    cases s <;> simp [toRat, Sign.apply]
  · rw [hmax, toRat, two_zpow_add]
    cases s <;> simp [Sign.apply] <;> ring
  · rfl

/-- A mantissa of 53 bits with an exponent out of range has a value out of range. -/
lemma exponent_le (hn : 4503599627370496 ≤ n) (h : (n * 2 ^ e : ℚ) ≤ 2 ^ k) (hk : k ≤ 1023) :
    e ≤ 971 := by
  have hcast : (4503599627370496 : ℚ) ≤ n := by exact_mod_cast hn
  have hpow : (2 : ℚ) ^ (e + 52) ≤ 2 ^ k := by
    rw [← two_zpow_of_fills]
    exact (mul_le_mul_of_nonneg_right hcast (two_zpow_pos e).le).trans h
  have := two_zpow_le.mp hpow
  omega

/-- What a number rounds to has the stored form if it is not too large. -/
lemma Rounds.isCanonical {y : ℚ} (h : Rounds y n e) (hn : (n * 2 ^ e : ℚ) ≤ 2 ^ k)
    (hk : k ≤ 1023) : IsCanonical (ofSteps s n e) := by
  have hleast := h.least
  have hfits := h.le_fits
  have hfill := h.fills_le
  rw [ofSteps]
  split_ifs with hzero hmax
  · trivial
  · have hhalf : ((4503599627370496 : ℕ) : ℚ) * 2 ^ (e + 1) = n * 2 ^ e := by
      rw [hmax, two_zpow_add]
      push_cast
      ring
    have := exponent_le le_rfl (hhalf ▸ hn) hk
    exact ⟨by omega, by omega, this, .inr le_rfl⟩
  · refine ⟨by omega, hleast, ?_, hfill⟩
    rcases hfill with he | hm
    · omega
    · exact exponent_le hm hn hk

/-! ### Rounding to a double -/

/-- The exact number `v` rounds to the double `x`. -/
def RoundsTo (v : ℚ) (x : Float) : Prop :=
  ∃ s n e, SignOf s v ∧ Rounds |v| n e ∧ x = Float.ofModel (.pack (ofSteps s n e))

lemma rounds_zero : Rounds 0 0 (-1074) := by
  simpa using rounds_of_parts (n := 0) (e := -1074) (by decide) le_rfl (.inl rfl)

lemma roundsTo_zero (s : Sign) : RoundsTo 0 (.ofModel (.pack (.zero s))) := by
  refine ⟨s, 0, -1074, ?_, by simpa using rounds_zero, rfl⟩
  cases s <;> exact le_refl (0 : ℚ)

/-- The parts of a finite double are what its value rounds to. -/
lemma exists_rounds_value (h : x.isFinite = true) :
    ∃ s n e, SignOf s (value x) ∧ Rounds |value x| n e ∧ x.toModel.unpack = ofSteps s n e ∧
      n < 9007199254740992 := by
  have hcanonical := isCanonical_toModel x
  have hfinite : x.toModel.unpack.isFinite = true := h
  cases hx : x.toModel.unpack with
  | infinity s =>
    rw [hx] at hfinite
    cases hfinite
  | notANumber =>
    rw [hx] at hfinite
    cases hfinite
  | zero s =>
    refine ⟨s, 0, -1074, ?_, ?_, rfl, by decide⟩
    · rw [value, hx]
      cases s <;> exact le_refl (0 : ℚ)
    · rw [value, hx]
      simpa [toRat] using rounds_zero
  | finite s m e hm =>
    rw [hx] at hcanonical
    obtain ⟨hfits, hleast, -, hfill⟩ := hcanonical
    refine ⟨s, m, e, ?_, ?_, ?_, hfits⟩
    · rw [value, hx]
      exact signOf_apply s m e
    · rw [value, hx, toRat, abs_mul, abs_apply, abs_of_pos (two_zpow_pos e)]
      exact rounds_of_parts hfits hleast hfill
    · rw [ofSteps, dif_neg hm.ne', if_neg hfits.ne]

/-- The value of a finite double rounds to it. -/
lemma roundsTo_value (h : x.isFinite = true) : RoundsTo (value x) x := by
  obtain ⟨s, n, e, hsign, hround, hx, -⟩ := exists_rounds_value h
  exact ⟨s, n, e, hsign, hround, by rw [← hx, ofModel_pack_unpack]⟩

/-- Only zero rounds to more than one double. -/
lemma RoundsTo.unique (hv : v ≠ 0) (hx : RoundsTo v x) (hy : RoundsTo v y) : x = y := by
  obtain ⟨s, n, e, hs, hn, rfl⟩ := hx
  obtain ⟨t, m, q, ht, hm, rfl⟩ := hy
  obtain ⟨rfl, rfl⟩ := hn.unique hm
  have hsign : s = t := by
    cases s <;> cases t
    · rfl
    · exact absurd (le_antisymm hs ht) hv
    · exact absurd (le_antisymm ht hs) hv
    · rfl
  rw [hsign]

/-- What is known of the double that a number rounds to, if it is not too large. -/
lemma RoundsTo.exists_value (h : RoundsTo v x) (hv : |v| ≤ 2 ^ k) (hk : -1074 ≤ k ∧ k ≤ 1023) :
    x.isFinite = true ∧
      ∃ s n e, SignOf s v ∧ Rounds |v| n e ∧ value x = s.apply n * 2 ^ e := by
  obtain ⟨s, n, e, hsign, hround, rfl⟩ := h
  have hunpack :=
    unpack_ofModel_pack (hround.isCanonical (s := s) (hround.le_two_zpow hv hk.1) hk.2)
  refine ⟨?_, s, n, e, hsign, hround, ?_⟩
  · change (Float.ofModel (.pack (ofSteps s n e))).toModel.unpack.isFinite = true
    rw [hunpack, ofSteps]
    split_ifs <;> rfl
  · rw [value, hunpack, toRat_ofSteps]

lemma RoundsTo.isFinite (h : RoundsTo v x) (hv : |v| ≤ 2 ^ k) (hk : -1074 ≤ k ∧ k ≤ 1023) :
    x.isFinite = true := (h.exists_value hv hk).1

lemma RoundsTo.abs_value_le (h : RoundsTo v x) (hv : |v| ≤ 2 ^ k) (hk : -1074 ≤ k ∧ k ≤ 1023) :
    |value x| ≤ 2 ^ k := by
  obtain ⟨-, s, n, e, -, hround, hx⟩ := h.exists_value hv hk
  rw [hx, abs_mul, abs_apply, abs_of_pos (two_zpow_pos e)]
  exact hround.le_two_zpow hv hk.1

lemma RoundsTo.two_zpow_le_value {j : ℤ} (h : RoundsTo v x) (hv : |v| ≤ 2 ^ k)
    (hk : -1074 ≤ k ∧ k ≤ 1023) (hj : 2 ^ j ≤ v) (hmin : -1074 ≤ j) : 2 ^ j ≤ value x := by
  obtain ⟨-, s, n, e, hsign, hround, hx⟩ := h.exists_value hv hk
  have hpos : 0 < v := (two_zpow_pos j).trans_le hj
  have hs : s = .positive := by
    cases s with
    | positive => rfl
    | negative => exact absurd hsign hpos.not_ge
  rw [hx, hs]
  simpa [Sign.apply] using hround.two_zpow_le (hj.trans (le_abs_self v)) hmin

/-- A number that has few enough bits is the value of the double that it rounds to. -/
lemma RoundsTo.value_eq {m : ℕ} (h : RoundsTo v x) (hm : m < 9007199254740992) (he : -1074 ≤ e)
    (hv : v = m * 2 ^ e) (hmax : v ≤ 2 ^ k) (hk : -1074 ≤ k ∧ k ≤ 1023) :
    x.isFinite = true ∧ value x = v := by
  have hnonneg : 0 ≤ v := hv ▸ mul_nonneg m.cast_nonneg (two_zpow_pos e).le
  have habs : |v| = v := abs_of_nonneg hnonneg
  obtain ⟨hfinite, s, n, q, hsign, hround, hx⟩ := h.exists_value (habs.symm ▸ hmax) hk
  rw [habs] at hround
  have hexact := hround.eq_of_eq hv hm he
  refine ⟨hfinite, ?_⟩
  rw [hx]
  cases s with
  | positive => simpa [Sign.apply] using hexact
  | negative =>
    have hzero : v = 0 := le_antisymm hsign hnonneg
    rw [hzero] at hexact ⊢
    simpa [Sign.apply] using hexact

end Metrology.Binary64
