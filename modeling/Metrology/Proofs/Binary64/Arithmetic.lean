import Metrology.Proofs.Binary64.Value

/-!
# Arithmetic on doubles

Products, quotients, sums and differences of finite doubles are what the exact ones round to, and
comparison of finite doubles is comparison of their values.
-/

namespace Metrology.Binary64

open Float.Model Float.Model.UnpackedFloat

variable {x y : Float}

/-- A finite double is zero or has a mantissa. -/
lemma unpack_cases (h : x.isFinite = true) :
    (∃ s, x.toModel.unpack = .zero s ∧ value x = 0) ∨
      ∃ s m e hm, x.toModel.unpack = .finite s m e hm ∧ value x = s.apply m * 2 ^ e := by
  have hfinite : x.toModel.unpack.isFinite = true := h
  cases hx : x.toModel.unpack with
  | infinity s =>
    rw [hx] at hfinite
    cases hfinite
  | notANumber =>
    rw [hx] at hfinite
    cases hfinite
  | zero s => exact .inl ⟨s, rfl, by rw [value, hx]; rfl⟩
  | finite s m e hm => exact .inr ⟨s, m, e, hm, rfl, by rw [value, hx]; rfl⟩

/-! ### Products -/

/-- The product of two mantissas is rounded as it is if it has enough bits for that, or none
matters. -/
lemma rounds_mul {m₁ m₂ : ℕ} {e₁ e₂ : ℤ} (h : e₁ + e₂ ≤ -1074 ∨ 4503599627370496 ≤ m₁ * m₂)
    (s : Sign) :
    ∃ n q, Rounds ((m₁ * 2 ^ e₁) * (m₂ * 2 ^ e₂)) n q ∧
      roundWithAccuracy .binary64 s (m₁ * m₂) (e₁ + e₂) .exact = ofSteps s n q := by
  have htarget : e₁ + e₂ ≤ Format.binary64.targetExponent (totalExponent (m₁ * m₂) (e₁ + e₂)) := by
    rw [targetExponent_eq, totalExponent]
    rcases h with h | h
    · omega
    · have : 52 ≤ (m₁ * m₂).log2 := (Nat.le_log2 (by omega)).mpr h
      omega
  have hvalue : (m₁ * 2 ^ e₁) * (m₂ * 2 ^ e₂) = ((m₁ * m₂ : ℕ) : ℚ) * 2 ^ (e₁ + e₂) := by
    rw [two_zpow_add]
    push_cast
    ring
  rw [hvalue]
  exact rounds_of_represents (represents_exact (m₁ * m₂)) ⟨le_rfl, by push_cast; linarith⟩ htarget s

lemma abs_value_finite {s : Sign} {m : ℕ} {e : ℤ} (h : value x = s.apply m * 2 ^ e) :
    |value x| = m * 2 ^ e := by
  rw [h, abs_mul, abs_apply, abs_of_pos (two_zpow_pos e)]

theorem roundsTo_mul (hx : x.isFinite = true) (hy : y.isFinite = true) :
    RoundsTo (value x * value y) (x * y) := by
  have hcx := isCanonical_toModel x
  have hcy := isCanonical_toModel y
  change RoundsTo _
    (.ofModel (.pack (UnpackedFloat.mul .binary64 x.toModel.unpack y.toModel.unpack)))
  rcases unpack_cases hx with ⟨s, hux, hvx⟩ | ⟨s, m, e, hm, hux, hvx⟩ <;>
    rcases unpack_cases hy with ⟨t, huy, hvy⟩ | ⟨t, k, q, hk, huy, hvy⟩
  · rw [hux, huy, hvx, zero_mul]
    exact roundsTo_zero (s * t)
  · rw [hux, huy, hvx, zero_mul]
    exact roundsTo_zero (s * t)
  · rw [hux, huy, hvy, mul_zero]
    exact roundsTo_zero (s * t)
  · rw [hux] at hcx
    rw [huy] at hcy
    obtain ⟨-, -, -, hfillx⟩ := hcx
    obtain ⟨-, -, -, hfilly⟩ := hcy
    have hbits : e + q ≤ -1074 ∨ 4503599627370496 ≤ m * k := by
      rcases hfillx with h | h
      · rcases hfilly with h' | h'
        · omega
        · exact .inr (h'.trans (Nat.le_mul_of_pos_left k hm))
      · exact .inr (h.trans (Nat.le_mul_of_pos_right m hk))
    obtain ⟨n, r, hround, heq⟩ := rounds_mul hbits (s * t)
    refine ⟨s * t, n, r, ?_, ?_, ?_⟩
    · exact SignOf.mul (hvx ▸ signOf_apply s m e) (hvy ▸ signOf_apply t k q)
    · rwa [abs_mul, abs_value_finite hvx, abs_value_finite hvy]
    · rw [hux, huy, UnpackedFloat.mul, heq]

/-! ### Quotients -/

/-- A dividend with that many bits more than the divisor leaves 53 of them to the quotient. -/
lemma le_shiftLeft_div {m₁ m₂ k : ℕ} (hm₁ : 0 < m₁) (hm₂ : 0 < m₂)
    (h : m₂.log2 + 53 ≤ m₁.log2 + k) : 2 ^ 52 ≤ m₁ <<< k / m₂ := by
  rw [Nat.le_div_iff_mul_le hm₂]
  calc 2 ^ 52 * m₂ ≤ 2 ^ 52 * 2 ^ (m₂.log2 + 1) := Nat.mul_le_mul_left _ Nat.lt_log2_self.le
    _ = 2 ^ (52 + (m₂.log2 + 1)) := (pow_add 2 52 _).symm
    _ ≤ 2 ^ (m₁.log2 + k) := Nat.pow_le_pow_right (by decide) (by omega)
    _ = 2 ^ (m₁ <<< k).log2 := by rw [log2_shiftLeft hm₁.ne']
    _ ≤ m₁ <<< k := Nat.log2_self_le (by simp [Nat.shiftLeft_eq, hm₁.ne'])

/-- The quotient of two mantissas is computed with enough bits. -/
lemma rounds_div {m₁ m₂ : ℕ} (hm₁ : 0 < m₁) (hm₂ : 0 < m₂) (e₁ e₂ : ℤ) (s : Sign) :
    ∃ n q, Rounds ((m₁ * 2 ^ e₁) / (m₂ * 2 ^ e₂)) n q ∧
      roundWithAccuracy .binary64 s (divCore .binary64 m₁ e₁ m₂ e₂).1
        (divCore .binary64 m₁ e₁ m₂ e₂).2.1 (divCore .binary64 m₁ e₁ m₂ e₂).2.2 =
          ofSteps s n q := by
  set e := min (e₁ - e₂)
    (Format.binary64.targetExponent (totalExponent m₁ e₁ - totalExponent m₂ e₂)) with he
  set k := (e₁ - e₂ - e).toNat with hk
  have hcore : divCore .binary64 m₁ e₁ m₂ e₂ =
      (m₁ <<< k / m₂, e, accuracyOfFraction (m₁ <<< k % m₂) m₂) := rfl
  rw [hcore]
  have hcast : (0 : ℚ) < m₂ := by exact_mod_cast hm₂
  have hmod : m₁ <<< k % m₂ < m₂ := Nat.mod_lt _ hm₂
  have hquotient : ((m₁ <<< k / m₂ : ℕ) : ℚ) + (m₁ <<< k % m₂ : ℕ) / m₂ = (m₁ <<< k : ℕ) / m₂ := by
    have hparts : ((m₁ <<< k : ℕ) : ℚ) = m₂ * (m₁ <<< k / m₂ : ℕ) + (m₁ <<< k % m₂ : ℕ) := by
      exact_mod_cast (Nat.div_add_mod _ _).symm
    rw [hparts]
    field_simp
  have htarget : e ≤ Format.binary64.targetExponent (totalExponent (m₁ <<< k / m₂) e) := by
    rw [targetExponent_eq, totalExponent, totalExponent] at he
    rw [targetExponent_eq, totalExponent]
    by_cases hsmall : e ≤ -1074
    · omega
    · have hbits := le_shiftLeft_div hm₁ hm₂ (show m₂.log2 + 53 ≤ m₁.log2 + k by omega)
      have hlog := (Nat.le_log2 (by omega)).mpr hbits
      omega
  have hbelow : ((m₁ <<< k % m₂ : ℕ) : ℚ) / m₂ < 1 := by
    rw [div_lt_one hcast]
    exact_mod_cast hmod
  have hround := rounds_of_represents (represents_fraction (m₁ <<< k / m₂) hmod)
    ⟨le_add_of_nonneg_right (by positivity), by push_cast; linarith⟩ htarget s
  have hvalue : ((m₁ <<< k / m₂ : ℕ) + (m₁ <<< k % m₂ : ℕ) / m₂ : ℚ) * 2 ^ e =
      (m₁ * 2 ^ e₁) / (m₂ * 2 ^ e₂) := by
    have hexponent : e₁ = e + k + e₂ := by omega
    rw [hquotient, Nat.shiftLeft_eq, hexponent, two_zpow_add, two_zpow_add, zpow_natCast]
    push_cast
    have := (two_zpow_pos e₂).ne'
    field_simp
  rw [hvalue] at hround
  exact hround

theorem roundsTo_div (hx : x.isFinite = true) (hy : y.isFinite = true) (hne : value y ≠ 0) :
    RoundsTo (value x / value y) (x / y) := by
  change RoundsTo _
    (.ofModel (.pack (UnpackedFloat.div .binary64 x.toModel.unpack y.toModel.unpack)))
  rcases unpack_cases hy with ⟨t, -, hvy⟩ | ⟨t, k, q, hk, huy, hvy⟩
  · exact absurd hvy hne
  rcases unpack_cases hx with ⟨s, hux, hvx⟩ | ⟨s, m, e, hm, hux, hvx⟩
  · rw [hux, huy, hvx, zero_div]
    exact roundsTo_zero (s / t)
  · obtain ⟨n, r, hround, heq⟩ := rounds_div hm hk e q (s / t)
    refine ⟨s / t, n, r, ?_, ?_, ?_⟩
    · exact SignOf.div (hvx ▸ signOf_apply s m e) (hvy ▸ signOf_apply t k q)
    · rwa [abs_div, abs_value_finite hvx, abs_value_finite hvy]
    · rw [hux, huy, ← heq]
      rfl

/-! ### Sums and differences -/

/-- Both mantissas of a sum are taken to the smaller exponent without loss. -/
lemma decreaseExponent_value (s : Sign) (m : ℕ) {e t : ℤ} (h : t ≤ e) :
    (s.apply (decreaseExponent m e t).1 : ℚ) * 2 ^ t = s.apply m * 2 ^ e := by
  have he : e = (e - t).toNat + t := by omega
  have hpow : (2 : ℚ) ^ e = 2 ^ (e - t).toNat * 2 ^ t := by
    conv_lhs => rw [he, two_zpow_add, zpow_natCast]
  rw [decreaseExponent, hpow, Nat.shiftLeft_eq]
  cases s <;> simp [Sign.apply] <;> ring

/-- A sum of mantissas at one exponent is rounded to the exact value of the sum. -/
lemma roundsTo_normalize (m : ℤ) (e : ℤ) :
    RoundsTo (m * 2 ^ e) (.ofModel (.pack (UnpackedFloat.normalize .binary64 m e .positive))) := by
  by_cases hm : m = 0
  · subst hm
    simpa [UnpackedFloat.normalize] using roundsTo_zero .positive
  · obtain ⟨s, n, q, hsign, hround, heq⟩ := rounds_normalize hm e .positive
    exact ⟨s, n, q, hsign, hround, by rw [heq]⟩

theorem roundsTo_add (hx : x.isFinite = true) (hy : y.isFinite = true) :
    RoundsTo (value x + value y) (x + y) := by
  change RoundsTo _
    (.ofModel (.pack (UnpackedFloat.add .binary64 x.toModel.unpack y.toModel.unpack)))
  rcases unpack_cases hx with ⟨s, hux, hvx⟩ | ⟨s, m, e, hm, hux, hvx⟩ <;>
    rcases unpack_cases hy with ⟨t, huy, hvy⟩ | ⟨t, k, q, hk, huy, hvy⟩
  · rw [hux, huy, hvx, hvy, zero_add, UnpackedFloat.add]
    split
    · exact roundsTo_zero s
    · exact roundsTo_zero .positive
  · have hy' : Float.ofModel (.pack (.finite t k q hk)) = y := huy ▸ ofModel_pack_unpack y
    rw [hux, huy, hvx, zero_add]
    change RoundsTo _ (.ofModel (.pack (.finite t k q hk)))
    rw [hy']
    exact roundsTo_value hy
  · have hx' : Float.ofModel (.pack (.finite s m e hm)) = x := hux ▸ ofModel_pack_unpack x
    rw [hux, huy, hvy, add_zero]
    change RoundsTo _ (.ofModel (.pack (.finite s m e hm)))
    rw [hx']
    exact roundsTo_value hx
  · have hround := roundsTo_normalize (s.apply (decreaseExponent m e (min e q)).1 +
      t.apply (decreaseExponent k q (min e q)).1) (min e q)
    push_cast at hround
    rw [add_mul, decreaseExponent_value s m (min_le_left e q),
      decreaseExponent_value t k (min_le_right e q), ← hvx, ← hvy] at hround
    rw [hux, huy]
    exact hround

/-! ### The other sign -/

lemma apply_neg (s : Sign) (m : ℤ) : (-s).apply m = -s.apply m := by
  cases s
  · exact (neg_neg m).symm
  · rfl

lemma unpack_neg (x : Float) : (-x).toModel.unpack = x.toModel.unpack.neg := by
  have hcanonical := isCanonical_toModel x
  refine unpack_ofModel_pack ?_
  cases h : x.toModel.unpack with
  | infinity s => trivial
  | notANumber => trivial
  | zero s => trivial
  | finite s m e hm =>
    rw [h] at hcanonical
    exact hcanonical

lemma value_neg (x : Float) : value (-x) = -value x := by
  rw [value, value, unpack_neg]
  cases x.toModel.unpack with
  | infinity s => exact neg_zero.symm
  | notANumber => exact neg_zero.symm
  | zero s => exact neg_zero.symm
  | finite s m e hm =>
    rw [UnpackedFloat.neg, toRat, toRat, apply_neg]
    push_cast
    ring

lemma isFinite_neg (x : Float) : (-x).isFinite = x.isFinite := by
  change (-x).toModel.unpack.isFinite = x.toModel.unpack.isFinite
  rw [unpack_neg]
  cases x.toModel.unpack <;> rfl

/-- A difference is a sum with the other sign, also for zeros and infinities. -/
lemma sub_eq_add_neg' (x y : Float) : x - y = x + -y := by
  have h : ∀ u v : UnpackedFloat,
      UnpackedFloat.sub .binary64 u v = UnpackedFloat.add .binary64 u v.neg := by
    intro u v
    cases u <;> cases v <;> try rfl
    rename_i s m e hm t k q hk
    simp only [UnpackedFloat.sub, UnpackedFloat.neg, UnpackedFloat.add, apply_neg]
    rfl
  change Float.ofModel (.pack (UnpackedFloat.sub .binary64 x.toModel.unpack y.toModel.unpack)) =
    Float.ofModel (.pack (UnpackedFloat.add .binary64 x.toModel.unpack (-y).toModel.unpack))
  rw [h, unpack_neg]

theorem roundsTo_sub (hx : x.isFinite = true) (hy : y.isFinite = true) :
    RoundsTo (value x - value y) (x - y) := by
  rw [sub_eq_add_neg', sub_eq_add_neg, ← value_neg]
  exact roundsTo_add hx ((isFinite_neg y).trans hy)

/-! ### Finite results -/

/-- What is not a finite number is not packed into one. -/
lemma isFinite_ofModel_pack {u : UnpackedFloat} (h : u.isFinite = false) :
    (Float.ofModel (.pack u)).isFinite = false := by
  have hcanonical : IsCanonical u := by
    cases u with
    | finite s m e hm => cases h
    | infinity s => trivial
    | notANumber => trivial
    | zero s => trivial
  change (Float.ofModel (.pack u)).toModel.unpack.isFinite = false
  rwa [unpack_ofModel_pack hcanonical]

/-- A finite product has finite factors. -/
lemma isFinite_of_mul (h : (x * y).isFinite = true) : x.isFinite = true := by
  rw [← Bool.not_eq_false]
  intro hx
  have hmul : ∀ {u v : UnpackedFloat}, u.isFinite = false →
      (UnpackedFloat.mul .binary64 u v).isFinite = false := by
    intro u v hu
    cases u with
    | infinity s => cases v <;> rfl
    | notANumber => cases v <;> rfl
    | zero s => cases hu
    | finite s m e hm => cases hu
  have hproduct : (x * y).isFinite = false :=
    isFinite_ofModel_pack (hmul (v := y.toModel.unpack) hx)
  rw [hproduct] at h
  cases h

/-- A finite quotient by a finite number has a finite dividend. -/
lemma isFinite_of_div (h : (x / y).isFinite = true) (hy : y.isFinite = true) :
    x.isFinite = true := by
  rw [← Bool.not_eq_false]
  intro hx
  have hdiv : ∀ {u v : UnpackedFloat}, u.isFinite = false → v.isFinite = true →
      (UnpackedFloat.div .binary64 u v).isFinite = false := by
    intro u v hu hv
    cases u with
    | infinity s =>
      cases v with
      | infinity t => cases hv
      | notANumber => cases hv
      | zero t => rfl
      | finite t k q hk => rfl
    | notANumber => cases v <;> rfl
    | zero s => cases hu
    | finite s m e hm => cases hu
  have hquotient : (x / y).isFinite = false := isFinite_ofModel_pack (hdiv hx hy)
  rw [hquotient] at h
  cases h

/-! ### Comparison -/

/-- Stored mantissas are compared by their exponents first. -/
lemma steps_le {m k : ℕ} {e q : ℤ} (hm : m < 9007199254740992) (he : -1074 ≤ e)
    (hk : q = -1074 ∨ 4503599627370496 ≤ k)
    (h : ((compare e q).then (compare m k)).isLE = true) : (m * 2 ^ e : ℚ) ≤ k * 2 ^ q := by
  rcases lt_trichotomy e q with hlt | rfl | hgt
  · have hkmin : (4503599627370496 : ℚ) ≤ k := by exact_mod_cast hk.resolve_left (by omega)
    have hmmax : (m : ℚ) ≤ 9007199254740992 := by exact_mod_cast hm.le
    calc (m * 2 ^ e : ℚ) ≤ 9007199254740992 * 2 ^ e :=
          mul_le_mul_of_nonneg_right hmmax (two_zpow_pos e).le
      _ = 2 ^ (e + 53) := two_zpow_of_fits e
      _ ≤ 2 ^ (q + 52) := two_zpow_le.mpr (by omega)
      _ = 4503599627370496 * 2 ^ q := (two_zpow_of_fills q).symm
      _ ≤ k * 2 ^ q := mul_le_mul_of_nonneg_right hkmin (two_zpow_pos q).le
  · have heq : compare e e = .eq := Int.compare_eq_eq.mpr rfl
    rw [heq, Ordering.eq_then, Nat.isLE_compare] at h
    exact mul_le_mul_of_nonneg_right (by exact_mod_cast h) (two_zpow_pos e).le
  · rw [Int.compare_eq_gt.mpr hgt] at h
    cases h

lemma toRat_le {u v : UnpackedFloat} (hu : IsCanonical u) (hv : IsCanonical v)
    (hfu : u.isFinite = true) (hfv : v.isFinite = true) (h : u.le v = true) :
    toRat u ≤ toRat v := by
  cases u with
  | infinity s => cases hfu
  | notANumber => cases hfu
  | zero s =>
    cases v with
    | infinity t => cases hfv
    | notANumber => cases hfv
    | zero t => exact le_rfl
    | finite t k q hk =>
      cases t with
      | negative => cases h
      | positive => exact signOf_apply .positive k q
  | finite s m e hm =>
    cases v with
    | infinity t => cases hfv
    | notANumber => cases hfv
    | zero t =>
      cases s with
      | negative => exact signOf_apply .negative m e
      | positive => cases h
    | finite t k q hk =>
      obtain ⟨hm', he, -, hfill⟩ := hu
      obtain ⟨hk', hq, -, hfill'⟩ := hv
      cases s <;> cases t
      · have hle : ((compare q e).then (compare k m)).isLE = true := by
          rw [← Int.compare_swap e q, ← Nat.compare_swap m k, ← Ordering.swap_then]
          exact h
        simpa [toRat, Sign.apply] using steps_le hk' hq hfill hle
      · exact (signOf_apply .negative m e).trans (signOf_apply .positive k q)
      · cases h
      · simpa [toRat, Sign.apply] using steps_le hm' he hfill' h

/-- Whatever lies between two finite doubles is finite, and its value between theirs. -/
lemma value_mem_of_le {a b : Float} (ha : a.isFinite = true) (hb : b.isFinite = true) (hax : a ≤ x)
    (hxb : x ≤ b) : x.isFinite = true ∧ value a ≤ value x ∧ value x ≤ value b := by
  have hle : a.toModel.unpack.le x.toModel.unpack = true := of_decide_eq_true hax
  have hge : x.toModel.unpack.le b.toModel.unpack = true := of_decide_eq_true hxb
  have hfinite : x.toModel.unpack.isFinite = true := by
    cases hx : x.toModel.unpack with
    | zero s => rfl
    | finite s m e hm => rfl
    | notANumber =>
      rw [hx] at hge
      cases hge
    | infinity s =>
      rw [hx] at hle hge
      cases s with
      | negative =>
        rcases unpack_cases ha with ⟨t, hua, -⟩ | ⟨t, k, q, hk, hua, -⟩ <;> rw [hua] at hle <;>
          cases t <;> cases hle
      | positive =>
        rcases unpack_cases hb with ⟨t, hub, -⟩ | ⟨t, k, q, hk, hub, -⟩ <;> rw [hub] at hge <;>
          cases t <;> cases hge
  exact ⟨hfinite, toRat_le (isCanonical_toModel a) (isCanonical_toModel x) ha hfinite hle,
    toRat_le (isCanonical_toModel x) (isCanonical_toModel b) hfinite hb hge⟩

/-- A finite double is found equal to zero if its value is zero. -/
lemma beq_zero_iff (hx : x.isFinite = true) : (x == 0.0) = true ↔ value x = 0 := by
  have hzero : (0.0 : Float) = .ofModel (.pack (.zero .positive)) := by decide +kernel
  have hunpack : (0.0 : Float).toModel.unpack = .zero .positive := by
    rw [hzero]
    exact unpack_ofModel_pack trivial
  have hbeq : (x == 0.0) = x.toModel.unpack.beq (.zero .positive) := by
    rw [← hunpack]
    rfl
  rw [hbeq]
  rcases unpack_cases hx with ⟨s, hux, hvx⟩ | ⟨s, m, e, hm, hux, hvx⟩
  · rw [hux, hvx]
    exact iff_of_true rfl rfl
  · have hne : value x ≠ 0 := by
      have hpos : (0 : ℚ) < m * 2 ^ e := mul_pos (by exact_mod_cast hm) (two_zpow_pos e)
      intro h
      rw [← abs_value_finite hvx, h, abs_zero] at hpos
      exact lt_irrefl 0 hpos
    rw [hux]
    refine iff_of_false ?_ hne
    cases s <;> rintro ⟨⟩

end Metrology.Binary64
