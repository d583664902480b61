import Metrology.Proofs.Decimal.Shortest

/-!
# Doubles are read back from their text

The shortest digits of a finite double stand for a number that rounds to it, so the text of a finite
double is read as this double, bit for bit.
-/

namespace Metrology.Decimal

open Binary64 Float.Model Float.Model.UnpackedFloat

variable {m : ℕ} {q : ℤ} {narrow : Bool} {v : ℚ} {x : Float}

/-! ### The interval of a double -/

/-- Just below a power of two the next number of half steps is the power itself. -/
lemma rounds_below_power (hq : -1074 < q) (hge : 4503599627370496 - 1 / 4 ≤ v / 2 ^ q)
    (hlow : v / 2 ^ q < 4503599627370496) : Rounds v 9007199254740992 (q - 1) := by
  have hhalves : v / 2 ^ (q - 1) = 2 * (v / 2 ^ q) := by
    rw [zpow_sub_one₀ (by norm_num)]
    field_simp
  refine ⟨by omega, ?_, .inr ?_, ⟨?_, ?_, fun _ => rfl⟩⟩
  · rw [← div_lt_iff₀ (two_zpow_pos _), hhalves]
    linarith
  · rw [← le_div_iff₀ (two_zpow_pos _), hhalves]
    linarith
  · rw [hhalves]
    push_cast
    linarith
  · rw [hhalves]
    push_cast
    linarith

lemma ofSteps_power (s : Sign) (q : ℤ) :
    ofSteps s 9007199254740992 (q - 1) = ofSteps s 4503599627370496 q := by
  have hnext : q - 1 + 1 = q := by ring
  rw [ofSteps, ofSteps, dif_neg (by decide), if_pos rfl, dif_neg (by decide),
    if_neg (by decide), hnext]

/-- A number that is read as `m · 2 ^ q` rounds to it. Below a power of two the steps are half as
long, which is why the interval is narrow there. -/
lemma rounds_of_recovers (hfits : m < 9007199254740992) (hleast : -1074 ≤ q)
    (hfill : q = -1074 ∨ 4503599627370496 ≤ m)
    (hnarrow : narrow = true ↔ m = 4503599627370496 ∧ -1074 < q) (h : Recovers m q narrow v) :
    ∃ n e, Rounds v n e ∧ ∀ s, ofSteps s n e = ofSteps s m q := by
  obtain ⟨hge, hle, heven⟩ := h
  have hmcast : (m : ℚ) + 1 ≤ 9007199254740992 := by exact_mod_cast hfits
  have hnear : (m : ℚ) - 1 / 2 ≤ v / 2 ^ q := by
    refine le_trans ?_ hge
    split_ifs <;> linarith
  by_cases hstep : q = -1074 ∨ 4503599627370496 ≤ v / 2 ^ q
  · refine ⟨m, q, ⟨hleast, ?_, ?_, ⟨hnear, hle, ?_⟩⟩, fun _ => rfl⟩
    · rw [← div_lt_iff₀ (two_zpow_pos q)]
      linarith
    · exact hstep.imp_right (le_div_iff₀ (two_zpow_pos q)).mp
    · intro hend
      cases hn : narrow with
      | false =>
        rw [hn] at heven
        exact heven hend
      | true =>
        obtain ⟨hmin, -⟩ := hnarrow.mp hn
        omega
  · obtain ⟨hq, hlow⟩ := not_or.mp hstep
    have hlow := not_le.mp hlow
    have hmin : m = 4503599627370496 := by
      have hmfill := hfill.resolve_left hq
      by_contra hne
      have : (4503599627370496 : ℚ) + 1 ≤ m := by exact_mod_cast (by omega : 4503599627370497 ≤ m)
      linarith
    have hn : narrow = true := hnarrow.mpr ⟨hmin, by omega⟩
    subst hmin
    rw [if_pos hn] at hge
    exact ⟨_, _, rounds_below_power (by omega) (by exact_mod_cast hge) hlow,
      fun s => ofSteps_power s q⟩

/-! ### The parts of a double -/

/-- Is the sign a minus? -/
def isNegative : Sign → Bool
  | .negative => true
  | .positive => false

lemma toNat_packComponents (s : Sign) (exponent : BitVec 11) (mantissa : BitVec 52) :
    (packComponents .binary64 s exponent mantissa).toNat =
      (isNegative s).toNat * 9223372036854775808 + exponent.toNat * 4503599627370496 +
        mantissa.toNat := by
  have hsign : s.toBitVec.toNat = (isNegative s).toNat := by
    cases s <;> rfl
  have happend : (packComponents .binary64 s exponent mantissa).toNat =
      (s.toBitVec ++ exponent ++ mantissa : BitVec (1 + 11 + 52)).toNat := rfl
  rw [happend, BitVec.toNat_append, ← Nat.shiftLeft_add_eq_or_of_lt mantissa.isLt,
    BitVec.toNat_append, ← Nat.shiftLeft_add_eq_or_of_lt exponent.isLt, hsign,
    Nat.shiftLeft_eq, Nat.shiftLeft_eq]
  omega

/-- What is read off the bits of a double. -/
lemma parts_eq {s : Sign} {exponent : BitVec 11} {mantissa : BitVec 52}
    (hbits : x.toModel.toBits.toBitVec = packComponents .binary64 s exponent mantissa) :
    parts x = if exponent = -1#_ then
        if mantissa = 0#_ then .infinite (isNegative s) else .nan
      else if exponent = 0#_ then .finite (isNegative s) mantissa.toNat (-1074) false
      else .finite (isNegative s) (4503599627370496 + mantissa.toNat) (exponent.toNat - 1075)
        (mantissa.toNat == 0 && decide (exponent.toNat > 1)) := by
  have hmantissa : mantissa.toNat < 4503599627370496 := mantissa.isLt
  have hexponent : exponent.toNat < 2048 := exponent.isLt
  have hsign : (isNegative s).toNat ≤ 1 := Bool.toNat_le _
  have hnat : x.toBits.toNat = (isNegative s).toNat * 9223372036854775808 +
      exponent.toNat * 4503599627370496 + mantissa.toNat := by
    rw [← toNat_packComponents, ← hbits]
    rfl
  have hnegative : (x.toBits.toNat / Nat.pow 2 63 % 2 == 1) = isNegative s := by
    change (x.toBits.toNat / 9223372036854775808 % 2 == 1) = isNegative s
    have : x.toBits.toNat / 9223372036854775808 % 2 = (isNegative s).toNat := by omega
    rw [this]
    cases s <;> rfl
  have hexp : x.toBits.toNat / Nat.pow 2 52 % Nat.pow 2 11 = exponent.toNat := by
    change x.toBits.toNat / 4503599627370496 % 2048 = exponent.toNat
    omega
  have hfrac : x.toBits.toNat % Nat.pow 2 52 = mantissa.toNat := by
    change x.toBits.toNat % 4503599627370496 = mantissa.toNat
    omega
  simp only [parts, hnegative, hexp, hfrac, ← BitVec.toNat_inj]
  rfl

/-- The parts that a finite double is written from are those that it is stored with. -/
lemma exists_parts_eq (h : x.isFinite = true) :
    ∃ s m q narrow, x.toModel.unpack = ofSteps s m q ∧
      parts x = .finite (isNegative s) m q narrow ∧ m < 9007199254740992 ∧ -1074 ≤ q ∧
      (q = -1074 ∨ 4503599627370496 ≤ m) ∧
      (narrow = true ↔ m = 4503599627370496 ∧ -1074 < q) := by
  obtain ⟨s, exponent, mantissa, hbits⟩ := exists_packComponents x.toModel.toBits.toBitVec
  have hmantissa : mantissa.toNat < 4503599627370496 := mantissa.isLt
  have hunpack :
      x.toModel.unpack = unpack .binary64 (packComponents .binary64 s exponent mantissa) :=
    congrArg (unpack .binary64) hbits
  rw [unpack_packComponents] at hunpack
  have hparts := parts_eq hbits
  have hfinite : x.toModel.unpack.isFinite = true := h
  rw [hunpack] at hfinite
  by_cases h₁ : exponent = -1#_
  · rw [if_pos h₁] at hfinite
    split_ifs at hfinite <;> cases hfinite
  rw [if_neg h₁] at hunpack hparts
  by_cases h₂ : exponent = 0#_
  · rw [if_pos h₂] at hunpack hparts
    refine ⟨s, mantissa.toNat, -1074, false, ?_, hparts, by omega, le_rfl, .inl rfl, by simp⟩
    rw [hunpack, ofSteps]
    by_cases h₃ : mantissa = 0#_
    · rw [dif_pos h₃, dif_pos (by rw [h₃]; rfl)]
    · have hne : mantissa.toNat ≠ 0 := fun hzero => h₃ (BitVec.eq_of_toNat_eq hzero)
      rw [dif_neg h₃, dif_neg hne, if_neg (by omega), h₂]
      rfl
  · have hne : exponent.toNat ≠ 0 := fun hzero => h₂ (BitVec.eq_of_toNat_eq hzero)
    rw [if_neg h₂] at hunpack hparts
    refine ⟨s, _, _, _, ?_, hparts, by omega, by omega, .inr (by omega), ?_⟩
    · rw [hunpack, ofSteps, dif_neg (by omega), if_neg (by omega)]
      simp only [toNat_implicit]
    · simp only [Bool.and_eq_true, beq_iff_eq, decide_eq_true_eq]
      omega

/-! ### Texts -/

lemma neg_ofSteps (s : Sign) (n : ℕ) (e : ℤ) : (ofSteps s n e).neg = ofSteps (-s) n e := by
  rw [ofSteps, ofSteps]
  split_ifs <;> rfl

lemma neg_neg' (x : Float) : - -x = x := by
  refine eq_of_unpack_eq ?_
  rw [unpack_neg, unpack_neg]
  cases x.toModel.unpack with
  | infinity s => cases s <;> rfl
  | notANumber => rfl
  | zero s => cases s <;> rfl
  | finite s m e hm => cases s <;> rfl

/-- What the digits of a double are read as, whatever its sign. -/
lemma nearest_of_parts {d : ℕ} {k : ℤ} (hfits : m < 9007199254740992) (hleast : -1074 ≤ q)
    (hfill : q = -1074 ∨ 4503599627370496 ≤ m)
    (hnarrow : narrow = true ↔ m = 4503599627370496 ∧ -1074 < q)
    (hvalue : (d * 10 ^ k : ℚ) = if m = 0 then 0 else (shortest m q narrow).value) :
    nearest d k = .ofModel (.pack (ofSteps .positive m q)) := by
  by_cases hm : m = 0
  · rw [if_pos hm] at hvalue
    have hd : d = 0 := by
      simpa [(ten_zpow_pos k).ne'] using hvalue
    rw [nearest, if_pos (.inl hd), ofSteps, dif_pos hm]
    decide +kernel
  · rw [if_neg hm] at hvalue
    have hpos : 0 < m := Nat.pos_of_ne_zero hm
    have hrecovers := recovers_shortest hpos hfits (fun h => (hnarrow.mp h).1) q
    obtain ⟨n, e, hround, hsteps⟩ :=
      rounds_of_recovers hfits hleast hfill hnarrow hrecovers
    have hv : 0 < (shortest m q narrow).value := by
      have hone : (1 : ℚ) ≤ m := by exact_mod_cast hpos
      have hge := hrecovers.ge
      rw [le_div_iff₀ (two_zpow_pos q)] at hge
      refine lt_of_lt_of_le (mul_pos ?_ (two_zpow_pos q)) hge
      split_ifs <;> linarith
    have hnearest := roundsTo_nearest d k
    rw [hvalue] at hnearest
    refine hnearest.unique hv.ne' ⟨.positive, n, e, hv.le, ?_, ?_⟩
    · rwa [abs_of_pos hv]
    · rw [hsteps]

/-- A finite double is read back from its text. -/
theorem readFloat?_exactText (h : x.isFinite = true) : readFloat? (exactText x) = some x := by
  obtain ⟨s, m, q, narrow, hunpack, hparts, hfits, hleast, hfill, hnarrow⟩ := exists_parts_eq h
  obtain ⟨d, k, hliteral, hvalue⟩ := Layout.exact.literal?_write shortest (isNegative s) m q narrow
  rw [readFloat?, dropPadding_eq_self fun c hc => isBlank_of_mem_exactText hc, exactText,
    String.toList_ofList, hparts, hliteral, Option.map_some, Literal.toFloat,
    nearest_of_parts hfits hleast hfill hnarrow hvalue]
  cases s with
  | positive =>
    simp only [isNegative, Bool.false_eq_true, if_false]
    rw [← hunpack, ofModel_pack_unpack]
  | negative =>
    have hneg : (-x).toModel.unpack = ofSteps .positive m q := by
      rw [unpack_neg, hunpack, neg_ofSteps]
      rfl
    simp only [isNegative, if_true]
    rw [← hneg, ofModel_pack_unpack, neg_neg']

end Metrology.Decimal
