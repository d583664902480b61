import Metrology.Proofs.Binary64.Rounding

/-!
# Packing

Doubles with 53 bits at most and an exponent in range are packed and unpacked without loss, and what
is unpacked is always of that form. So a double is known from its value and its sign.
-/

namespace Metrology.Binary64

open Float.Model Float.Model.UnpackedFloat

/-- Is the unpacked double of the one form that is stored? -/
def IsCanonical : UnpackedFloat → Prop
  | .finite _ m e _ =>
    m < 9007199254740992 ∧ -1074 ≤ e ∧ e ≤ 971 ∧ (e = -1074 ∨ 4503599627370496 ≤ m)
  | _ => True

/-! ### The components of a packed double -/

variable {s : Sign} {m : ℕ} {e : ℤ}

/-- The implicit bit in front of the stored ones. -/
lemma toNat_implicit (mantissa : BitVec 52) :
    (1#1 ++ mantissa).toNat = 4503599627370496 + mantissa.toNat := by
  rw [BitVec.toNat_append, ← Nat.shiftLeft_add_eq_or_of_lt mantissa.isLt]
  rfl

/-- What is stored in the components of a double. -/
lemma unpack_packComponents (s : Sign) (exponent : BitVec 11) (mantissa : BitVec 52) :
    unpack .binary64 (packComponents .binary64 s exponent mantissa) =
      if exponent = -1#_ then if mantissa = 0#_ then .infinity s else .notANumber
      else if exponent = 0#_ then
        if h : mantissa = 0#_ then .zero s
        else .finite s mantissa.toNat (exponent.toNat - 1075 + 1)
          (by simpa [BitVec.toNat_pos, BitVec.pos_iff_ne_zero])
      else .finite s (1#1 ++ mantissa).toNat (exponent.toNat - 1075)
        (toNat_implicit mantissa ▸ by omega) := by
  rw [UnpackedFloat.unpack]
  simp only [unpackMantissa_packComponents, unpackExponent_packComponents,
    unpackSign_packComponents, Sign.ofBitVec_toBitVec]
  rfl

lemma unpack_packedInfinity (s : Sign) :
    unpack .binary64 (packedInfinity .binary64 s) = .infinity s := by
  rw [packedInfinity, unpack_packComponents]
  rfl

lemma pack_finite (s : Sign) (e : ℤ) (hm : 0 < m) :
    pack .binary64 (.finite s m e hm) =
      if 2048 ≤ (e + 1075).toNat + 1 then packedInfinity .binary64 s
      else if m.log2 + 1 = 53 then
        packComponents .binary64 s (.ofNat 11 (e + 1075).toNat) (.ofNat 52 m)
      else packComponents .binary64 s 0#_ (.ofNat 52 m) := by
  have hbias : e + (Format.binary64.exponentBias : ℤ) +
      (Format.binary64.mantissaBitsWithoutImplicit : ℤ) = e + 1075 := by
    change e + 1023 + 52 = e + 1075
    ring
  rw [UnpackedFloat.pack, hbias]
  rfl

/-- A mantissa of 53 bits is the one that an implicit bit belongs to. -/
lemma log2_eq_iff (hm : 0 < m) (h : m < 9007199254740992) :
    m.log2 + 1 = 53 ↔ 4503599627370496 ≤ m := by
  have hfits := (Nat.log2_lt hm.ne').mpr (show m < 2 ^ 53 from h)
  have hfill : 52 ≤ m.log2 ↔ 4503599627370496 ≤ m := Nat.le_log2 hm.ne'
  omega

lemma unpack_pack_normal {s : Sign} {e : ℤ} (hm : 0 < m) (hfits : m < 9007199254740992)
    (hfill : 4503599627370496 ≤ m) (hleast : -1074 ≤ e) (hmost : e ≤ 971) :
    unpack .binary64 (pack .binary64 (.finite s m e hm)) = .finite s m e hm := by
  set b := (e + 1075).toNat with hb
  have hexponent : (BitVec.ofNat 11 b).toNat = b := by
    rw [BitVec.toNat_ofNat]
    omega
  have hones : BitVec.ofNat 11 b ≠ -1#_ := by
    intro h
    rw [h] at hexponent
    simp at hexponent
    omega
  have hzero : BitVec.ofNat 11 b ≠ 0#_ := by
    intro h
    rw [h] at hexponent
    simp at hexponent
    omega
  rw [pack_finite, ← hb, if_neg (by omega), if_pos ((log2_eq_iff hm hfits).mpr hfill),
    unpack_packComponents, if_neg hones, if_neg hzero]
  congr 1
  · rw [toNat_implicit, BitVec.toNat_ofNat]
    omega
  · rw [hexponent]
    omega

lemma unpack_pack_subnormal {s : Sign} (hm : 0 < m) (h : m < 4503599627370496) :
    unpack .binary64 (pack .binary64 (.finite s m (-1074) hm)) = .finite s m (-1074) hm := by
  have hmantissa : (BitVec.ofNat 52 m).toNat = m := by
    rw [BitVec.toNat_ofNat]
    omega
  have hne : BitVec.ofNat 52 m ≠ 0#_ := by
    intro hzero
    rw [hzero] at hmantissa
    simp at hmantissa
    omega
  rw [pack_finite, if_neg (by decide), if_neg (mt (log2_eq_iff hm (by omega)).mp (by omega)),
    unpack_packComponents, if_neg (by decide), if_pos rfl, dif_neg hne]
  congr 1

/-- A double of the stored form is stored without loss. -/
lemma unpack_pack {x : UnpackedFloat} (h : IsCanonical x) :
    unpack .binary64 (pack .binary64 x) = x := by
  cases x with
  | infinity s => exact unpack_packedInfinity s
  | notANumber => exact unpack_packedNaN
  | zero s => exact unpack_packedZero
  | finite s m e hm =>
    obtain ⟨hfits, hleast, hmost, hfill⟩ := h
    by_cases hnormal : 4503599627370496 ≤ m
    · exact unpack_pack_normal hm hfits hnormal hleast hmost
    · obtain rfl := hfill.resolve_right hnormal
      exact unpack_pack_subnormal hm (not_le.mp hnormal)

/-! ### Unpacking -/

lemma exists_packComponents (b : BitVec 64) :
    ∃ s exponent mantissa, b = packComponents .binary64 s exponent mantissa :=
  ⟨_, _, _, (@packComponents_unpackSign_unpackExponent_unpackMantissa .binary64 b).symm⟩

lemma isCanonical_unpack (b : BitVec 64) : IsCanonical (unpack .binary64 b) := by
  obtain ⟨s, exponent, mantissa, rfl⟩ := exists_packComponents b
  have hmantissa : mantissa.toNat < 4503599627370496 := mantissa.isLt
  have hexponent : exponent.toNat < 2048 := exponent.isLt
  rw [unpack_packComponents]
  split_ifs with h₁ h₂ h₃ h₄
  · trivial
  · trivial
  · trivial
  · subst h₃
    exact ⟨by omega, by simp, by simp, by simp⟩
  · have hlarge : exponent.toNat ≠ 2047 := by
      intro h
      exact h₁ (BitVec.eq_of_toNat_eq (by simpa using h))
    have hsmall : exponent.toNat ≠ 0 := by
      intro h
      exact h₃ (BitVec.eq_of_toNat_eq (by simpa using h))
    rw [IsCanonical, toNat_implicit]
    omega

/-- A stored double is packed as it was. -/
lemma pack_unpack (f : Float.Model) : Float.Model.pack f.unpack = f := by
  obtain ⟨⟨b⟩, hvalid⟩ := f
  simp only [Float.Model.pack, Float.Model.unpack, pack_unpack_of_valid hvalid]

end Metrology.Binary64
