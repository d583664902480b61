import Metrology.Magnitude
import Metrology.Proofs.Binary64.Arithmetic

/-!
# The order of doubles

Finite doubles are compared as their values are, so that they are ordered totally, and only the two
zeros are equal without being the same. The infinite doubles stand below and above all others.
Doubles that are equal have the same digest. Multiplying or dividing by one changes no bit, not even
the sign of a zero.
-/

namespace Metrology.Binary64

open Float.Model Float.Model.UnpackedFloat

variable {x y z : Float} {v : ℚ}

/-! ### Comparison -/

/-- Finite doubles can be compared, and the other way round comes the opposite. -/
lemma exists_compare (hx : x.isFinite = true) (hy : y.isFinite = true) :
    ∃ o, x.toModel.unpack.compare y.toModel.unpack = some o ∧
      y.toModel.unpack.compare x.toModel.unpack = some o.swap := by
  rcases unpack_cases hx with ⟨s, hux, -⟩ | ⟨s, m, e, hm, hux, -⟩ <;>
    rcases unpack_cases hy with ⟨t, huy, -⟩ | ⟨t, k, q, hk, huy, -⟩ <;> rw [hux, huy]
  · exact ⟨.eq, rfl, rfl⟩
  · cases t
    · exact ⟨.gt, rfl, rfl⟩
    · exact ⟨.lt, rfl, rfl⟩
  · cases s
    · exact ⟨.lt, rfl, rfl⟩
    · exact ⟨.gt, rfl, rfl⟩
  · have hswap : (compare q e).then (compare k m) = ((compare e q).then (compare m k)).swap := by
      rw [Ordering.swap_then, Int.compare_swap, Nat.compare_swap]
    cases s <;> cases t
    · exact ⟨_, rfl, by rw [UnpackedFloat.compare, hswap]⟩
    · exact ⟨.lt, rfl, rfl⟩
    · exact ⟨.gt, rfl, rfl⟩
    · exact ⟨_, rfl, by rw [UnpackedFloat.compare, hswap]⟩

lemma le_iff_isLE {o : Ordering} (h : x.toModel.unpack.compare y.toModel.unpack = some o) :
    x ≤ y ↔ o.isLE = true := by
  have hle : x ≤ y ↔ x.toModel.unpack.le y.toModel.unpack = true := decide_eq_true_iff
  rw [hle, UnpackedFloat.le, h, Option.any_some]

lemma lt_iff_eq_lt {o : Ordering} (h : x.toModel.unpack.compare y.toModel.unpack = some o) :
    x < y ↔ o = .lt := by
  have hlt : x < y ↔ x.toModel.unpack.lt y.toModel.unpack = true := decide_eq_true_iff
  rw [hlt, UnpackedFloat.lt, h]
  cases o <;> decide

lemma beq_iff_eq_eq {o : Ordering} (h : x.toModel.unpack.compare y.toModel.unpack = some o) :
    (x == y) = true ↔ o = .eq := by
  have hbeq : (x == y) = x.toModel.unpack.beq y.toModel.unpack := rfl
  rw [hbeq, UnpackedFloat.beq, h]
  cases o <;> decide

section Finite

variable (hx : x.isFinite = true) (hy : y.isFinite = true)
include hx hy

lemma le_or_le : x ≤ y ∨ y ≤ x := by
  obtain ⟨o, h, hswap⟩ := exists_compare hx hy
  rw [le_iff_isLE h, le_iff_isLE hswap]
  cases o <;> decide

lemma lt_iff_not_le : x < y ↔ ¬ y ≤ x := by
  obtain ⟨o, h, hswap⟩ := exists_compare hx hy
  rw [lt_iff_eq_lt h, le_iff_isLE hswap]
  cases o <;> decide

lemma beq_iff_le_and_le : (x == y) = true ↔ x ≤ y ∧ y ≤ x := by
  obtain ⟨o, h, hswap⟩ := exists_compare hx hy
  rw [beq_iff_eq_eq h, le_iff_isLE h, le_iff_isLE hswap]
  cases o <;> decide

lemma value_le_of_le (h : x ≤ y) : value x ≤ value y :=
  toRat_le (isCanonical_toModel x) (isCanonical_toModel y) hx hy (of_decide_eq_true h)

/-- Only zero is the value of two doubles, and those are equal. -/
lemma beq_of_value_eq (h : value x = value y) : (x == y) = true := by
  by_cases hzero : value x = 0
  · have hx₀ : (x == 0.0) = true := (beq_zero_iff hx).mpr hzero
    have hy₀ : (y == 0.0) = true := (beq_zero_iff hy).mpr (h ▸ hzero)
    exact BEq.trans hx₀ (BEq.symm hy₀)
  · obtain rfl : x = y := RoundsTo.unique hzero (roundsTo_value hx) (h ▸ roundsTo_value hy)
    rw [Float.beq_self_iff]
    rintro rfl
    cases hx

theorem le_iff_value_le : x ≤ y ↔ value x ≤ value y := by
  refine ⟨value_le_of_le hx hy, fun h => ?_⟩
  rcases le_or_le hx hy with hxy | hyx
  · exact hxy
  · have heq : value x = value y := le_antisymm h (value_le_of_le hy hx hyx)
    exact ((beq_iff_le_and_le hx hy).mp (beq_of_value_eq hx hy heq)).1

theorem lt_iff_value_lt : x < y ↔ value x < value y := by
  rw [lt_iff_not_le hx hy, le_iff_value_le hy hx, not_le]

theorem beq_iff_value_eq : (x == y) = true ↔ value x = value y := by
  rw [beq_iff_le_and_le hx hy, le_iff_value_le hx hy, le_iff_value_le hy hx, le_antisymm_iff]

end Finite

/-! ### The infinite doubles -/

/-- Where a double stands among all numbers, the infinite ones included. What is no number stands
with the zeros here. -/
def rank (x : Float) : WithBot (WithTop ℚ) :=
  match x.toModel.unpack with
  | .infinity .positive => ⊤
  | .infinity .negative => ⊥
  | u => ((toRat u : WithTop ℚ) : WithBot (WithTop ℚ))

lemma rank_of_isFinite (hx : x.isFinite = true) :
    rank x = ((value x : WithTop ℚ) : WithBot (WithTop ℚ)) := by
  rcases unpack_cases hx with ⟨s, hux, -⟩ | ⟨s, m, e, hm, hux, -⟩ <;> rw [rank, value, hux]

/-- A double that is a number is infinite or finite. -/
lemma rank_cases (hx : x.isNaN = false) :
    x.toModel.unpack = .infinity .positive ∧ rank x = ⊤ ∨
      x.toModel.unpack = .infinity .negative ∧ rank x = ⊥ ∨ x.isFinite = true := by
  have hnan : x.toModel.unpack.isNaN = false := hx
  have hfinite : x.isFinite = x.toModel.unpack.isFinite := rfl
  rw [hfinite, rank]
  cases hux : x.toModel.unpack with
  | infinity s =>
    cases s with
    | positive => exact .inl ⟨rfl, rfl⟩
    | negative => exact .inr (.inl ⟨rfl, rfl⟩)
  | notANumber =>
    rw [hux] at hnan
    cases hnan
  | zero s => exact .inr (.inr rfl)
  | finite s m e hm => exact .inr (.inr rfl)

lemma compare_infinity_of_isFinite (hy : y.isFinite = true) (s : Sign) :
    UnpackedFloat.compare (.infinity s) y.toModel.unpack =
        some (match s with | .positive => .gt | .negative => .lt) ∧
      y.toModel.unpack.compare (.infinity s) =
        some (match s with | .positive => .lt | .negative => .gt) := by
  rcases unpack_cases hy with ⟨t, huy, -⟩ | ⟨t, k, q, hk, huy, -⟩ <;> rw [huy] <;> cases s <;>
    exact ⟨rfl, rfl⟩

lemma compares_value (hx : x.isFinite = true) (hy : y.isFinite = true) {o : Ordering}
    (h : x.toModel.unpack.compare y.toModel.unpack = some o)
    (hswap : y.toModel.unpack.compare x.toModel.unpack = some o.swap) :
    o.Compares (value x) (value y) := by
  cases o with
  | lt => exact (lt_iff_value_lt hx hy).mp ((lt_iff_eq_lt h).mpr rfl)
  | eq => exact (beq_iff_value_eq hx hy).mp ((beq_iff_eq_eq h).mpr rfl)
  | gt => exact (lt_iff_value_lt hy hx).mp ((lt_iff_eq_lt hswap).mpr rfl)

/-- Doubles that are numbers are compared as they are ranked. -/
lemma exists_compares_rank (hx : x.isNaN = false) (hy : y.isNaN = false) :
    ∃ o, x.toModel.unpack.compare y.toModel.unpack = some o ∧ o.Compares (rank x) (rank y) := by
  rcases rank_cases hx with ⟨hux, hrx⟩ | ⟨hux, hrx⟩ | hfx <;>
    rcases rank_cases hy with ⟨huy, hry⟩ | ⟨huy, hry⟩ | hfy
  · rw [hux, huy, hrx, hry]
    exact ⟨.eq, rfl, rfl⟩
  · rw [hux, huy, hrx, hry]
    exact ⟨.gt, rfl, bot_lt_top⟩
  · rw [hux, hrx, rank_of_isFinite hfy]
    exact ⟨.gt, (compare_infinity_of_isFinite hfy .positive).1,
      WithBot.coe_lt_coe.mpr (WithTop.coe_lt_top _)⟩
  · rw [hux, huy, hrx, hry]
    exact ⟨.lt, rfl, bot_lt_top⟩
  · rw [hux, huy, hrx, hry]
    exact ⟨.eq, rfl, rfl⟩
  · rw [hux, hrx, rank_of_isFinite hfy]
    exact ⟨.lt, (compare_infinity_of_isFinite hfy .negative).1, WithBot.bot_lt_coe _⟩
  · rw [huy, hry, rank_of_isFinite hfx]
    exact ⟨.lt, (compare_infinity_of_isFinite hfx .positive).2,
      WithBot.coe_lt_coe.mpr (WithTop.coe_lt_top _)⟩
  · rw [huy, hry, rank_of_isFinite hfx]
    exact ⟨.gt, (compare_infinity_of_isFinite hfx .negative).2, WithBot.bot_lt_coe _⟩
  · obtain ⟨o, h, hswap⟩ := exists_compare hfx hfy
    refine ⟨o, h, ?_⟩
    rw [rank_of_isFinite hfx, rank_of_isFinite hfy]
    have hvalue := compares_value hfx hfy h hswap
    cases o with
    | lt => exact WithBot.coe_lt_coe.mpr (WithTop.coe_lt_coe.mpr hvalue)
    | eq => exact congrArg _ (congrArg _ hvalue)
    | gt => exact WithBot.coe_lt_coe.mpr (WithTop.coe_lt_coe.mpr hvalue)

lemma lt_iff_rank_lt (hx : x.isNaN = false) (hy : y.isNaN = false) : x < y ↔ rank x < rank y := by
  obtain ⟨o, h, hrank⟩ := exists_compares_rank hx hy
  rw [lt_iff_eq_lt h, hrank.eq_lt]

lemma le_iff_rank_le (hx : x.isNaN = false) (hy : y.isNaN = false) : x ≤ y ↔ rank x ≤ rank y := by
  obtain ⟨o, h, hrank⟩ := exists_compares_rank hx hy
  rw [le_iff_isLE h, ← hrank.ne_gt]
  cases o <;> decide

lemma beq_iff_rank_eq (hx : x.isNaN = false) (hy : y.isNaN = false) :
    (x == y) = true ↔ rank x = rank y := by
  obtain ⟨o, h, hrank⟩ := exists_compares_rank hx hy
  rw [beq_iff_eq_eq h, hrank.eq_eq]

lemma isNaN_eq_false_of_isFinite (hx : x.isFinite = true) : x.isNaN = false := by
  have hnan : x.isNaN = x.toModel.unpack.isNaN := rfl
  rcases unpack_cases hx with ⟨s, hux, -⟩ | ⟨s, m, e, hm, hux, -⟩ <;> rw [hnan, hux] <;> rfl

/-! ### Equal doubles -/

/-- What is no number equals nothing. -/
lemma isNaN_eq_false_of_beq (h : (x == y) = true) : x.isNaN = false ∧ y.isNaN = false := by
  obtain ⟨hx, hy, -⟩ := Float.beq_iff_ne_nan_and_eq.mp h
  rw [Float.isNaN_eq_decide_eq_nan, Float.isNaN_eq_decide_eq_nan]
  exact ⟨decide_eq_false hx, decide_eq_false hy⟩

/-- The two zeros. -/
lemma isFinite_zeros :
    (0 : Float) = 0.0 ∧ (0.0 : Float).isFinite = true ∧ (-0.0 : Float).isFinite = true := by
  decide +kernel

/-- Doubles that are equal are the same, or both are zeros. -/
lemma eq_or_isFinite_of_beq (h : (x == y) = true) :
    x = y ∨ x.isFinite = true ∧ y.isFinite = true := by
  obtain ⟨hzero, hpositive, hnegative⟩ := isFinite_zeros
  obtain ⟨-, -, heq | ⟨rfl, rfl⟩ | ⟨rfl, rfl⟩⟩ := Float.beq_iff_ne_nan_and_eq.mp h
  · exact .inl heq
  · rw [hzero]
    exact .inr ⟨hpositive, hnegative⟩
  · rw [hzero]
    exact .inr ⟨hnegative, hpositive⟩

lemma isFinite_of_beq (h : (x == y) = true) (hy : y.isFinite = true) : x.isFinite = true := by
  rcases eq_or_isFinite_of_beq h with rfl | ⟨hx, -⟩
  · exact hy
  · exact hx

/-- An infinite double is equal to no other. -/
lemma eq_of_beq_of_infinite (h : (x == y) = true) (hx : x.isFinite = false) : x = y := by
  rcases eq_or_isFinite_of_beq h with heq | ⟨hfinite, -⟩
  · exact heq
  · rw [hx] at hfinite
    cases hfinite

/-! ### Zero -/

lemma RoundsTo.beq_zero (h : RoundsTo 0 x) : (x == 0.0) = true := by
  have hvalue : (0 : ℚ) = (0 : ℕ) * 2 ^ (0 : ℤ) := by norm_num
  obtain ⟨hfinite, hzero⟩ :=
    h.value_eq (k := 0) (by decide) (by decide) hvalue (by norm_num) (by decide)
  exact (beq_zero_iff hfinite).mpr hzero

lemma isFinite_of_beq_zero (h : (x == 0.0) = true) : x.isFinite = true :=
  isFinite_of_beq h isFinite_zeros.2.1

/-- A product of zero and a finite double is zero. -/
lemma beq_zero_mul (hx : (x == 0.0) = true) (hy : y.isFinite = true) :
    (x * y == 0.0) = true := by
  have hround := roundsTo_mul (isFinite_of_beq_zero hx) hy
  rw [(beq_zero_iff (isFinite_of_beq_zero hx)).mp hx, zero_mul] at hround
  exact hround.beq_zero

/-- A quotient of zero by another finite double is zero. -/
lemma beq_zero_div (hx : (x == 0.0) = true) (hy : y.isFinite = true)
    (hne : ¬ (y == 0.0) = true) : (x / y == 0.0) = true := by
  have hround := roundsTo_div (isFinite_of_beq_zero hx) hy (mt (beq_zero_iff hy).mpr hne)
  rw [(beq_zero_iff (isFinite_of_beq_zero hx)).mp hx, zero_div] at hround
  exact hround.beq_zero

/-! ### Rounding one number twice -/

/-- What is too large for a double is packed as an infinite one. -/
lemma isNaN_unpack_pack {s : Sign} {m : ℕ} {e : ℤ} (hm : 0 < m) (hfits : m < 9007199254740992)
    (hleast : -1074 ≤ e) (hfill : e = -1074 ∨ 4503599627370496 ≤ m) :
    (UnpackedFloat.unpack .binary64 (pack .binary64 (.finite s m e hm))).isNaN = false := by
  by_cases hmost : e ≤ 971
  · rw [unpack_pack (x := .finite s m e hm) ⟨hfits, hleast, hmost, hfill⟩]
    rfl
  · rw [pack_finite, if_pos (by omega), unpack_packedInfinity]
    rfl

/-- What is rounded to is a number, if only an infinite one. -/
lemma RoundsTo.isNaN_eq_false (h : RoundsTo v x) : x.isNaN = false := by
  obtain ⟨s, n, e, -, hround, rfl⟩ := h
  have hleast := hround.least
  have hfits := hround.le_fits
  change (UnpackedFloat.unpack .binary64 (pack .binary64 (ofSteps s n e))).isNaN = false
  unfold ofSteps
  split_ifs with hzero hmax
  · rw [unpack_pack (x := .zero s) trivial]
    rfl
  · exact isNaN_unpack_pack _ (by decide) (by omega) (.inr le_rfl)
  · exact isNaN_unpack_pack _ (by omega) hleast hround.fills_le

/-- All doubles that a number rounds to are equal. -/
lemma RoundsTo.beq (hx : RoundsTo v x) (hy : RoundsTo v y) : (x == y) = true := by
  by_cases hv : v = 0
  · subst hv
    exact BEq.trans hx.beq_zero (BEq.symm hy.beq_zero)
  · rw [hx.unique hv hy, Float.beq_self_iff]
    rintro rfl
    have hnan := hy.isNaN_eq_false
    rw [Float.isNaN_eq_decide_eq_nan] at hnan
    exact absurd rfl (of_decide_eq_false hnan)

/-- Adding a zero makes no difference. -/
lemma beq_zero_add (hz : (z == 0.0) = true) (hx : x.isFinite = true) : (z + x == x) = true := by
  have hround := roundsTo_add (isFinite_of_beq_zero hz) hx
  rw [(beq_zero_iff (isFinite_of_beq_zero hz)).mp hz, zero_add] at hround
  exact hround.beq (roundsTo_value hx)

/-! ### One -/

lemma unpack_one :
    (1.0 : Float).toModel.unpack = .finite .positive 4503599627370496 (-52) (by decide) := by
  have hone : (1.0 : Float) =
      .ofModel (.pack (.finite .positive 4503599627370496 (-52) (by decide))) := by decide +kernel
  rw [hone]
  exact unpack_ofModel_pack ⟨by decide, by decide, by decide, .inr le_rfl⟩

lemma isFinite_one : (1.0 : Float).isFinite = true := by
  have hfinite : (1.0 : Float).isFinite = (1.0 : Float).toModel.unpack.isFinite := rfl
  rw [hfinite, unpack_one]
  rfl

lemma value_one : value 1.0 = 1 := by
  rw [value, unpack_one, toRat]
  norm_num [Sign.apply]

/-- There are two doubles whose value is zero. -/
lemma eq_zero_or_eq_neg_zero (hx : x.isFinite = true) (h : value x = 0) : x = 0.0 ∨ x = -0.0 := by
  have hzero := isFinite_zeros.1
  obtain ⟨-, -, h | ⟨h, -⟩ | ⟨h, -⟩⟩ := Float.beq_iff_ne_nan_and_eq.mp ((beq_zero_iff hx).mpr h)
  · exact .inl h
  · exact .inl (h.trans hzero)
  · exact .inr (h.trans (congrArg (-·) hzero))

/-- A double that is not finite is one of three. -/
lemma isFinite_or_eq (x : Float) :
    x.isFinite = true ∨ x = 1.0 / 0.0 ∨ x = -1.0 / 0.0 ∨ x = 0.0 / 0.0 := by
  have hpack : ∀ {u}, x.toModel.unpack = u → x = .ofModel (.pack u) := by
    rintro u rfl
    exact (ofModel_pack_unpack x).symm
  have hfinite : x.isFinite = x.toModel.unpack.isFinite := rfl
  rw [hfinite]
  cases hux : x.toModel.unpack with
  | infinity s =>
    cases s with
    | positive => exact .inr (.inl ((hpack hux).trans (by decide +kernel)))
    | negative => exact .inr (.inr (.inl ((hpack hux).trans (by decide +kernel))))
  | notANumber => exact .inr (.inr (.inr ((hpack hux).trans (by decide +kernel))))
  | zero s => exact .inl rfl
  | finite s m e hm => exact .inl rfl

/-- The doubles that are not known from their values: the two zeros and those that are not finite. -/
def specials : List Float := [0.0, -0.0, 1.0 / 0.0, -1.0 / 0.0, 0.0 / 0.0]

/-- What keeps the special doubles and the values of all others keeps all doubles. -/
lemma eq_self_of_forall_specials {f : Float → Float}
    (hround : ∀ x, x.isFinite = true → RoundsTo (value x) (f x)) (h : ∀ x ∈ specials, f x = x)
    (x : Float) : f x = x := by
  rcases isFinite_or_eq x with hx | hx | hx | hx
  · by_cases hv : value x = 0
    · have hzero := eq_zero_or_eq_neg_zero hx hv
      exact h x (by simp [specials, ← or_assoc, hzero])
    · exact RoundsTo.unique hv (hround x hx) (roundsTo_value hx)
  all_goals exact h x (by simp [specials, hx])

lemma one_specials : ∀ x ∈ specials, x * 1.0 = x ∧ 1.0 * x = x ∧ x / 1.0 = x := by
  decide +kernel

/-- One is neutral for all doubles, also those that are not finite. -/
lemma mul_one_eq (x : Float) : x * 1.0 = x := by
  refine eq_self_of_forall_specials (fun x hx => ?_) (fun x hx => (one_specials x hx).1) x
  have hround := roundsTo_mul hx isFinite_one
  rwa [value_one, mul_one] at hround

lemma one_mul_eq (x : Float) : 1.0 * x = x := by
  refine eq_self_of_forall_specials (fun x hx => ?_) (fun x hx => (one_specials x hx).2.1) x
  have hround := roundsTo_mul isFinite_one hx
  rwa [value_one, one_mul] at hround

lemma div_one_eq (x : Float) : x / 1.0 = x := by
  refine eq_self_of_forall_specials (fun x hx => ?_) (fun x hx => (one_specials x hx).2.2) x
  have hround := roundsTo_div hx isFinite_one (value_one ▸ one_ne_zero)
  rwa [value_one, div_one] at hround

end Metrology.Binary64
