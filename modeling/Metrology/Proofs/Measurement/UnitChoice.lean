import Metrology.Proofs.Fault
import Metrology.Proofs.Measurement.Exact
import Metrology.Proofs.Unit.Layered

/-!
# The choice of units

The same quantity can be given in many units: it is in base form that it shows. With exact
magnitudes each operation on the same quantities gives the same quantity, or fails in the same way,
whichever units the operands are in and whether or not their units are joined.
-/

namespace Metrology.Measurement

/-- The two measurements have the same base form. -/
structure SameQuantity (a b : Measurement Rat) : Prop where
  left : a.unit.IsBuiltIn
  right : b.unit.IsBuiltIn
  root : a.unit.root = b.unit.root
  worth : a.worth = b.worth

lemma worth_eq_zero_iff {a : Measurement Rat} (ha : a.unit.IsBuiltIn) :
    a.worth = 0 ↔ a.magnitude = 0 := by
  simp [worth, (Unit.factor_pos ha).ne']

lemma sameQuantity_refl {a : Measurement Rat} (ha : a.unit.IsBuiltIn) : SameQuantity a a :=
  ⟨ha, ha, rfl, rfl⟩

namespace SameQuantity

variable {a a' b b' : Measurement Rat}

lemma inBase_eq (h : SameQuantity a a') : a.inBase = a'.inBase := by
  simp [inBase_eq_ok h.left, inBase_eq_ok h.right, h.root, h.worth]

lemma dimension_eq (h : SameQuantity a a') : a.unit.dimension = a'.unit.dimension := by
  rw [← Unit.dimension_root h.left, ← Unit.dimension_root h.right, h.root]

/-- A magnitude is zero in every unit or in none. -/
lemma beq_zero_eq (h : SameQuantity a a') :
    (a.magnitude == 0.0) = (a'.magnitude == 0.0) := by
  have hzero : a.magnitude = 0 ↔ a'.magnitude = 0 := by
    rw [← worth_eq_zero_iff h.left, ← worth_eq_zero_iff h.right, h.worth]
  by_cases h0 : a.magnitude = 0
  · rw [h0, hzero.mp h0]
  · rw [beq_zero_eq_false_iff.mpr h0, beq_zero_eq_false_iff.mpr (mt hzero.mpr h0)]

/-! ### Operations -/

variable (ha : SameQuantity a a') (hb : SameQuantity b b')

include ha hb

/-- The same two measurements in base form come of both pairs, if any. -/
lemma inCommonBase_agree :
    Agree (fun p q => p = q ∧ p.1.unit.IsBuiltIn) (a.inCommonBase b) (a'.inCommonBase b') := by
  unfold inCommonBase
  rw [ha.dimension_eq, hb.dimension_eq, ha.inBase_eq, hb.inBase_eq, inBase_eq_ok ha.right,
    inBase_eq_ok hb.right]
  simp only [ok_bind]
  by_cases hd : a'.unit.dimension = b'.unit.dimension
  · rw [if_pos hd, if_pos hd]
    by_cases hname : a'.unit.root.name = b'.unit.root.name
    · rw [if_pos hname, if_pos hname]
      exact agree_ok.mpr ⟨rfl, Unit.isBuiltIn_root ha.right⟩
    · rw [if_neg hname, if_neg hname]
      exact agree_error.mpr rfl
  · rw [if_neg hd, if_neg hd]
    exact agree_error.mpr rfl

/-- Whatever is done with the two base forms agrees. -/
lemma bind_inCommonBase_agree {f : Measurement Rat × Measurement Rat → Rat} :
    Agree SameQuantity (a.inCommonBase b >>= fun p => ofMagnitude (f p) p.1.unit)
      (a'.inCommonBase b' >>= fun p => ofMagnitude (f p) p.1.unit) := by
  refine (inCommonBase_agree ha hb).bind ?_
  rintro p _ ⟨rfl, hp⟩
  rw [ofMagnitude_rat]
  exact agree_ok.mpr (sameQuantity_refl hp)

/-- Magnitudes and units that are joined in the same way give the same quantity. -/
lemma join_agree (j : Join) :
    Agree SameQuantity (ofMagnitude (j.combine a.magnitude b.magnitude) (a.unit.join j b.unit))
      (ofMagnitude (j.combine a'.magnitude b'.magnitude) (a'.unit.join j b'.unit)) := by
  rw [ofMagnitude_rat, ofMagnitude_rat]
  refine agree_ok.mpr ⟨Unit.isBuiltIn_join ha.left hb.left j,
    Unit.isBuiltIn_join ha.right hb.right j, ?_, ?_⟩
  · rw [Unit.root_join, Unit.root_join, ha.root, hb.root]
  · calc Measurement.worth ⟨j.combine a.magnitude b.magnitude, a.unit.join j b.unit, rfl⟩
      _ = j.combine a.worth b.worth := worth_of_unit_eq_join rfl rfl
      _ = j.combine a'.worth b'.worth := by rw [ha.worth, hb.worth]
      _ = Measurement.worth ⟨j.combine a'.magnitude b'.magnitude, a'.unit.join j b'.unit, rfl⟩ :=
        (worth_of_unit_eq_join rfl rfl).symm

lemma mul_agree : Agree SameQuantity (a.mul b) (a'.mul b') := by
  unfold mul
  rw [ha.dimension_eq, hb.dimension_eq]
  split
  · exact bind_inCommonBase_agree ha hb
  · exact join_agree ha hb .times

lemma div_agree : Agree SameQuantity (a.div b) (a'.div b') := by
  unfold div
  rw [ha.dimension_eq, hb.dimension_eq, hb.beq_zero_eq]
  split
  · exact agree_error.mpr rfl
  · split
    · refine (inCommonBase_agree ha hb).bind ?_
      rintro ⟨x, y⟩ _ ⟨rfl, hx⟩
      dsimp only
      split
      · exact agree_error.mpr rfl
      · rw [ofMagnitude_rat]
        exact agree_ok.mpr (sameQuantity_refl hx)
    · exact join_agree ha hb .per

lemma apply_agree (op : Operator) : Agree SameQuantity (op.apply a b) (op.apply a' b') := by
  cases op with
  | add | sub => exact bind_inCommonBase_agree ha hb
  | mul => exact mul_agree ha hb
  | div => exact div_agree ha hb

end SameQuantity

/-! ### Conversion -/

/-- A measurement can be converted to every compatible unit, and is the same quantity there. -/
lemma convert_eq_ok {a : Measurement Rat} {u : Unit Rat} (ha : a.unit.IsLayered)
    (hu : u.IsLayered) (h : a.unit.isCompatible u = .ok true) :
    ∃ c, a.convert u = .ok c ∧ SameQuantity a c := by
  obtain ⟨-, hname⟩ := (Unit.isCompatible_eq_ok_true_of_isBuiltIn ha.isBuiltIn hu.isBuiltIn).mp h
  have hroot : a.unit.root = u.root := ha.root.name_inj hu.root hname
  exact ⟨_, convert_eq ha.isBuiltIn hu.isBuiltIn h, ha.isBuiltIn, hu.isBuiltIn, hroot,
    (worth_div_factor hu.isBuiltIn).symm⟩

end Metrology.Measurement
