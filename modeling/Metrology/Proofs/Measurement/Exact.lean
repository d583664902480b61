import Metrology.Proofs.Measurement.Operations
import Metrology.Proofs.Unit.Factor

/-!
# Exact measurements

With exact magnitudes and built-in units, conversion to the base unit always succeeds, and a
measurement is worth its magnitude there. It does not matter whether an operation is done in a
common base unit or joins the units: it computes with worths.
-/

namespace Metrology

/-! ### Base form -/

lemma Measurement.ofMagnitude_rat (x : Rat) (u : Unit Rat) : ofMagnitude x u = .ok ⟨x, u, rfl⟩ :=
  ofMagnitude_eq_ok.mpr ⟨rfl, rfl⟩

mutual

lemma Unit.measureInBase_eq_ok {u : Unit Rat} (hu : u.IsBuiltIn) (x : Rat) :
    u.measureInBase x = .ok ⟨x * u.factor, u.root, rfl⟩ := by
  match u with
  | .simple u =>
    rw [Unit.isBuiltIn_simple] at hu
    rw [Unit.measureInBase, (SimpleUnit.root_of_mem_builtIn hu).1, ok_bind,
      Measurement.ofMagnitude_rat]
    simp [SimpleUnit.toBase]
  | .compound c =>
    rw [Unit.isBuiltIn_compound] at hu
    rw [Unit.measureInBase, Compound.measureInBase_eq_ok hu, ok_bind, Compound.base_eq_root hu,
      ok_bind, Measurement.ofMagnitude_rat]
    simp

lemma Compound.measureInBase_eq_ok {c : Compound Rat} (hc : c.IsBuiltIn) (x : Rat) :
    c.measureInBase x = .ok (x * c.factor) := by
  match c with
  | .single u =>
    rw [Compound.isBuiltIn_single] at hc
    rw [Compound.measureInBase, Unit.measureInBase_eq_ok hc, Compound.factor_single]
    rfl
  | .snoc c j u =>
    rw [Compound.isBuiltIn_snoc] at hc
    have hone : (1.0 : Rat) * u.factor = u.factor := by norm_num
    rw [Compound.measureInBase, Compound.measureInBase_eq_ok hc.1, ok_bind,
      Unit.measureInBase_eq_ok hc.2, ok_bind, hone, Compound.factor_snoc, Join.mul_combine]
    exact Join.apply_eq_ok j (Unit.factor_pos hc.2).ne'

end

/-- Conversion to the base unit multiplies by the unit's factor. -/
lemma Unit.toBase_eq_mul_factor {u : Unit Rat} (hu : u.IsBuiltIn) (x : Rat) :
    u.toBase x = .ok (x * u.factor) :=
  (Unit.base_and_toBase_of_measureInBase (Unit.measureInBase_eq_ok hu x)).2

/-! ### To the base unit and back -/

namespace Unit

variable {u v : Unit Rat} (hu : u.IsBuiltIn)

include hu

lemma fromBase_of_toBase (x : Rat) : (u.toBase x >>= u.fromBase) = .ok x := by
  rw [toBase_eq_mul_factor hu, ok_bind, fromBase_eq_div_factor hu,
    mul_div_cancel_right₀ x (factor_pos hu).ne']

lemma toBase_of_fromBase (x : Rat) : (u.fromBase x >>= u.toBase) = .ok x := by
  rw [fromBase_eq_div_factor hu, ok_bind, toBase_eq_mul_factor hu,
    div_mul_cancel₀ x (factor_pos hu).ne']

/-- The factor of a unit that is its own base unit. -/
lemma factor_of_beq_base {b : Unit Rat} (hb : u.base = .ok b) (h : (u == b) = true) :
    u.factor = 1 := by
  rw [base_eq_root hu] at hb
  cases hb
  rw [eq_of_same hu (isBuiltIn_root hu) h, factor_root hu]

/-- The conversion factor divides by one unit converted from the base unit, so the factors of both
units are multiplied. -/
lemma conversionFactor_eq_ok (hv : v.IsBuiltIn) (h : u.isCompatible v = .ok true) :
    u.conversionFactor v = .ok (u.factor * v.factor) := by
  have hone : (1.0 : Rat) = 1 := by norm_num
  have hne : 1 / v.factor ≠ 0 := one_div_ne_zero (factor_pos hv).ne'
  rw [conversionFactor, h, ok_bind, if_pos rfl, toBase_eq_mul_factor hu, ok_bind,
    fromBase_eq_div_factor hv, ok_bind, hone, divide_eq_ok hne, one_mul, div_div_eq_mul_div,
    div_one]

end Unit

namespace Measurement

/-- The magnitude in the base unit. -/
def worth (m : Measurement Rat) : Rat := m.magnitude * m.unit.factor

lemma baseMagnitude_eq_worth {m : Measurement Rat} (hm : m.unit.IsBuiltIn) :
    m.baseMagnitude = .ok m.worth := Unit.toBase_eq_mul_factor hm m.magnitude

lemma inBase_eq_ok {m : Measurement Rat} (hm : m.unit.IsBuiltIn) :
    m.inBase = .ok ⟨m.worth, m.unit.root, rfl⟩ := Unit.measureInBase_eq_ok hm m.magnitude

/-- Conversion divides by the factor of the other unit. -/
lemma convert_eq {m : Measurement Rat} {u : Unit Rat} (hm : m.unit.IsBuiltIn) (hu : u.IsBuiltIn)
    (h : m.unit.isCompatible u = .ok true) : m.convert u = .ok ⟨m.worth / u.factor, u, rfl⟩ := by
  rw [convert, h, ok_bind, if_pos rfl, baseMagnitude_eq_worth hm, ok_bind,
    Unit.fromBase_eq_div_factor hu, ok_bind, ofMagnitude_rat]

/-- The quotient of a worth by a unit's factor is worth as much in that unit. -/
lemma worth_div_factor {x : Rat} {u : Unit Rat} (hu : u.IsBuiltIn) :
    Measurement.worth ⟨x / u.factor, u, rfl⟩ = x := div_mul_cancel₀ x (Unit.factor_pos hu).ne'

/-- What is in its base unit is worth its magnitude. -/
lemma worth_of_unit_eq_root {u : Unit Rat} {c : Measurement Rat} (hu : u.IsBuiltIn)
    (h : c.unit = u.root) : c.worth = c.magnitude := by
  rw [worth, h, Unit.factor_root hu, mul_one]

/-- Where units are joined, factors and magnitudes are joined in the same way. -/
lemma worth_of_unit_eq_join {a b c : Measurement Rat} {j : Join}
    (hm : c.magnitude = j.combine a.magnitude b.magnitude) (hu : c.unit = a.unit.join j b.unit) :
    c.worth = j.combine a.worth b.worth := by
  rw [worth, hm, hu, Unit.factor_join]
  cases j with
  | times => exact mul_mul_mul_comm _ _ _ _
  | per => exact div_mul_div_comm _ _ _ _

end Measurement

/-! ### One operation -/

/-- The operation on numbers. A quotient by zero has no value. -/
def Operator.compute : Operator → Rat → Rat → Option Rat
  | .add, x, y => some (x + y)
  | .sub, x, y => some (x - y)
  | .mul, x, y => some (x * y)
  | .div, x, y => if y = 0 then none else some (x / y)

namespace Measurement

variable {a b c : Measurement Rat} (ha : a.unit.IsBuiltIn) (hb : b.unit.IsBuiltIn)

include ha hb

/-- Measurements in compatible units can be brought to their base units. -/
lemma inCommonBase_of_isCompatible (h : a.unit.isCompatible b.unit = .ok true) :
    a.inCommonBase b = .ok (⟨a.worth, a.unit.root, rfl⟩, ⟨b.worth, b.unit.root, rfl⟩) := by
  obtain ⟨hd, hname⟩ := (Unit.isCompatible_eq_ok_true_of_isBuiltIn ha hb).mp h
  exact inCommonBase_eq_ok.mpr ⟨hd, inBase_eq_ok ha, inBase_eq_ok hb, hname⟩

lemma add_of_isCompatible (h : a.unit.isCompatible b.unit = .ok true) :
    a.add b = .ok ⟨a.worth + b.worth, a.unit.root, rfl⟩ :=
  add_eq_ok.mpr ⟨_, _, inCommonBase_of_isCompatible ha hb h, rfl, rfl⟩

/-- In a common base unit the magnitudes are the worths. -/
lemma worth_of_inCommonBase {x y : Measurement Rat} (h : a.inCommonBase b = .ok (x, y))
    (hu : c.unit = x.unit) :
    c.unit.IsBuiltIn ∧ c.worth = c.magnitude ∧ x.magnitude = a.worth ∧ y.magnitude = b.worth := by
  obtain ⟨-, hx, hy, -⟩ := inCommonBase_eq_ok.mp h
  rw [inBase_eq_ok ha] at hx
  rw [inBase_eq_ok hb] at hy
  cases hx
  cases hy
  refine ⟨?_, worth_of_unit_eq_root ha hu, rfl, rfl⟩
  rw [hu]
  exact Unit.isBuiltIn_root ha

lemma isBuiltIn_of_unit_eq_join {j : Join} (hu : c.unit = a.unit.join j b.unit) :
    c.unit.IsBuiltIn := by
  rw [hu]
  exact Unit.isBuiltIn_join ha hb j

/-- An operation on measurements is the operation on their worths. -/
lemma worth_of_apply {op : Operator} (h : op.apply a b = .ok c) :
    c.unit.IsBuiltIn ∧ op.compute a.worth b.worth = some c.worth := by
  cases op with
  | add =>
    obtain ⟨x, y, hxy, hm, hu⟩ := add_eq_ok.mp h
    obtain ⟨hc, hworth, hx, hy⟩ := worth_of_inCommonBase ha hb hxy hu
    exact ⟨hc, by rw [hworth, hm, hx, hy, Operator.compute]⟩
  | sub =>
    obtain ⟨x, y, hxy, hm, hu⟩ := sub_eq_ok.mp h
    obtain ⟨hc, hworth, hx, hy⟩ := worth_of_inCommonBase ha hb hxy hu
    exact ⟨hc, by rw [hworth, hm, hx, hy, Operator.compute]⟩
  | mul =>
    by_cases hd : a.unit.dimension = b.unit.dimension
    · obtain ⟨x, y, hxy, hm, hu⟩ := (mul_eq_ok_of_eq hd).mp h
      obtain ⟨hc, hworth, hx, hy⟩ := worth_of_inCommonBase ha hb hxy hu
      exact ⟨hc, by rw [hworth, hm, hx, hy, Operator.compute]⟩
    · obtain ⟨hm, hu⟩ := (mul_eq_ok_of_ne hd).mp h
      refine ⟨isBuiltIn_of_unit_eq_join ha hb hu, ?_⟩
      rw [worth_of_unit_eq_join hm hu, Operator.compute, Join.combine]
  | div =>
    by_cases hd : a.unit.dimension = b.unit.dimension
    · obtain ⟨-, x, y, hxy, hne, hm, hu⟩ := (div_eq_ok_of_eq hd).mp h
      obtain ⟨hc, hworth, hx, hy⟩ := worth_of_inCommonBase ha hb hxy hu
      have hne : b.worth ≠ 0 := hy ▸ beq_zero_eq_false_iff.mp hne
      exact ⟨hc, by rw [hworth, hm, hx, hy, Operator.compute, if_neg hne]⟩
    · obtain ⟨hne, hm, hu⟩ := (div_eq_ok_of_ne hd).mp h
      have hne : b.worth ≠ 0 := mul_ne_zero (beq_zero_eq_false_iff.mp hne) (Unit.factor_pos hb).ne'
      refine ⟨isBuiltIn_of_unit_eq_join ha hb hu, ?_⟩
      rw [worth_of_unit_eq_join hm hu, Operator.compute, if_neg hne, Join.combine]

end Measurement

end Metrology
