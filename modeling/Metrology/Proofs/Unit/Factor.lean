import Mathlib.Algebra.Order.Field.Rat
import Mathlib.Tactic.NormNum
import Mathlib.Tactic.Positivity
import Mathlib.Tactic.Ring
import Metrology.Proofs.Unit.BuiltIn

/-!
# Exact conversion

With exact magnitudes, conversion to the base unit multiplies by a factor that depends on the unit
alone. It is positive for units over the built-in kinds, so that no division by zero can occur, and
it is one for a base unit.
-/

namespace Metrology

/-! ### Exact division -/

lemma beq_zero_eq_false_iff {x : Rat} : (x == (0.0 : Rat)) = false ↔ x ≠ 0 := by
  have h0 : (0.0 : Rat) = 0 := by norm_num
  rw [h0]
  simp

lemma divide_eq_ok {x y : Rat} (hy : y ≠ 0) : (divide x y : Result Rat Rat) = .ok (x / y) := by
  simp [divide, beq_zero_eq_false_iff.mpr hy]

/-- Multiply or divide. -/
def Join.combine : Join → Rat → Rat → Rat
  | .times, x, y => x * y
  | .per, x, y => x / y

lemma Join.apply_eq_ok (j : Join) {x y : Rat} (hy : y ≠ 0) :
    j.apply x y = .ok (j.combine x y) := by
  cases j with
  | times => rfl
  | per => exact divide_eq_ok hy

lemma Join.combine_pos (j : Join) {x y : Rat} (hx : 0 < x) (hy : 0 < y) :
    0 < j.combine x y := by
  cases j <;> simp only [combine] <;> positivity

/-- Factors are joined in any order. -/
lemma Join.mul_combine (j : Join) (x y z : Rat) : x * j.combine y z = j.combine (x * y) z := by
  cases j <;> simp only [combine] <;> ring

/-! ### Factors -/

mutual

/-- The factor that converts one unit into its base unit. -/
def Unit.factor : Unit Rat → Rat
  | .simple u => u.scale
  | .compound c => c.factor

/-- The factor that converts one unit of a compound into its base unit. -/
def Compound.factor : Compound Rat → Rat
  | .single u => u.factor
  | .snoc c j u => j.combine c.factor u.factor

end

@[simp] lemma Unit.factor_simple (u : SimpleUnit Rat) : (Unit.simple u).factor = u.scale := by
  simp [Unit.factor]

@[simp] lemma Unit.factor_compound (c : Compound Rat) : (Unit.compound c).factor = c.factor := by
  simp [Unit.factor]

@[simp] lemma Compound.factor_single (u : Unit Rat) :
    (Compound.single u).factor = u.factor := by simp [Compound.factor]

@[simp] lemma Compound.factor_snoc (c : Compound Rat) (j : Join) (u : Unit Rat) :
    (c.snoc j u).factor = j.combine c.factor u.factor := by simp [Compound.factor]

lemma Unit.factor_join (u v : Unit Rat) (j : Join) :
    (u.join j v).factor = j.combine u.factor v.factor := by
  cases u <;> simp [Unit.join]

lemma SimpleUnit.scale_pos {u : SimpleUnit Rat} (hu : u ∈ builtIn) : 0 < u.scale := by
  have hs : (builtIn (α := Rat)).map scale =
      [0.001, 0.01, 1.0, 1000.0, 0.001, 0.01, 1.0, 1000.0, 1.0, 60.0, 3600.0, 0.001, 0.01, 1.0,
        1000.0] := rfl
  have hpos : ∀ x ∈ (builtIn (α := Rat)).map scale, 0 < x := by
    rw [hs]
    norm_num
  exact hpos u.scale (List.mem_map_of_mem hu)

mutual

lemma Unit.factor_pos {u : Unit Rat} (hu : u.IsBuiltIn) : 0 < u.factor := by
  match u with
  | .simple u =>
    rw [Unit.isBuiltIn_simple] at hu
    simpa using SimpleUnit.scale_pos hu
  | .compound c =>
    rw [Unit.isBuiltIn_compound] at hu
    simpa using Compound.factor_pos hu

lemma Compound.factor_pos {c : Compound Rat} (hc : c.IsBuiltIn) : 0 < c.factor := by
  match c with
  | .single u =>
    rw [Compound.isBuiltIn_single] at hc
    simpa using Unit.factor_pos hc
  | .snoc c j u =>
    rw [Compound.isBuiltIn_snoc] at hc
    rw [Compound.factor_snoc]
    exact j.combine_pos (Compound.factor_pos hc.1) (Unit.factor_pos hc.2)

end

mutual

lemma Unit.factor_root {u : Unit Rat} (hu : u.IsBuiltIn) : u.root.factor = 1 := by
  match u with
  | .simple u =>
    rw [Unit.isBuiltIn_simple] at hu
    rw [Unit.root_simple, Unit.factor_simple, (SimpleUnit.root_of_mem_builtIn hu).2.2.1]
    norm_num
  | .compound c =>
    rw [Unit.isBuiltIn_compound] at hu
    simp [Compound.factor_root hu]

lemma Compound.factor_root {c : Compound Rat} (hc : c.IsBuiltIn) : c.root.factor = 1 := by
  match c with
  | .single u =>
    rw [Compound.isBuiltIn_single] at hc
    simp [Unit.factor_root hc]
  | .snoc c j u =>
    rw [Compound.isBuiltIn_snoc] at hc
    rw [Compound.root_snoc, Compound.factor_snoc, Compound.factor_root hc.1,
      Unit.factor_root hc.2]
    cases j <;> simp [Join.combine]

end

/-! ### Back from the base unit -/

/-- To divide by a joined factor is to join what is left of the factors the same way. -/
lemma Join.combine_div (j : Join) (x y z : Rat) :
    j.combine (x / y) (1.0 / z) = x / j.combine y z := by
  have hone : (1.0 : Rat) = 1 := by norm_num
  rw [hone]
  cases j with
  | times => rw [combine, combine, div_mul_div_comm, mul_one]
  | per => rw [combine, combine, div_div_div_comm, div_one, div_div_eq_mul_div, mul_comm]

mutual

/-- Conversion from the base unit divides by the unit's factor. -/
lemma Unit.fromBase_eq_div_factor {u : Unit Rat} (hu : u.IsBuiltIn) (x : Rat) :
    u.fromBase x = .ok (x / u.factor) := by
  match u with
  | .simple u => simp [Unit.fromBase, SimpleUnit.fromBase]
  | .compound c =>
    rw [Unit.isBuiltIn_compound] at hu
    rw [Unit.fromBase, Compound.fromBase_eq_div_factor hu, Unit.factor_compound]

lemma Compound.fromBase_eq_div_factor {c : Compound Rat} (hc : c.IsBuiltIn) (x : Rat) :
    c.fromBase x = .ok (x / c.factor) := by
  match c with
  | .single u =>
    rw [Compound.isBuiltIn_single] at hc
    rw [Compound.fromBase, Unit.fromBase_eq_div_factor hc, Compound.factor_single]
  | .snoc c j u =>
    rw [Compound.isBuiltIn_snoc] at hc
    have hne : (1.0 : Rat) / u.factor ≠ 0 := by
      have := Unit.factor_pos hc.2
      positivity
    rw [Compound.fromBase, Compound.fromBase_eq_div_factor hc.1, ok_bind,
      Unit.fromBase_eq_div_factor hc.2, ok_bind, Join.apply_eq_ok j hne, Join.combine_div,
      Compound.factor_snoc]

end

end Metrology
