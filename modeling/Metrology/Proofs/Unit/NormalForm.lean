import Metrology.Proofs.Binary64.Order
import Metrology.Proofs.Measurement.Operations
import Metrology.Proofs.Unit.BuiltIn

/-!
# Base units as normal forms

The base unit of a unit over the built-in kinds has the structure and the signs of the unit, and is
its own base unit. On the way from a base unit to its base unit every factor is one, so that no bit
of a magnitude changes.
-/

namespace Metrology

/-! ### Shapes -/

section Shape

variable {α : Type}

mutual

/-- Do the units have the same structure and the same signs, whatever simple units are in them? -/
def Unit.SameShape : Unit α → Unit α → Prop
  | .simple _, .simple _ => True
  | .compound c, .compound d => c.SameShape d
  | _, _ => False

/-- Are as many components joined by the same signs, each of the same shape? -/
def Compound.SameShape : Compound α → Compound α → Prop
  | .single u, .single v => u.SameShape v
  | .snoc c j u, .snoc d k v => c.SameShape d ∧ j = k ∧ u.SameShape v
  | _, _ => False

end

mutual

lemma Unit.sameShape_mapSimple (f : SimpleUnit α → SimpleUnit α) (u : Unit α) :
    u.SameShape (u.mapSimple f) := by
  match u with
  | .simple u => simp [Unit.SameShape]
  | .compound c => simpa [Unit.SameShape] using Compound.sameShape_mapSimple f c

lemma Compound.sameShape_mapSimple (f : SimpleUnit α → SimpleUnit α) (c : Compound α) :
    c.SameShape (c.mapSimple f) := by
  match c with
  | .single u => simpa [Compound.SameShape] using Unit.sameShape_mapSimple f u
  | .snoc c j u =>
    simpa [Compound.SameShape] using
      ⟨Compound.sameShape_mapSimple f c, Unit.sameShape_mapSimple f u⟩

end

lemma Measurement.unit_eq_root_of_inBase [Magnitude α] {m b : Measurement α}
    (hm : m.unit.IsBuiltIn) (h : m.inBase = .ok b) : b.unit = m.unit.root :=
  Except.ok.inj ((unit_of_inBase h).symm.trans (Unit.base_eq_root hm))

/-- A unit over the built-in kinds has a base unit of its shape, which is its own base unit. -/
lemma Unit.exists_base_eq_ok [Magnitude α] {u : Unit α} (hu : u.IsBuiltIn) :
    ∃ b, u.base = .ok b ∧ b.base = .ok b ∧ u.SameShape b := by
  refine ⟨u.root, base_eq_root hu, ?_, sameShape_mapSimple _ u⟩
  rw [base_eq_root (isBuiltIn_root hu), root_root hu]

end Shape

/-! ### Magnitudes in base units -/

open Binary64

lemma Join.apply_one (j : Join) (x : Float) : j.apply x 1.0 = .ok x := by
  have hne : ((1.0 : Float) == 0.0) = false := by decide +kernel
  cases j with
  | times => rw [apply, mul_one_eq x, pure_eq_ok]
  | per => rw [apply, divide, hne, if_neg Bool.false_ne_true, div_one_eq x, pure_eq_ok]

/-- The base form of a magnitude in a simple unit. -/
lemma Unit.measureInBase_simple {u : SimpleUnit Float} (hu : u ∈ SimpleUnit.builtIn) {x : Float}
    (hx : (x * u.scale).isFinite = true) :
    (Unit.simple u).measureInBase x = .ok ⟨x * u.scale, .simple u.root, hx⟩ := by
  rw [Unit.measureInBase, (SimpleUnit.root_of_mem_builtIn hu).1, ok_bind, SimpleUnit.toBase]
  exact Measurement.ofMagnitude_eq_ok.mpr ⟨rfl, rfl⟩

mutual

/-- A finite magnitude in a base unit is this very magnitude in its base unit. -/
lemma Unit.measureInBase_root {u : Unit Float} (hu : u.IsBuiltIn) {x : Float}
    (hx : x.isFinite = true) : u.root.measureInBase x = .ok ⟨x, u.root, hx⟩ := by
  match u with
  | .simple u =>
    rw [Unit.isBuiltIn_simple] at hu
    obtain ⟨-, hroot, hscale, -⟩ := SimpleUnit.root_of_mem_builtIn hu
    have hone : x * u.root.scale = x := by rw [hscale, mul_one_eq x]
    have hfinite : (x * u.root.scale).isFinite = true := by rwa [hone]
    rw [Unit.root_simple, Unit.measureInBase_simple (SimpleUnit.root_mem_builtIn hu) hfinite]
    simp only [hone, hroot]
  | .compound c =>
    rw [Unit.isBuiltIn_compound] at hu
    rw [Unit.root_compound, Unit.measureInBase, Compound.measureInBase_root hu hx, ok_bind,
      Compound.base_eq_root (Compound.isBuiltIn_root hu), Compound.root_root hu, ok_bind]
    exact Measurement.ofMagnitude_eq_ok.mpr ⟨rfl, rfl⟩

lemma Compound.measureInBase_root {c : Compound Float} (hc : c.IsBuiltIn) {x : Float}
    (hx : x.isFinite = true) : c.root.measureInBase x = .ok x := by
  match c with
  | .single u =>
    rw [Compound.isBuiltIn_single] at hc
    rw [Compound.root_single, Compound.measureInBase, Unit.measureInBase_root hc hx]
    rfl
  | .snoc c j u =>
    rw [Compound.isBuiltIn_snoc] at hc
    rw [Compound.root_snoc, Compound.measureInBase, Compound.measureInBase_root hc.1 hx, ok_bind,
      Unit.measureInBase_root hc.2 isFinite_one, ok_bind, Join.apply_one]

end

namespace Measurement

variable {m b : Measurement Float}

/-- A measurement in a base unit is its own base form. -/
lemma inBase_of_unit_eq_root {u : Unit Float} (hu : u.IsBuiltIn) (h : m.unit = u.root) :
    m.inBase = .ok m := by
  obtain ⟨x, v, hx⟩ := m
  obtain rfl : v = u.root := h
  exact Unit.measureInBase_root hu hx

/-- A base form is its own base form, bit for bit. -/
lemma inBase_of_inBase (hm : m.unit.IsBuiltIn) (h : m.inBase = .ok b) : b.inBase = .ok b :=
  inBase_of_unit_eq_root hm (unit_eq_root_of_inBase hm h)

end Measurement

end Metrology
