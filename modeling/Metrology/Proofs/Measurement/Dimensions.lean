import Metrology.Proofs.Measurement.Exact
import Metrology.Proofs.Unit.Dimensions

/-!
# Dimensional soundness

Whatever combines two measurements asks for compatible units. Compatible units have the same powers
of all dimensions as long as every component that needs parentheses in the name has them. A
compound of one component gets none, though its component may be a compound with signs. Two units
of different dimensions can then be compatible.
-/

namespace Metrology

variable {α : Type} [Magnitude α]

/-- Two measurements are added, subtracted, compared or brought to a common base unit, or one is
converted to the other's unit. -/
inductive Measurement.Combines (a b : Measurement α) : Prop where
  | inCommonBase {p} (h : a.inCommonBase b = .ok p)
  | add {c} (h : a.add b = .ok c)
  | sub {c} (h : a.sub b = .ok c)
  | lt {r} (h : a.lt b = .ok r)
  | le {r} (h : a.le b = .ok r)
  | gt {r} (h : a.gt b = .ok r)
  | ge {r} (h : a.ge b = .ok r)
  | eq {r} (h : a.eq b = .ok r)
  | convert {c} (h : a.convert b.unit = .ok c)

lemma Measurement.isCompatible_of_inCommonBase {a b : Measurement α}
    {p : Measurement α × Measurement α} (h : a.inCommonBase b = .ok p) :
    a.unit.isCompatible b.unit = .ok true := by
  obtain ⟨hd, hx, hy, hn⟩ := inCommonBase_eq_ok.mp h
  exact Unit.isCompatible_eq_ok_true.mpr ⟨hd, _, _, unit_of_inBase hx, unit_of_inBase hy, hn⟩

lemma Measurement.Combines.isCompatible {a b : Measurement α} (h : a.Combines b) :
    a.unit.isCompatible b.unit = .ok true := by
  cases h with
  | inCommonBase h => exact isCompatible_of_inCommonBase h
  | add h | sub h | lt h | le h | gt h | ge h | eq h =>
    obtain ⟨p, hp, -⟩ := bind_eq_ok.mp h
    exact isCompatible_of_inCommonBase hp
  | convert h => exact (unit_of_convert h).1

/-- Compatible units, and those of measurements that are combined, have the same powers of all
dimensions if their names have all parentheses. In any case they do if and only if their names
misread them alike. -/
theorem Unit.exponent_eq_iff_misread_eq {u v : Unit α} (hu : u.IsBuiltIn) (hv : v.IsBuiltIn)
    (h : u.isCompatible v = .ok true ∨
      ∃ a b : Measurement α, a.unit = u ∧ b.unit = v ∧ a.Combines b) :
    (u.IsBracketed → v.IsBracketed → ∀ d, u.exponent d = v.exponent d) ∧
      ((∀ d, u.exponent d = v.exponent d) ↔ ∀ d, u.misread d = v.misread d) := by
  have hcompatible : u.isCompatible v = .ok true := by
    rcases h with h | ⟨a, b, rfl, rfl, h⟩
    · exact h
    · exact h.isCompatible
  have hwritten := Unit.exponent_asWritten_of_isCompatible hu hv hcompatible
  have hiff : (∀ d, u.exponent d = v.exponent d) ↔ ∀ d, u.misread d = v.misread d := by
    refine forall_congr' fun d => ?_
    rw [Unit.exponent_eq d u, Unit.exponent_eq d v, hwritten d]
    exact add_right_inj _
  refine ⟨fun bu bv => hiff.mpr fun d => ?_, hiff⟩
  rw [Unit.misread_of_isBracketed bu, Unit.misread_of_isBracketed bv]

/-- With its parentheses, `kg / (km / hr)` has the powers of `g / (m / s)`. -/
theorem Unit.exponent_mass_per_speed :
    ∃ u v : Unit Rat, u = per (.simple .kilogram) (.per (.simple .kilometer) (.simple .hour)) ∧
      v = per (.simple .gram) (.per (.simple .meter) (.simple .second)) ∧
      u.IsBuiltIn ∧ v.IsBuiltIn ∧ u.isCompatible v = .ok true ∧
      (u.IsBracketed → v.IsBracketed → ∀ d, u.exponent d = v.exponent d) ∧
        ((∀ d, u.exponent d = v.exponent d) ↔ ∀ d, u.misread d = v.misread d) := by
  have hu : (per (.simple .kilogram) (.per (.simple .kilometer) (.simple .hour)) :
      Unit Rat).IsBuiltIn := by simp [SimpleUnit.builtIn]
  have hv : (per (.simple .gram) (.per (.simple .meter) (.simple .second)) :
      Unit Rat).IsBuiltIn := by simp [SimpleUnit.builtIn]
  have h := (isCompatible_eq_ok_true_of_isBuiltIn hu hv).mpr ⟨rfl, rfl⟩
  exact ⟨_, _, rfl, rfl, hu, hv, h, exponent_eq_iff_misread_eq hu hv (.inl h)⟩

/-- A mass by a compound of a speed alone is taken for a mass by a length by a time, and quantities
of the two are added. -/
theorem Unit.exponent_ne_of_isCompatible :
    ∃ u v : Unit Rat,
      u = per (.simple .gram) (.compound (.single (.per (.simple .meter) (.simple .second)))) ∧
      v = .compound (((Compound.single (.simple .gram)).snoc .per (.simple .meter)).snoc .per
        (.simple .second)) ∧
      u.IsBuiltIn ∧ v.IsBuiltIn ∧ u.isCompatible v = .ok true ∧
      (∃ c, (⟨1, u, rfl⟩ : Measurement Rat).add ⟨1, v, rfl⟩ = .ok c) ∧
      u.exponent .time = 1 ∧ v.exponent .time = -1 := by
  have hu : (per (.simple .gram) (.compound (.single (.per (.simple .meter) (.simple .second)))) :
      Unit Rat).IsBuiltIn := by simp [SimpleUnit.builtIn]
  have hv : (.compound (((Compound.single (.simple .gram)).snoc .per (.simple .meter)).snoc .per
      (.simple .second)) : Unit Rat).IsBuiltIn := by simp [SimpleUnit.builtIn]
  have h := (isCompatible_eq_ok_true_of_isBuiltIn hu hv).mpr ⟨rfl, by rfl⟩
  have hadd := Measurement.add_of_isCompatible (a := ⟨1, _, rfl⟩) (b := ⟨1, _, rfl⟩) hu hv h
  exact ⟨_, _, rfl, rfl, hu, hv, h, ⟨_, hadd⟩, by decide, by decide⟩

end Metrology
