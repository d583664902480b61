import Metrology.Proofs.Expression.Agreement
import Metrology.Proofs.Measurement.Reachable
import Metrology.Proofs.Measurement.UnitChoice

/-!
# Expressions in other units

The operands of an expression may be converted to other units before it is evaluated. With exact
magnitudes that changes neither whether it has a value, nor the kind of its fault, nor the quantity
that it comes to.
-/

namespace Metrology.Expression

/-- Operands can be converted one by one, and stay the same quantities. -/
lemma mapM_convert_eq_ok {pairs : List (Measurement Rat × Unit Rat)}
    (h : ∀ p ∈ pairs, p.1.unit.IsLayered ∧ p.2.IsLayered ∧ p.1.unit.isCompatible p.2 = .ok true) :
    ∃ cs, pairs.mapM (fun p => p.1.convert p.2) = .ok cs ∧
      List.Forall₂ Measurement.SameQuantity (pairs.map Prod.fst) cs := by
  induction pairs with
  | nil => exact ⟨[], rfl, .nil⟩
  | cons p pairs ih =>
    obtain ⟨⟨ha, hu, hfits⟩, hpairs⟩ := List.forall_mem_cons.mp h
    obtain ⟨c, hc, hsame⟩ := Measurement.convert_eq_ok ha hu hfits
    obtain ⟨cs, hcs, hall⟩ := ih hpairs
    exact ⟨c :: cs, by simp [hc, hcs], .cons hsame hall⟩

/-- With exact magnitudes, an expression comes to the same whichever reachable units its operands
are given in: to one base unit and one base magnitude, or to faults of one class. -/
theorem evaluate_convert {pairs : List (Measurement Rat × Unit Rat)} (vs : List (Value Rat))
    (h : ∀ p ∈ pairs, p.1.unit.Reachable ∧ p.2.Reachable ∧
      p.1.unit.isCompatible p.2 = .ok true) :
    ∃ cs, pairs.mapM (fun p => p.1.convert p.2) = .ok cs ∧
      ((∃ r s b x, evaluate (pairs.map Prod.fst) vs = .ok r ∧ evaluate cs vs = .ok s ∧
          r.unit.base = .ok b ∧ s.unit.base = .ok b ∧
          r.baseMagnitude = .ok x ∧ s.baseMagnitude = .ok x) ∨
        ∃ e f, evaluate (pairs.map Prod.fst) vs = .error e ∧ evaluate cs vs = .error f ∧
          e.toClass = f.toClass) := by
  have hlayered : ∀ p ∈ pairs, p.1.unit.IsLayered ∧ p.2.IsLayered ∧
      p.1.unit.isCompatible p.2 = .ok true := fun p hp =>
    ⟨(h p hp).1.isLayered, (h p hp).2.1.isLayered, (h p hp).2.2⟩
  obtain ⟨cs, hcs, hsame⟩ := mapM_convert_eq_ok hlayered
  refine ⟨cs, hcs, ?_⟩
  have hagree := evaluate_agree (fun op _ _ _ _ ha hb => ha.apply_agree hb op) hsame vs
  rcases agree_iff.mp hagree with ⟨r, s, hr, hs, hrs⟩ | hfaults
  · refine .inl ⟨r, s, r.unit.root, r.worth, hr, hs, Unit.base_eq_root hrs.left, ?_,
      Measurement.baseMagnitude_eq_worth hrs.left, ?_⟩
    · rw [hrs.root]
      exact Unit.base_eq_root hrs.right
    · rw [hrs.worth]
      exact Measurement.baseMagnitude_eq_worth hrs.right
  · exact .inr hfaults

/-- In `6 km / 2 hr` the length may be given in centimeters and the time in minutes. -/
theorem evaluate_convert_speed :
    ∃ pairs : List (Measurement Rat × Unit Rat),
      pairs = [(⟨6, .simple .kilometer, rfl⟩, .simple .centimeter),
        (⟨2, .simple .hour, rfl⟩, .simple .minute)] ∧
      (∀ p ∈ pairs, p.1.unit.Reachable ∧ p.2.Reachable ∧
        p.1.unit.isCompatible p.2 = .ok true) ∧
      ∃ cs, pairs.mapM (fun p => p.1.convert p.2) = .ok cs ∧
        ((∃ r s b x, evaluate (pairs.map Prod.fst) [.operator .div] = .ok r ∧
            evaluate cs [.operator .div] = .ok s ∧ r.unit.base = .ok b ∧ s.unit.base = .ok b ∧
            r.baseMagnitude = .ok x ∧ s.baseMagnitude = .ok x) ∨
          ∃ e f, evaluate (pairs.map Prod.fst) [.operator .div] = .error e ∧
            evaluate cs [.operator .div] = .error f ∧ e.toClass = f.toClass) := by
  have hlength : (Unit.simple .kilometer : Unit Rat).Reachable ∧
      (Unit.simple .centimeter : Unit Rat).Reachable ∧
      (Unit.simple .kilometer).isCompatible (Unit.simple .centimeter : Unit Rat) = .ok true :=
    ⟨.read (show Unit.read "km" = .ok _ from rfl), .read (show Unit.read "cm" = .ok _ from rfl),
      rfl⟩
  have htime : (Unit.simple .hour : Unit Rat).Reachable ∧
      (Unit.simple .minute : Unit Rat).Reachable ∧
      (Unit.simple .hour).isCompatible (Unit.simple .minute : Unit Rat) = .ok true :=
    ⟨.read (show Unit.read "hr" = .ok _ from rfl), .read (show Unit.read "min" = .ok _ from rfl),
      rfl⟩
  have h : ∀ p ∈ ([(⟨6, .simple .kilometer, rfl⟩, .simple .centimeter),
      (⟨2, .simple .hour, rfl⟩, .simple .minute)] : List (Measurement Rat × Unit Rat)),
      p.1.unit.Reachable ∧ p.2.Reachable ∧ p.1.unit.isCompatible p.2 = .ok true := by
    simp only [List.forall_mem_cons, List.not_mem_nil, false_imp_iff, implies_true, and_true]
    exact ⟨hlength, htime⟩
  exact ⟨_, rfl, h, evaluate_convert _ h⟩

end Metrology.Expression
