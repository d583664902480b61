import Metrology.Proofs.Expression.Runs
import Metrology.Proofs.Expression.TwoStacks
import Metrology.Proofs.Measurement.Exact

/-!
# Exact values of expressions

With exact magnitudes an expression is worth what arithmetic makes of its operands' worths, where a
measurement is worth its magnitude in the base unit. It does not matter which operations were done
in a common base unit and which have joined the units: each of them computes with worths.
-/

namespace Metrology.Expression

lemma mapM_baseMagnitude {ms : List (Measurement Rat)} (h : ∀ m ∈ ms, m.unit.IsBuiltIn) :
    ms.mapM Measurement.baseMagnitude = .ok (ms.map Measurement.worth) := by
  induction ms with
  | nil => rfl
  | cons m ms ih =>
    obtain ⟨hm, hms⟩ := List.forall_mem_cons.mp h
    simp [Measurement.baseMagnitude_eq_worth hm, ih hms]

/-- With exact magnitudes and built-in units, the base magnitude of an expression's value is the
value of the same expression on the operands' base magnitudes. -/
theorem baseMagnitude_of_evaluate {operands : List (Measurement Rat)} {vs : List (Value Rat)}
    {r : Measurement Rat} (hunits : ∀ m ∈ operands, m.unit.IsBuiltIn)
    (h : evaluate operands vs = .ok r) :
    ∃ b bs ops x, operands.mapM Measurement.baseMagnitude = .ok (b :: bs) ∧
      vs.mapM Operator.ofValue = .ok ops ∧ ops.length = bs.length ∧
      (Terms.split b (ops.zip bs)).value Operator.compute = some x ∧
      r.baseMagnitude = .ok x := by
  obtain ⟨m, ms, ops, rfl, hops, hlength⟩ := exists_operators_of_evaluate h
  rw [evaluate_eq_resume hops hlength, Pending.resume_ofFirst] at h
  have hoperands : ∀ x ∈ (Terms.split m (ops.zip ms)).operands, x.unit.IsBuiltIn := by
    rw [Terms.operands_split, List.map_snd_zip hlength.ge]
    exact hunits
  obtain ⟨hr, hvalue⟩ := Terms.value_map
    (fun _ _ _ _ ha hb h => Measurement.worth_of_apply ha hb h) hoperands h
  rw [Terms.map_split, ← List.zip_map, List.map_id] at hvalue
  exact ⟨m.worth, ms.map Measurement.worth, ops, r.worth, mapM_baseMagnitude hunits, hops,
    by simpa using hlength, hvalue, Measurement.baseMagnitude_eq_worth hr⟩

/-- The value of `6 km / 2 hr` is in a unit that is joined from two. -/
theorem baseMagnitude_of_speed :
    ∃ r : Measurement Rat,
      evaluate [⟨6, .simple .kilometer, rfl⟩, ⟨2, .simple .hour, rfl⟩] [.operator .div] = .ok r ∧
      ∃ b bs ops x,
        [⟨6, .simple .kilometer, rfl⟩, ⟨2, .simple .hour, rfl⟩].mapM
          Measurement.baseMagnitude = .ok (b :: bs) ∧
        [.operator .div].mapM (Operator.ofValue (α := Rat)) = .ok ops ∧
        ops.length = bs.length ∧ (Terms.split b (ops.zip bs)).value Operator.compute = some x ∧
        r.baseMagnitude = .ok x := by
  have hdiv : (⟨6, .simple .kilometer, rfl⟩ : Measurement Rat).div ⟨2, .simple .hour, rfl⟩ =
      .ok ⟨3, .per (.simple .kilometer) (.simple .hour), rfl⟩ :=
    (Measurement.div_eq_ok_of_ne (by decide)).mpr
      ⟨beq_zero_eq_false_iff.mpr (by norm_num), by norm_num, rfl⟩
  have hv : [.operator .div].mapM (Operator.ofValue (α := Rat)) = .ok [.div] := rfl
  have h : evaluate [⟨6, .simple .kilometer, rfl⟩, ⟨2, .simple .hour, rfl⟩] [.operator .div] =
      .ok (⟨3, .per (.simple .kilometer) (.simple .hour), rfl⟩ : Measurement Rat) := by
    rw [evaluate_eq_resume hv rfl, Pending.resume_ofFirst]
    simp [Terms.value, Terms.split, Operator.isAdditive, Operator.apply, hdiv]
  refine ⟨_, h, baseMagnitude_of_evaluate ?_ h⟩
  simp [SimpleUnit.builtIn]

end Metrology.Expression
