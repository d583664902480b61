import Metrology.Proofs.Measurement.Exact

/-!
# Laws of conversion

With exact magnitudes a unit's two conversions undo each other. Conversion to a compatible unit
keeps what a measurement is worth: it can be undone, a stop at a third unit makes no difference, and
into a base unit it multiplies by the conversion factor.
-/

namespace Metrology.Measurement

section Convert

variable {m n : Measurement Rat} {v w : Unit Rat} (hm : m.unit.IsBuiltIn) (hv : v.IsBuiltIn)
  (h : m.convert v = .ok n)

include hm hv h

lemma magnitude_of_convert : n.magnitude = m.worth / v.factor := by
  rw [convert_eq hm hv (unit_of_convert h).1] at h
  cases h
  rfl

/-- Conversion keeps what a measurement is worth. -/
lemma worth_of_convert : n.worth = m.worth := by
  rw [worth, magnitude_of_convert hm hv h, (unit_of_convert h).2,
    div_mul_cancel₀ _ (Unit.factor_pos hv).ne']

lemma baseMagnitude_of_convert : n.baseMagnitude = .ok m.worth := by
  have hn : n.unit.IsBuiltIn := (unit_of_convert h).2 ▸ hv
  rw [baseMagnitude_eq_worth hn, worth_of_convert hm hv h]

/-- A stop at a unit in between makes no difference. -/
lemma convert_of_convert (hw : w.IsBuiltIn) (hvw : v.isCompatible w = .ok true) :
    n.convert w = m.convert w := by
  obtain ⟨hmv, rfl⟩ := unit_of_convert h
  rw [convert_eq hv hw hvw, convert_eq hm hw (Unit.isCompatible_trans hmv hvw)]
  simp only [worth_of_convert hm hv h]

end Convert

lemma convert_self {m : Measurement Rat} (hm : m.unit.IsBuiltIn) : m.convert m.unit = .ok m := by
  have hself : m.unit.isCompatible m.unit = .ok true :=
    (Unit.isCompatible_eq_ok_true_of_isBuiltIn hm hm).mpr ⟨rfl, rfl⟩
  have hmag : m.worth / m.unit.factor = m.magnitude :=
    mul_div_cancel_right₀ m.magnitude (Unit.factor_pos hm).ne'
  rw [convert_eq hm hm hself]
  simp only [hmag]

/-- Each unit's two conversions undo each other. A measurement converted to a compatible unit has
the same base magnitude, can be converted back and can be converted on as if it had not been
converted before; in a base unit it has the magnitude times the conversion factor. -/
theorem convert_laws {m : Measurement Rat} {v w : Unit Rat} (hm : m.unit.IsBuiltIn)
    (hv : v.IsBuiltIn) (hw : w.IsBuiltIn) (hmv : m.unit.isCompatible v = .ok true)
    (hvw : v.isCompatible w = .ok true) :
    (∀ x, (m.unit.toBase x >>= m.unit.fromBase) = .ok x) ∧
      (∀ x, (m.unit.fromBase x >>= m.unit.toBase) = .ok x) ∧
      ∃ n, m.convert v = .ok n ∧ n.unit = v ∧
        (∃ y, m.baseMagnitude = .ok y ∧ n.baseMagnitude = .ok y) ∧
        n.convert m.unit = .ok m ∧
        (∃ k, m.convert w = .ok k ∧ n.convert w = .ok k) ∧
        ∃ b, v.base = .ok b ∧ ((v == b) = true →
          ∃ f, m.unit.conversionFactor v = .ok f ∧ n.magnitude = m.magnitude * f) := by
  refine ⟨Unit.fromBase_of_toBase hm, Unit.toBase_of_fromBase hm, ?_⟩
  obtain ⟨n, h⟩ : ∃ n, m.convert v = .ok n := ⟨_, convert_eq hm hv hmv⟩
  refine ⟨n, h, (unit_of_convert h).2, ?_, ?_, ?_, v.root, Unit.base_eq_root hv, ?_⟩
  · exact ⟨m.worth, baseMagnitude_eq_worth hm, baseMagnitude_of_convert hm hv h⟩
  · rw [convert_of_convert hm hv h hm (Unit.isCompatible_symm hmv), convert_self hm]
  · have hk := convert_eq hm hw (Unit.isCompatible_trans hmv hvw)
    exact ⟨_, hk, (convert_of_convert hm hv h hw hvw).trans hk⟩
  · intro hbase
    have hone : v.factor = 1 := Unit.factor_of_beq_base hv (Unit.base_eq_root hv) hbase
    refine ⟨m.unit.factor, ?_, ?_⟩
    · rw [Unit.conversionFactor_eq_ok hm hv hmv, hone, mul_one]
    · rw [magnitude_of_convert hm hv h, hone, div_one, worth]

/-- Six `kg / (km / hr)` in `g / (m / s)`, a base unit, and in `mg / (cm / min)`. -/
theorem convert_laws_mass_per_speed :
    ∃ (m : Measurement Rat) (v w : Unit Rat),
      m = ⟨6, .per (.simple .kilogram) (.per (.simple .kilometer) (.simple .hour)), rfl⟩ ∧
      v = .per (.simple .gram) (.per (.simple .meter) (.simple .second)) ∧
      w = .per (.simple .milligram) (.per (.simple .centimeter) (.simple .minute)) ∧
      m.unit.IsBuiltIn ∧ v.IsBuiltIn ∧ w.IsBuiltIn ∧
      m.unit.isCompatible v = .ok true ∧ v.isCompatible w = .ok true ∧
      v.base = .ok v ∧ (v == v) = true ∧
      (∀ x, (m.unit.toBase x >>= m.unit.fromBase) = .ok x) ∧
      (∀ x, (m.unit.fromBase x >>= m.unit.toBase) = .ok x) ∧
      ∃ n, m.convert v = .ok n ∧ n.unit = v ∧
        (∃ y, m.baseMagnitude = .ok y ∧ n.baseMagnitude = .ok y) ∧
        n.convert m.unit = .ok m ∧
        (∃ k, m.convert w = .ok k ∧ n.convert w = .ok k) ∧
        ∃ b, v.base = .ok b ∧ ((v == b) = true →
          ∃ f, m.unit.conversionFactor v = .ok f ∧ n.magnitude = m.magnitude * f) := by
  have hu : (.per (.simple .kilogram) (.per (.simple .kilometer) (.simple .hour)) :
      Unit Rat).IsBuiltIn := by simp [SimpleUnit.builtIn]
  have hv : (.per (.simple .gram) (.per (.simple .meter) (.simple .second)) :
      Unit Rat).IsBuiltIn := by simp [SimpleUnit.builtIn]
  have hw : (.per (.simple .milligram) (.per (.simple .centimeter) (.simple .minute)) :
      Unit Rat).IsBuiltIn := by simp [SimpleUnit.builtIn]
  have huv := (Unit.isCompatible_eq_ok_true_of_isBuiltIn hu hv).mpr ⟨rfl, rfl⟩
  have hvw := (Unit.isCompatible_eq_ok_true_of_isBuiltIn hv hw).mpr ⟨rfl, rfl⟩
  exact ⟨⟨6, _, rfl⟩, _, _, rfl, rfl, rfl, hu, hv, hw, huv, hvw, rfl, rfl,
    convert_laws hu hv hw huv hvw⟩

end Metrology.Measurement
