import Metrology.Proofs.Binary64.Arithmetic
import Metrology.Proofs.Measurement.Faults

/-!
# Base form and base magnitude

The base form of a measurement is built step by step along the unit, and magnitudes are checked on
the way; the base magnitude is computed along the unit alone. Both are the same number, so that
only the checks can tell them apart: there is a base form exactly if there is a finite base
magnitude and every component after a first one has a finite factor.
-/

namespace Metrology

/-! ### Finite factors -/

mutual

/-- Does every component but the first have a finite base magnitude for one unit, at any depth? -/
def Unit.HasFiniteFactors : Unit Float → Prop
  | .simple _ => True
  | .compound c => c.HasFiniteFactors

/-- Does every component but the first have a finite base magnitude for one unit, at any depth? -/
def Compound.HasFiniteFactors : Compound Float → Prop
  | .single u => u.HasFiniteFactors
  | .snoc c _ u => c.HasFiniteFactors ∧ u.HasFiniteFactors ∧
      ∃ y, u.toBase 1.0 = .ok y ∧ y.isFinite = true

end

@[simp] lemma Unit.hasFiniteFactors_simple (u : SimpleUnit Float) :
    (Unit.simple u).HasFiniteFactors := by simp [Unit.HasFiniteFactors]

@[simp] lemma Unit.hasFiniteFactors_compound (c : Compound Float) :
    (Unit.compound c).HasFiniteFactors ↔ c.HasFiniteFactors := by simp [Unit.HasFiniteFactors]

@[simp] lemma Compound.hasFiniteFactors_single (u : Unit Float) :
    (Compound.single u).HasFiniteFactors ↔ u.HasFiniteFactors := by
  simp [Compound.HasFiniteFactors]

@[simp] lemma Compound.hasFiniteFactors_snoc (c : Compound Float) (j : Join) (u : Unit Float) :
    (c.snoc j u).HasFiniteFactors ↔ c.HasFiniteFactors ∧ u.HasFiniteFactors ∧
      ∃ y, u.toBase 1.0 = .ok y ∧ y.isFinite = true := by simp [Compound.HasFiniteFactors]

mutual

/-- One unit of every component is brought to base form on the way, so its factor is finite. -/
lemma Unit.hasFiniteFactors_of_measureInBase {u : Unit Float} {x : Float} {m : Measurement Float}
    (h : u.measureInBase x = .ok m) : u.HasFiniteFactors := by
  match u with
  | .simple u => exact Unit.hasFiniteFactors_simple u
  | .compound c =>
    rw [Unit.measureInBase, bind_eq_ok] at h
    obtain ⟨y, hy, -⟩ := h
    rw [Unit.hasFiniteFactors_compound]
    exact Compound.hasFiniteFactors_of_measureInBase hy

lemma Compound.hasFiniteFactors_of_measureInBase {c : Compound Float} {x y : Float}
    (h : c.measureInBase x = .ok y) : c.HasFiniteFactors := by
  match c with
  | .single u =>
    rw [Compound.measureInBase, bind_eq_ok] at h
    obtain ⟨m, hm, -⟩ := h
    rw [Compound.hasFiniteFactors_single]
    exact Unit.hasFiniteFactors_of_measureInBase hm
  | .snoc c j u =>
    rw [Compound.measureInBase, bind_eq_ok] at h
    obtain ⟨z, hz, h⟩ := h
    obtain ⟨m, hm, -⟩ := bind_eq_ok.mp h
    rw [Compound.hasFiniteFactors_snoc]
    exact ⟨Compound.hasFiniteFactors_of_measureInBase hz, Unit.hasFiniteFactors_of_measureInBase hm,
      m.magnitude, (Unit.base_and_toBase_of_measureInBase hm).2, m.finite⟩

end

/-! ### From the base magnitude to the base form -/

/-- A finite result of joining a finite factor comes of a finite magnitude. -/
lemma Join.isFinite_of_apply {j : Join} {x y z : Float} (h : j.apply x y = .ok z)
    (hy : y.isFinite = true) (hz : z.isFinite = true) : x.isFinite = true := by
  cases j with
  | times =>
    cases h
    exact Binary64.isFinite_of_mul hz
  | per =>
    rw [Join.apply, divide] at h
    split at h
    · cases h
    · cases h
      exact Binary64.isFinite_of_div hz hy

mutual

/-- If the magnitude ends up finite, it has been finite all along. -/
lemma Unit.measureInBase_of_toBase {u : Unit Float} (hu : u.IsBuiltIn) (hf : u.HasFiniteFactors)
    {x y : Float} (h : u.toBase x = .ok y) (hy : y.isFinite = true) :
    u.measureInBase x = .ok ⟨y, u.root, hy⟩ := by
  match u with
  | .simple u =>
    rw [Unit.isBuiltIn_simple] at hu
    rw [Unit.toBase] at h
    cases h
    rw [Unit.measureInBase, (SimpleUnit.root_of_mem_builtIn hu).1, ok_bind, Unit.root_simple]
    exact Measurement.ofMagnitude_eq_ok.mpr ⟨rfl, rfl⟩
  | .compound c =>
    rw [Unit.isBuiltIn_compound] at hu
    rw [Unit.hasFiniteFactors_compound] at hf
    rw [Unit.toBase] at h
    rw [Unit.measureInBase, Compound.measureInBase_of_toBase hu hf h hy, ok_bind,
      Compound.base_eq_root hu, ok_bind, Unit.root_compound]
    exact Measurement.ofMagnitude_eq_ok.mpr ⟨rfl, rfl⟩

lemma Compound.measureInBase_of_toBase {c : Compound Float} (hc : c.IsBuiltIn)
    (hf : c.HasFiniteFactors) {x y : Float} (h : c.toBase x = .ok y) (hy : y.isFinite = true) :
    c.measureInBase x = .ok y := by
  match c with
  | .single u =>
    rw [Compound.isBuiltIn_single] at hc
    rw [Compound.hasFiniteFactors_single] at hf
    rw [Compound.toBase] at h
    rw [Compound.measureInBase, Unit.measureInBase_of_toBase hc hf h hy]
    rfl
  | .snoc c j u =>
    rw [Compound.isBuiltIn_snoc] at hc
    rw [Compound.hasFiniteFactors_snoc] at hf
    obtain ⟨hfc, hfu, y₁, hy₁, hfinite⟩ := hf
    rw [Compound.toBase, hy₁, bind_eq_ok] at h
    obtain ⟨z, hz, hjoin⟩ := h
    rw [ok_bind] at hjoin
    have hzfinite := Join.isFinite_of_apply hjoin hfinite hy
    rw [Compound.measureInBase, Compound.measureInBase_of_toBase hc.1 hfc hz hzfinite, ok_bind,
      Unit.measureInBase_of_toBase hc.2 hfu hy₁ hfinite, ok_bind]
    exact hjoin

end

/-! ### Faults -/

section Faults

variable {α : Type} [Magnitude α]

lemma Measurement.eq_notFinite_of_ofMagnitude {x : α} {u : Unit α} {f : Fault α}
    (h : ofMagnitude x u = .error f) : f = .notFinite x ∧ Magnitude.isFinite x = false := by
  unfold ofMagnitude ofMagnitude? at h
  split_ifs at h with hx
  · cases h
  · cases h
    exact ⟨rfl, Bool.eq_false_of_not_eq_true hx⟩

mutual

/-- The base form fails at a magnitude that is not finite, or where the base magnitude does. -/
lemma Unit.toBase_of_measureInBase_eq_error {u : Unit α} (hu : u.IsBuiltIn) {x : α} {f : Fault α}
    (h : u.measureInBase x = .error f) :
    (∃ y, f = .notFinite y ∧ Magnitude.isFinite y = false) ∨ u.toBase x = .error f := by
  match u with
  | .simple u =>
    rw [Unit.isBuiltIn_simple] at hu
    rw [Unit.measureInBase, (SimpleUnit.root_of_mem_builtIn hu).1, ok_bind] at h
    exact .inl ⟨_, Measurement.eq_notFinite_of_ofMagnitude h⟩
  | .compound c =>
    rw [Unit.isBuiltIn_compound] at hu
    rw [Unit.measureInBase, Compound.base_eq_root hu] at h
    rw [Unit.toBase]
    cases hc : c.measureInBase x with
    | error e =>
      rw [hc] at h
      cases h
      exact Compound.toBase_of_measureInBase_eq_error hu hc
    | ok y =>
      rw [hc, ok_bind, ok_bind] at h
      exact .inl ⟨y, Measurement.eq_notFinite_of_ofMagnitude h⟩

lemma Compound.toBase_of_measureInBase_eq_error {c : Compound α} (hc : c.IsBuiltIn) {x : α}
    {f : Fault α} (h : c.measureInBase x = .error f) :
    (∃ y, f = .notFinite y ∧ Magnitude.isFinite y = false) ∨ c.toBase x = .error f := by
  match c with
  | .single u =>
    rw [Compound.isBuiltIn_single] at hc
    rw [Compound.measureInBase] at h
    rw [Compound.toBase]
    cases hu : u.measureInBase x with
    | error e =>
      rw [hu] at h
      cases h
      exact Unit.toBase_of_measureInBase_eq_error hc hu
    | ok m =>
      rw [hu] at h
      cases h
  | .snoc c j u =>
    rw [Compound.isBuiltIn_snoc] at hc
    rw [Compound.measureInBase] at h
    rw [Compound.toBase]
    cases hl : c.measureInBase x with
    | error e =>
      rw [hl] at h
      cases h
      refine (Compound.toBase_of_measureInBase_eq_error hc.1 hl).imp_right fun hx => ?_
      rw [hx, error_bind]
    | ok y =>
      rw [hl, ok_bind] at h
      rw [Compound.toBase_of_measureInBase hl, ok_bind]
      cases hr : u.measureInBase 1.0 with
      | error e =>
        rw [hr] at h
        cases h
        refine (Unit.toBase_of_measureInBase_eq_error hc.2 hr).imp_right fun hx => ?_
        rw [hx, error_bind]
      | ok m =>
        rw [hr, ok_bind] at h
        rw [(Unit.base_and_toBase_of_measureInBase hr).2, ok_bind]
        exact .inr h

end

end Faults

/-! ### Both ways to the base unit -/

namespace Measurement

/-- There is a base form exactly if there is a finite base magnitude and every component but the
first has a finite factor, at any depth: it has this very magnitude, in the unit's base unit.
Where there is none although the base magnitude can be computed, a magnitude was not finite. -/
theorem inBase_eq_ok_iff {m : Measurement Float} (hm : m.unit.IsBuiltIn) :
    (∀ b, m.inBase = .ok b ↔ m.baseMagnitude = .ok b.magnitude ∧ m.unit.base = .ok b.unit ∧
      m.unit.HasFiniteFactors) ∧
    (∀ y, m.baseMagnitude = .ok y → y.isFinite = true → m.unit.HasFiniteFactors →
      ∃ b, m.inBase = .ok b) ∧
    ∀ f, m.inBase = .error f →
      (∃ y, f = .notFinite y ∧ y.isFinite = false) ∨ m.baseMagnitude = .error f := by
  refine ⟨fun b => ⟨fun h => ?_, ?_⟩, fun y hy hfinite hf => ?_, fun f h => ?_⟩
  · obtain ⟨hbase, hmag⟩ := Unit.base_and_toBase_of_measureInBase h
    exact ⟨hmag, hbase, Unit.hasFiniteFactors_of_measureInBase h⟩
  · rintro ⟨hmag, hbase, hf⟩
    rw [Unit.base_eq_root hm] at hbase
    rw [inBase, Unit.measureInBase_of_toBase hm hf hmag b.finite]
    obtain ⟨x, u, hx⟩ := b
    cases hbase
    rfl
  · exact ⟨_, Unit.measureInBase_of_toBase hm hf hy hfinite⟩
  · exact Unit.toBase_of_measureInBase_eq_error hm h

/-- The base form of `2.5 kg / (km / hr)`, whose second component is a compound. -/
theorem inBase_of_mass_per_speed :
    ∃ m : Measurement Float,
      m = ⟨2.5, .per (.simple .kilogram) (.per (.simple .kilometer) (.simple .hour)),
        by decide +kernel⟩ ∧
      m.unit.IsBuiltIn ∧ m.unit.HasFiniteFactors ∧
      ∃ b, m.inBase = .ok b ∧ m.baseMagnitude = .ok b.magnitude ∧ m.unit.base = .ok b.unit := by
  have hu : (.per (.simple .kilogram) (.per (.simple .kilometer) (.simple .hour)) :
      Unit Float).IsBuiltIn := by simp [SimpleUnit.builtIn]
  have hhour : ((1.0 * 3600.0 : Float) == 0.0) = false := by decide +kernel
  have hspeed : (Unit.per (.simple .kilometer) (.simple .hour)).toBase (1.0 : Float) =
      .ok (1.0 * 1000.0 / (1.0 * 3600.0)) := by
    change divide (1.0 * 1000.0) (1.0 * 3600.0) = _
    rw [divide, hhour]
    rfl
  have hfactors : (.per (.simple .kilogram) (.per (.simple .kilometer) (.simple .hour)) :
      Unit Float).HasFiniteFactors := by
    simp only [Unit.per, Unit.hasFiniteFactors_compound, Compound.hasFiniteFactors_snoc,
      Compound.hasFiniteFactors_single, Unit.hasFiniteFactors_simple, true_and]
    exact ⟨⟨_, rfl, by decide +kernel⟩, _, hspeed, by decide +kernel⟩
  have hmag : (Unit.per (.simple .kilogram) (.per (.simple .kilometer) (.simple .hour))).toBase
      (2.5 : Float) = .ok (2.5 * 1000.0 / (1.0 * 1000.0 / (1.0 * 3600.0))) := by
    have hne : (1.0 * 1000.0 / (1.0 * 3600.0) == (0.0 : Float)) = false := by decide +kernel
    change ((pure (2.5 * 1000.0) : Result Float Float) >>= fun y =>
      (Unit.per (.simple .kilometer) (.simple .hour)).toBase 1.0 >>= divide y) = _
    rw [hspeed, pure_eq_ok, ok_bind, ok_bind, divide, hne]
    rfl
  refine ⟨_, rfl, hu, hfactors, ?_⟩
  obtain ⟨hiff, hreturns, -⟩ := inBase_eq_ok_iff
    (m := ⟨2.5, .per (.simple .kilogram) (.per (.simple .kilometer) (.simple .hour)),
      by decide +kernel⟩) hu
  obtain ⟨b, hb⟩ := hreturns _ hmag (by decide +kernel) hfactors
  exact ⟨b, hb, ((hiff b).mp hb).1, ((hiff b).mp hb).2.1⟩

end Measurement

end Metrology
