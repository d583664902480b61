import Metrology.Expression.Evaluation
import Metrology.Proofs.Fault
import Metrology.Proofs.Measurement.BaseForm
import Metrology.Proofs.Measurement.Range
import Metrology.Proofs.Unit.NormalForm
import Metrology.Value.Arithmetic

/-!
# Base forms as operands

A base form is its own base form, and zero is zero in base form. So it makes no difference to an
operation or a comparison of compatible measurements whether they are in base form already, except
for what the message of a division by zero shows.
-/

namespace Metrology

open Binary64

/-! ### Zero in base form -/

lemma Join.beq_zero_of_apply {j : Join} {x y z : Float} (h : j.apply x y = .ok z)
    (hx : (x == 0.0) = true) (hy : y.isFinite = true) : (z == 0.0) = true := by
  cases j with
  | times =>
    cases h
    exact beq_zero_mul hx hy
  | per =>
    rw [apply, divide] at h
    split at h
    · cases h
    · next hne =>
      cases h
      exact beq_zero_div hx hy hne

mutual

/-- The factors on the way to the base unit are finite, so zero stays zero. -/
lemma Unit.beq_zero_of_measureInBase {u : Unit Float} (hu : u.IsBuiltIn) {x : Float}
    {m : Measurement Float} (h : u.measureInBase x = .ok m) (hx : (x == 0.0) = true) :
    (m.magnitude == 0.0) = true := by
  match u with
  | .simple u =>
    rw [Unit.isBuiltIn_simple] at hu
    obtain ⟨-, hmag⟩ := Unit.base_and_toBase_of_measureInBase h
    rw [Unit.toBase, pure_eq_ok, Except.ok.injEq] at hmag
    rw [← hmag]
    exact beq_zero_mul hx (SimpleUnit.within_scale hu).isFinite
  | .compound c =>
    rw [Unit.isBuiltIn_compound] at hu
    rw [Unit.measureInBase, bind_eq_ok] at h
    obtain ⟨y, hy, h⟩ := h
    obtain ⟨b, -, h⟩ := bind_eq_ok.mp h
    rw [(Measurement.ofMagnitude_eq_ok.mp h).1]
    exact Compound.beq_zero_of_measureInBase hu hy hx

lemma Compound.beq_zero_of_measureInBase {c : Compound Float} (hc : c.IsBuiltIn) {x y : Float}
    (h : c.measureInBase x = .ok y) (hx : (x == 0.0) = true) : (y == 0.0) = true := by
  match c with
  | .single u =>
    rw [Compound.isBuiltIn_single] at hc
    rw [Compound.measureInBase, bind_eq_ok] at h
    obtain ⟨m, hm, h⟩ := h
    cases h
    exact Unit.beq_zero_of_measureInBase hc hm hx
  | .snoc c j u =>
    rw [Compound.isBuiltIn_snoc] at hc
    rw [Compound.measureInBase, bind_eq_ok] at h
    obtain ⟨z, hz, h⟩ := h
    obtain ⟨m, -, h⟩ := bind_eq_ok.mp h
    exact Join.beq_zero_of_apply h (Compound.beq_zero_of_measureInBase hc.1 hz hx) m.finite

end

namespace Measurement

/-! ### Measurements and their base forms -/

/-- The measurement is the other one or its base form. -/
def IsFormOf (a' a : Measurement Float) : Prop := a' = a ∨ a.inBase = .ok a'

section Form

variable {a a' x : Measurement Float} (ha : a.unit.IsBuiltIn)
include ha

lemma IsFormOf.inBase_eq (h : a'.IsFormOf a) (hx : a.inBase = .ok x) : a'.inBase = .ok x := by
  rcases h with rfl | h
  · exact hx
  · rw [inBase_of_inBase ha h, ← h, hx]

lemma IsFormOf.dimension_eq (h : a'.IsFormOf a) : a'.unit.dimension = a.unit.dimension := by
  rcases h with rfl | h
  · rfl
  · rw [unit_eq_root_of_inBase ha h, Unit.dimension_root ha]

/-- If a form of the measurement is zero, so is its base form. -/
lemma IsFormOf.beq_zero (h : a'.IsFormOf a) (hx : a.inBase = .ok x)
    (hzero : (a'.magnitude == 0.0) = true) : (x.magnitude == 0.0) = true := by
  rcases h with rfl | h
  · exact Unit.beq_zero_of_measureInBase ha hx hzero
  · obtain rfl : a' = x := Except.ok.inj (h.symm.trans hx)
    exact hzero

end Form

/-! ### Operations on forms of two measurements -/

section Operations

variable {a b a' b' x y : Measurement Float}

lemma compare_congr (h : a.inCommonBase b = a'.inCommonBase b') (c : Comparison) :
    Value.compare c (.measurement a) (.measurement b) =
      Value.compare c (.measurement a') (.measurement b') := by
  cases c <;> simp only [Value.compare, lt, le, gt, ge, eq, h]

/-- A quotient in a common base unit fails if the divisor is zero there, which it may have been
before. -/
lemma div_eq_of_inCommonBase (h : a.inCommonBase b = .ok (x, y))
    (hzero : (b.magnitude == 0.0) = true → (y.magnitude == 0.0) = true) :
    a.div b = if y.magnitude == 0.0 then
        .error (.zeroDivisor a (if b.magnitude == 0.0 then .measurement b else .inBaseUnits b))
      else ofMagnitude (x.magnitude / y.magnitude) x.unit := by
  rw [div, if_pos (inCommonBase_eq_ok.mp h).1, h, ok_bind]
  split
  · next hb =>
    rw [if_pos (hzero hb)]
    rfl
  · rfl

/-- Operands with the same base forms give the same result, or faults of one class. -/
lemma apply_agree_of_inCommonBase (h : a.inCommonBase b = .ok (x, y))
    (h' : a'.inCommonBase b' = .ok (x, y))
    (hzero : (b.magnitude == 0.0) = true → (y.magnitude == 0.0) = true)
    (hzero' : (b'.magnitude == 0.0) = true → (y.magnitude == 0.0) = true) (op : Operator) :
    Agree Eq (op.apply a b) (op.apply a' b') := by
  have hd := (inCommonBase_eq_ok.mp h).1
  have hd' := (inCommonBase_eq_ok.mp h').1
  cases op with
  | add =>
    rw [Operator.apply, Operator.apply, add, add, h, h']
    exact agree_refl _ fun c _ => rfl
  | sub =>
    rw [Operator.apply, Operator.apply, sub, sub, h, h']
    exact agree_refl _ fun c _ => rfl
  | mul =>
    rw [Operator.apply, Operator.apply, mul, mul, if_pos hd, if_pos hd', h, h']
    exact agree_refl _ fun c _ => rfl
  | div =>
    rw [Operator.apply, Operator.apply, div_eq_of_inCommonBase h hzero,
      div_eq_of_inCommonBase h' hzero']
    split
    · exact agree_error.mpr rfl
    · exact agree_refl _ fun c _ => rfl

end Operations

/-! ### Base form as a normal form -/

/-- Base units and base forms do not change when they are brought to base form again, and no
operation or comparison of compatible measurements can tell them from the measurements. -/
theorem inBase_isNormal :
    (∀ u : Unit Float, u.IsBuiltIn → ∃ b, u.base = .ok b ∧ b.base = .ok b ∧ u.SameShape b) ∧
    (∀ m b : Measurement Float, m.unit.IsBuiltIn → m.inBase = .ok b → b.inBase = .ok b) ∧
    ∀ a b x y a' b' : Measurement Float, a.unit.IsBuiltIn → b.unit.IsBuiltIn →
      a.unit.isCompatible b.unit = .ok true → a.inBase = .ok x → b.inBase = .ok y →
      a'.IsFormOf a → b'.IsFormOf b →
        (∀ op : Operator, Agree Eq (op.apply a b) (op.apply a' b')) ∧
        ∀ c, Value.compare c (.measurement a) (.measurement b) =
          Value.compare c (.measurement a') (.measurement b') := by
  refine ⟨fun u hu => Unit.exists_base_eq_ok hu, fun m b hm h => inBase_of_inBase hm h, ?_⟩
  intro a b x y a' b' ha hb hcompatible hx hy ha' hb'
  obtain ⟨hd, r, s, hr, hs, hname⟩ := Unit.isCompatible_eq_ok_true.mp hcompatible
  obtain rfl : r = x.unit := Except.ok.inj (hr.symm.trans (unit_of_inBase hx))
  obtain rfl : s = y.unit := Except.ok.inj (hs.symm.trans (unit_of_inBase hy))
  have h : a.inCommonBase b = .ok (x, y) := inCommonBase_eq_ok.mpr ⟨hd, hx, hy, hname⟩
  have h' : a'.inCommonBase b' = .ok (x, y) := by
    refine inCommonBase_eq_ok.mpr ⟨?_, ha'.inBase_eq ha hx, hb'.inBase_eq hb hy, hname⟩
    rw [ha'.dimension_eq ha, hb'.dimension_eq hb, hd]
  refine ⟨apply_agree_of_inCommonBase h h' ?_ ?_, compare_congr (h.trans h'.symm)⟩
  · exact IsFormOf.beq_zero hb (.inl rfl) hy
  · exact hb'.beq_zero hb hy

/-- `72 km / hr` and `5 m / s` can be replaced by their base forms in every operation. -/
theorem inBase_isNormal_speed :
    ∃ a b x y : Measurement Float,
      a.magnitude = 72.0 ∧ a.unit = .per (.simple .kilometer) (.simple .hour) ∧
      b.magnitude = 5.0 ∧ b.unit = .per (.simple .meter) (.simple .second) ∧
      a.unit.IsBuiltIn ∧ b.unit.IsBuiltIn ∧ a.unit.isCompatible b.unit = .ok true ∧
      a.inBase = .ok x ∧ b.inBase = .ok y ∧ x.inBase = .ok x ∧
      (∀ op : Operator, Agree Eq (op.apply a b) (op.apply x y)) ∧
      ∀ c, Value.compare c (.measurement a) (.measurement b) =
        Value.compare c (.measurement x) (.measurement y) := by
  have ha : (Unit.per (.simple .kilometer) (.simple .hour) : Unit Float).IsBuiltIn := by
    simp [SimpleUnit.builtIn]
  have hb : (Unit.per (.simple .meter) (.simple .second) : Unit Float).IsBuiltIn := by
    simp [SimpleUnit.builtIn]
  have hcompatible : (Unit.per (.simple .kilometer) (.simple .hour) : Unit Float).isCompatible
      (.per (.simple .meter) (.simple .second)) = .ok true :=
    (Unit.isCompatible_eq_ok_true_of_isBuiltIn ha hb).mpr ⟨rfl, rfl⟩
  have hfactors : (Unit.per (.simple .kilometer) (.simple .hour) : Unit Float).HasFiniteFactors := by
    simp only [Unit.per, Unit.hasFiniteFactors_compound, Compound.hasFiniteFactors_snoc,
      Compound.hasFiniteFactors_single, Unit.hasFiniteFactors_simple, true_and]
    exact ⟨_, rfl, by decide +kernel⟩
  have hmag : (Unit.per (.simple .kilometer) (.simple .hour)).toBase (72.0 : Float) =
      .ok (72.0 * 1000.0 / (1.0 * 3600.0)) := by
    have hne : ((1.0 * 3600.0 : Float) == 0.0) = false := by decide +kernel
    change divide (72.0 * 1000.0) (1.0 * 3600.0) = _
    rw [divide, hne]
    rfl
  have hx := Unit.measureInBase_of_toBase ha hfactors hmag (by decide +kernel)
  have hy := Unit.measureInBase_root hb (x := 5.0) (by decide +kernel)
  obtain ⟨-, hstable, hoperands⟩ := inBase_isNormal
  obtain ⟨hops, hcomparisons⟩ := hoperands ⟨72.0, _, by decide +kernel⟩ ⟨5.0, _, by decide +kernel⟩
    _ _ _ _ ha hb hcompatible hx hy (.inr hx) (.inr hy)
  exact ⟨⟨72.0, _, _⟩, ⟨5.0, _, _⟩, _, _, rfl, rfl, rfl, rfl, ha, hb, hcompatible, hx, hy,
    hstable ⟨72.0, _, by decide +kernel⟩ _ ha hx, hops, hcomparisons⟩

end Measurement

end Metrology
