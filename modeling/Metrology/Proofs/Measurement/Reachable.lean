import Metrology.Proofs.Expression.Runs
import Metrology.Proofs.Measurement.Exact
import Metrology.Proofs.Unit.Reading
import Metrology.Value.Arithmetic

/-!
# Units that can be reached

Starting from names, the operations on measurements reach layered units only: whatever they join to
a compound is simple, and whatever they join to a simple unit becomes the second component. So the
comparison of names that decides whether units fit is a comparison of the units themselves.
-/

namespace Metrology

variable {α : Type} [Magnitude α]

lemma Measurement.unit_of_divideByNumber {a c : Measurement α} {k : α}
    (h : Value.divideByNumber a k = .ok c) : c.unit = a.unit := by
  unfold Value.divideByNumber at h
  split at h
  · simp at h
  · exact (ofMagnitude_eq_ok.mp h).2

/-- A unit that has been read, or that an operation gives to a measurement if the measurements it
takes have reachable units. Their magnitudes may be any. -/
inductive Unit.Reachable : Unit α → Prop where
  | read {name : String} {u : Unit α} (h : Unit.read name = .ok u) : u.Reachable
  | inBase {a c : Measurement α} (ha : a.unit.Reachable) (h : a.inBase = .ok c) :
    c.unit.Reachable
  | convert {a c : Measurement α} {u : Unit α} (ha : a.unit.Reachable) (hu : u.Reachable)
    (h : a.convert u = .ok c) : c.unit.Reachable
  | add {a b c : Measurement α} (ha : a.unit.Reachable) (hb : b.unit.Reachable)
    (h : a.add b = .ok c) : c.unit.Reachable
  | sub {a b c : Measurement α} (ha : a.unit.Reachable) (hb : b.unit.Reachable)
    (h : a.sub b = .ok c) : c.unit.Reachable
  | mul {a b c : Measurement α} (ha : a.unit.Reachable) (hb : b.unit.Reachable)
    (h : a.mul b = .ok c) : c.unit.Reachable
  | div {a b c : Measurement α} (ha : a.unit.Reachable) (hb : b.unit.Reachable)
    (h : a.div b = .ok c) : c.unit.Reachable
  | neg {a c : Measurement α} (ha : a.unit.Reachable) (h : a.neg = .ok c) : c.unit.Reachable
  | scale {a c : Measurement α} {k : α} (ha : a.unit.Reachable) (h : a.scale k = .ok c) :
    c.unit.Reachable
  | divideByNumber {a c : Measurement α} {k : α} (ha : a.unit.Reachable)
    (h : Value.divideByNumber a k = .ok c) : c.unit.Reachable
  | evaluate {operands : List (Measurement α)} {operators : List (Value α)} {c : Measurement α}
    (ha : ∀ a ∈ operands, a.unit.Reachable) (h : Expression.evaluate operands operators = .ok c) :
    c.unit.Reachable

namespace Unit

/-- One operation on layered units gives a layered unit. -/
lemma isLayered_of_apply {op : Operator} {a b c : Measurement α} (ha : a.unit.IsLayered)
    (hb : b.unit.IsLayered) (h : op.apply a b = .ok c) : c.unit.IsLayered := by
  rcases Measurement.unit_of_apply h with hbase | ⟨hd, j, hjoin⟩
  · exact ha.of_base_eq_ok hbase
  · rw [hjoin]
    exact ha.join hb hd j

lemma Reachable.isLayered {u : Unit α} (hu : u.Reachable) : u.IsLayered := by
  induction hu with
  | read h => exact isLayered_of_read h
  | inBase _ h iha => exact iha.of_base_eq_ok (Measurement.unit_of_inBase h)
  | convert _ _ h _ ihu =>
    rw [(Measurement.unit_of_convert h).2]
    exact ihu
  | add _ _ h iha ihb => exact isLayered_of_apply iha ihb (show Operator.add.apply _ _ = .ok _ from h)
  | sub _ _ h iha ihb => exact isLayered_of_apply iha ihb (show Operator.sub.apply _ _ = .ok _ from h)
  | mul _ _ h iha ihb => exact isLayered_of_apply iha ihb (show Operator.mul.apply _ _ = .ok _ from h)
  | div _ _ h iha ihb => exact isLayered_of_apply iha ihb (show Operator.div.apply _ _ = .ok _ from h)
  | neg _ h iha | scale _ h iha =>
    rw [(Measurement.ofMagnitude_eq_ok.mp h).2]
    exact iha
  | divideByNumber _ h iha =>
    rw [Measurement.unit_of_divideByNumber h]
    exact iha
  | evaluate _ h ih => exact Expression.evaluate_preserves isLayered_of_apply h ih

/-- Reachable units are layered and can be told by their names, and what is brought to one base
unit by its name has the same base unit. -/
theorem Reachable.isLayered_and_eq_of_name_eq {u v : Unit α} (hu : u.Reachable)
    (hv : v.Reachable) :
    u.IsLayered ∧ (u.name = v.name → (u == v) = true) ∧
      ∀ a b x y : Measurement α, a.unit = u → b.unit = v → a.inCommonBase b = .ok (x, y) →
        (x.unit == y.unit) = true := by
  refine ⟨hu.isLayered, ?_, ?_⟩
  · intro h
    rw [hu.isLayered.name_inj hv.isLayered h]
    exact BEq.rfl
  · rintro a b x y rfl rfl h
    obtain ⟨-, hx, hy, hname⟩ := Measurement.inCommonBase_eq_ok.mp h
    have hbx := hu.isLayered.of_base_eq_ok (Measurement.unit_of_inBase hx)
    have hby := hv.isLayered.of_base_eq_ok (Measurement.unit_of_inBase hy)
    rw [hbx.name_inj hby hname]
    exact BEq.rfl

/-- Dividing `kg` by what is read from `km / hr` reaches `kg / (km / hr)`, and the base form of
that reaches `g / (m / s)`. -/
theorem Reachable.mass_per_speed :
    ∃ u v : Unit Rat, u = per (.simple .kilogram) (.per (.simple .kilometer) (.simple .hour)) ∧
      v = per (.simple .gram) (.per (.simple .meter) (.simple .second)) ∧
      u.Reachable ∧ v.Reachable ∧ u.IsLayered ∧ (u.name = v.name → (u == v) = true) ∧
      ∀ a b x y : Measurement Rat, a.unit = u → b.unit = v → a.inCommonBase b = .ok (x, y) →
        (x.unit == y.unit) = true := by
  have hmass : Unit.read "kg" = .ok (.simple .kilogram : Unit Rat) := rfl
  have hspeed : Unit.read "km / hr" =
      .ok (per (.simple .kilometer) (.simple .hour) : Unit Rat) := rfl
  have hdiv : (⟨6, .simple .kilogram, rfl⟩ : Measurement Rat).div
      ⟨2, .per (.simple .kilometer) (.simple .hour), rfl⟩ =
      .ok ⟨3, .per (.simple .kilogram) (.per (.simple .kilometer) (.simple .hour)), rfl⟩ :=
    (Measurement.div_eq_ok_of_ne (by decide)).mpr
      ⟨beq_zero_eq_false_iff.mpr (by norm_num), by norm_num, rfl⟩
  have hu := Reachable.div (.read hmass) (.read hspeed) hdiv
  have hv := Reachable.inBase hu (Measurement.inBase_eq_ok hu.isLayered.isBuiltIn)
  exact ⟨_, _, rfl, rfl, hu, hv, hu.isLayered_and_eq_of_name_eq hv⟩

end Unit

end Metrology
