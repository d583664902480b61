import Metrology.Measurement.Arithmetic
import Metrology.Expression.Evaluation
import Metrology.Proofs.Result

/-!
# What an operation on measurements returns

Each operation succeeds exactly under its guards, and then with this magnitude in this unit. The
statements about the base unit say that a measurement in base form has the base unit and the
magnitude that are found along the unit's structure.
-/

namespace Metrology

variable {α : Type} [Magnitude α]

lemma Measurement.ofMagnitude_eq_ok {x : α} {u : Unit α} {m : Measurement α} :
    ofMagnitude x u = .ok m ↔ m.magnitude = x ∧ m.unit = u := by
  rw [← ofMagnitude?_eq_some_iff, ofMagnitude]
  split
  · next h => simp [h]
  · next h => simp [h]

/-! ### Base form -/

mutual

lemma Unit.base_and_toBase_of_measureInBase {u : Unit α} {x : α} {m : Measurement α}
    (h : u.measureInBase x = .ok m) : u.base = .ok m.unit ∧ u.toBase x = .ok m.magnitude := by
  match u with
  | .simple u =>
    rw [Unit.measureInBase, bind_eq_ok] at h
    obtain ⟨b, hb, h⟩ := h
    obtain ⟨hm, hu⟩ := Measurement.ofMagnitude_eq_ok.mp h
    simp [Unit.base, Unit.toBase, hb, hm, hu]
  | .compound c =>
    rw [Unit.measureInBase, bind_eq_ok] at h
    obtain ⟨y, hy, h⟩ := h
    obtain ⟨b, hb, h⟩ := bind_eq_ok.mp h
    obtain ⟨hm, hu⟩ := Measurement.ofMagnitude_eq_ok.mp h
    simp [Unit.base, Unit.toBase, hb, hm, hu, Compound.toBase_of_measureInBase hy]

lemma Compound.toBase_of_measureInBase {c : Compound α} {x y : α}
    (h : c.measureInBase x = .ok y) : c.toBase x = .ok y := by
  match c with
  | .single u =>
    rw [Compound.measureInBase, bind_eq_ok] at h
    obtain ⟨m, hm, h⟩ := h
    cases h
    simp [Compound.toBase, (Unit.base_and_toBase_of_measureInBase hm).2]
  | .snoc c j u =>
    rw [Compound.measureInBase, bind_eq_ok] at h
    obtain ⟨z, hz, h⟩ := h
    obtain ⟨m, hm, h⟩ := bind_eq_ok.mp h
    simpa [Compound.toBase, Compound.toBase_of_measureInBase hz,
      (Unit.base_and_toBase_of_measureInBase hm).2] using h

end

namespace Measurement

lemma unit_of_inBase {a b : Measurement α} (h : a.inBase = .ok b) : a.unit.base = .ok b.unit :=
  (Unit.base_and_toBase_of_measureInBase h).1

lemma inCommonBase_eq_ok {a b x y : Measurement α} :
    a.inCommonBase b = .ok (x, y) ↔
      a.unit.dimension = b.unit.dimension ∧ a.inBase = .ok x ∧ b.inBase = .ok y ∧
        x.unit.name = y.unit.name := by
  unfold inCommonBase
  by_cases hd : a.unit.dimension = b.unit.dimension
  · simp only [hd, if_true, true_and, bind_eq_ok]
    constructor
    · rintro ⟨x', hx, y', hy, h⟩
      split at h
      · next hn =>
        cases h
        exact ⟨hx, hy, hn⟩
      · cases h
    · rintro ⟨hx, hy, hn⟩
      exact ⟨x, hx, y, hy, by simp [hn]⟩
  · simp [hd]

/-! ### The four operations -/

lemma add_eq_ok {a b c : Measurement α} :
    a.add b = .ok c ↔ ∃ x y, a.inCommonBase b = .ok (x, y) ∧
      c.magnitude = x.magnitude + y.magnitude ∧ c.unit = x.unit := by
  simp [add, bind_eq_ok, ofMagnitude_eq_ok]

lemma sub_eq_ok {a b c : Measurement α} :
    a.sub b = .ok c ↔ ∃ x y, a.inCommonBase b = .ok (x, y) ∧
      c.magnitude = x.magnitude - y.magnitude ∧ c.unit = x.unit := by
  simp [sub, bind_eq_ok, ofMagnitude_eq_ok]

lemma mul_eq_ok_of_eq {a b c : Measurement α} (hd : a.unit.dimension = b.unit.dimension) :
    a.mul b = .ok c ↔ ∃ x y, a.inCommonBase b = .ok (x, y) ∧
      c.magnitude = x.magnitude * y.magnitude ∧ c.unit = x.unit := by
  simp [mul, hd, bind_eq_ok, ofMagnitude_eq_ok]

lemma mul_eq_ok_of_ne {a b c : Measurement α} (hd : a.unit.dimension ≠ b.unit.dimension) :
    a.mul b = .ok c ↔
      c.magnitude = a.magnitude * b.magnitude ∧ c.unit = a.unit.join .times b.unit := by
  simp [mul, hd, ofMagnitude_eq_ok]

lemma div_eq_ok_of_eq {a b c : Measurement α} (hd : a.unit.dimension = b.unit.dimension) :
    a.div b = .ok c ↔ (b.magnitude == 0.0) = false ∧ ∃ x y, a.inCommonBase b = .ok (x, y) ∧
      (y.magnitude == 0.0) = false ∧ c.magnitude = x.magnitude / y.magnitude ∧
        c.unit = x.unit := by
  unfold div
  cases hb : b.magnitude == 0.0 with
  | true => simp
  | false =>
    simp only [hd, if_true, Bool.false_eq_true, if_false, bind_eq_ok, Prod.exists, true_and]
    refine exists_congr fun x => exists_congr fun y => and_congr_right fun _ => ?_
    cases hy : y.magnitude == 0.0 <;> simp [ofMagnitude_eq_ok]

lemma div_eq_ok_of_ne {a b c : Measurement α} (hd : a.unit.dimension ≠ b.unit.dimension) :
    a.div b = .ok c ↔ (b.magnitude == 0.0) = false ∧
      c.magnitude = a.magnitude / b.magnitude ∧ c.unit = a.unit.join .per b.unit := by
  unfold div
  cases hb : b.magnitude == 0.0 with
  | true => simp
  | false => simp [hd, ofMagnitude_eq_ok]

/-- An operation ends in the left operand's base unit, or it joins units of two dimensions. -/
lemma unit_of_apply {op : Operator} {a b c : Measurement α} (h : op.apply a b = .ok c) :
    a.unit.base = .ok c.unit ∨
      a.unit.dimension ≠ b.unit.dimension ∧ ∃ j, c.unit = a.unit.join j b.unit := by
  have hbase : ∀ {x y : Measurement α}, a.inCommonBase b = .ok (x, y) → c.unit = x.unit →
      a.unit.base = .ok c.unit := by
    intro x y hxy hu
    rw [hu]
    exact unit_of_inBase (inCommonBase_eq_ok.mp hxy).2.1
  cases op with
  | add =>
    obtain ⟨x, y, hxy, -, hu⟩ := add_eq_ok.mp h
    exact .inl (hbase hxy hu)
  | sub =>
    obtain ⟨x, y, hxy, -, hu⟩ := sub_eq_ok.mp h
    exact .inl (hbase hxy hu)
  | mul =>
    by_cases hd : a.unit.dimension = b.unit.dimension
    · obtain ⟨x, y, hxy, -, hu⟩ := (mul_eq_ok_of_eq hd).mp h
      exact .inl (hbase hxy hu)
    · exact .inr ⟨hd, .times, ((mul_eq_ok_of_ne hd).mp h).2⟩
  | div =>
    by_cases hd : a.unit.dimension = b.unit.dimension
    · obtain ⟨-, x, y, hxy, -, -, hu⟩ := (div_eq_ok_of_eq hd).mp h
      exact .inl (hbase hxy hu)
    · exact .inr ⟨hd, .per, ((div_eq_ok_of_ne hd).mp h).2.2⟩

/-! ### Conversion -/

lemma unit_of_convert {a b : Measurement α} {u : Unit α} (h : a.convert u = .ok b) :
    a.unit.isCompatible u = .ok true ∧ b.unit = u := by
  obtain ⟨fits, hfits, h⟩ := bind_eq_ok.mp h
  split at h
  · next ht =>
    obtain ⟨x, -, h⟩ := bind_eq_ok.mp h
    obtain ⟨y, -, h⟩ := bind_eq_ok.mp h
    exact ⟨ht ▸ hfits, (ofMagnitude_eq_ok.mp h).2⟩
  · simp at h

end Measurement

end Metrology
