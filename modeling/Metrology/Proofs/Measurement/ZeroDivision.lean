import Metrology.Proofs.Measurement.Operations
import Metrology.Proofs.Unit.Divisors

/-!
# Conversions between compatible units

A conversion between compatible units goes by way of the base unit. It divides by zero if one of
its two ways does; otherwise only a result that is not finite is a fault. A conversion factor is
moreover a quotient itself, by the factor of its target. No unit of moderate size has a factor that
is zero.
-/

namespace Metrology

/-- Is one of the base unit zero in this unit? -/
def Unit.IsHuge (u : Unit Float) : Prop := HasZeroFactor Unit.fromBase u

variable {β : Type} {x : Result Float β} {E : Fault Float → Prop} {P : β → Prop} {D : Prop}

/-- What is known of a result of which it is known when it is a division by zero. -/
lemma Yields.or_zeroDivision_iff (hE : ¬ E .zeroDivision)
    (h : Yields E P x ∧ ¬ D ∨ x = .error .zeroDivision ∧ D) :
    Yields (fun f => E f ∨ f = .zeroDivision) P x ∧ (x = .error .zeroDivision ↔ D) := by
  rcases h with ⟨hyields, hD⟩ | ⟨rfl, hD⟩
  · refine ⟨hyields.mono (fun _ => .inl) fun _ => id, iff_of_false ?_ hD⟩
    exact fun herror => hE (hyields.fault _ herror)
  · exact ⟨yields_error.mpr (.inr rfl), iff_of_true rfl hD⟩

/-! ### Divisors of ordinary size -/

namespace Unit

variable {u v : Unit Float}

lemma not_vanishes_of_mem_divisors (hu : u.IsBuiltIn) (hsize : ∀ w ∈ u.divisors, w.size ≤ 85) :
    ¬ ∃ w ∈ u.divisors, w.Vanishes := by
  rintro ⟨w, hw, hzero⟩
  exact isModerate_toBase.not_hasZeroFactor (isBuiltIn_of_mem_divisors hu hw) (hsize w hw) hzero

lemma not_isHuge_of_mem_divisors (hu : u.IsBuiltIn) (hsize : ∀ w ∈ u.divisors, w.size ≤ 85) :
    ¬ ∃ w ∈ u.divisors, w.IsHuge := by
  rintro ⟨w, hw, hzero⟩
  exact isModerate_fromBase.not_hasZeroFactor (isBuiltIn_of_mem_divisors hu hw) (hsize w hw) hzero

/-! ### Conversion factors -/

/-- A conversion factor fails on either unit's way, or because one of the base unit is zero in the
target. -/
lemma yields_conversionFactor_or_fails (h : u.isCompatible v = .ok true) :
    Yields (fun _ => False) (fun _ => True) (u.conversionFactor v) ∧
        ¬ ((∃ w ∈ u.divisors, w.Vanishes) ∨ (∃ w ∈ v.divisors, w.IsHuge) ∨ v.IsHuge) ∨
      u.conversionFactor v = .error .zeroDivision ∧
        ((∃ w ∈ u.divisors, w.Vanishes) ∨ (∃ w ∈ v.divisors, w.IsHuge) ∨ v.IsHuge) := by
  rw [conversionFactor, h, ok_bind, if_pos rfl]
  rcases isConversion_toBase.returns_or_fails u 1.0 with ⟨⟨x, hx⟩, hnone⟩ | ⟨herror, hsome⟩
  · rcases isConversion_fromBase.returns_or_fails v 1.0 with ⟨⟨y, hy⟩, hnone'⟩ | ⟨herror, hsome⟩
    · rw [hx, ok_bind, hy, ok_bind, divide]
      by_cases hzero : (y == 0.0) = true
      · rw [if_pos hzero]
        exact .inr ⟨rfl, .inr (.inr ⟨y, hy, hzero⟩)⟩
      · rw [if_neg hzero]
        refine .inl ⟨yields_ok.mpr trivial, ?_⟩
        rintro (⟨w, hw, hvanishes⟩ | ⟨w, hw, hhuge⟩ | ⟨z, hz, hhuge⟩)
        · exact hnone w hw hvanishes
        · exact hnone' w hw hhuge
        · obtain rfl : y = z := Except.ok.inj (hy.symm.trans hz)
          exact hzero hhuge
    · rw [hx, ok_bind, herror, error_bind]
      exact .inr ⟨rfl, .inr (.inl hsome)⟩
  · rw [herror, error_bind]
    exact .inr ⟨rfl, .inl hsome⟩

end Unit

/-! ### Conversions -/

namespace Measurement

variable {m : Measurement Float} {u v : Unit Float}

/-- A conversion fails with a division by zero exactly if one of its two ways does. -/
lemma yields_convert_or_fails (h : m.unit.isCompatible u = .ok true) :
    Yields (fun f => f.isMeasuring = true) (fun n => n.unit = u) (m.convert u) ∧
        ¬ ((∃ w ∈ m.unit.divisors, w.Vanishes) ∨ ∃ w ∈ u.divisors, w.IsHuge) ∨
      m.convert u = .error .zeroDivision ∧
        ((∃ w ∈ m.unit.divisors, w.Vanishes) ∨ ∃ w ∈ u.divisors, w.IsHuge) := by
  rw [convert, h, ok_bind, if_pos rfl, baseMagnitude]
  rcases isConversion_toBase.returns_or_fails m.unit m.magnitude with
    ⟨⟨x, hx⟩, hnone⟩ | ⟨herror, hsome⟩
  · rcases isConversion_fromBase.returns_or_fails u x with ⟨⟨y, hy⟩, hnone'⟩ | ⟨herror, hsome⟩
    · rw [hx, ok_bind, hy, ok_bind]
      have hyields : Yields (Fault.IsMeasuringOr False) _ _ := yields_ofMagnitude y u
      refine .inl ⟨hyields.mono ?_ fun _ => id, ?_⟩
      · rintro f (hf | ⟨⟨⟩, -⟩)
        exact hf
      · rintro (⟨w, hw, hvanishes⟩ | ⟨w, hw, hhuge⟩)
        · exact hnone w hw hvanishes
        · exact hnone' w hw hhuge
    · rw [hx, ok_bind, herror, error_bind]
      exact .inr ⟨rfl, .inr hsome⟩
  · rw [herror, error_bind]
    exact .inr ⟨rfl, .inl hsome⟩

/-- A unit that is named by a text is flat, and its components are simple. -/
lemma yields_convert_of_isFlat (hm : m.unit.IsBuiltIn) (hu : u.IsBuiltIn) (hmflat : m.unit.IsFlat)
    (huflat : u.IsFlat) (h : m.unit.isCompatible u = .ok true) :
    Yields (fun f => f.isMeasuring = true) (fun n => n.unit = u) (m.convert u) := by
  rcases yields_convert_or_fails h with ⟨hyields, -⟩ | ⟨-, hdivisor⟩
  · exact hyields
  · refine absurd hdivisor (not_or.mpr ⟨?_, ?_⟩)
    · exact Unit.not_vanishes_of_mem_divisors hm fun w hw => by
        rw [Unit.size_of_mem_divisors hmflat hw]
        decide
    · exact Unit.not_isHuge_of_mem_divisors hu fun w hw => by
        rw [Unit.size_of_mem_divisors huflat hw]
        decide

/-- Among compatible units a conversion returns a measurement in the target or fails with a fault of
measuring, and a conversion factor is returned, unless a factor that is divided by is zero: that of
a component behind `/`, on the way to the base unit from the source or on the way back to the
target, or for a conversion factor that of the target itself. No unit made of at most 85 simple ones
has such a factor. Between flat units, which are those that a text names, every conversion returns a
measurement or fails with a fault of measuring. -/
theorem conversions_divide_by_zero_iff (hm : m.unit.IsBuiltIn) (hu : u.IsBuiltIn)
    (hv : v.IsBuiltIn) (hmu : m.unit.isCompatible u = .ok true)
    (huv : u.isCompatible v = .ok true) :
    Yields (fun f => f.isMeasuring = true ∨ f = .zeroDivision) (fun n => n.unit = u)
        (m.convert u) ∧
      (m.convert u = .error .zeroDivision ↔
        (∃ w ∈ m.unit.divisors, w.Vanishes) ∨ ∃ w ∈ u.divisors, w.IsHuge) ∧
      ((∀ w ∈ m.unit.divisors ++ u.divisors, w.size ≤ 85) →
        m.convert u ≠ .error .zeroDivision) ∧
      Yields (fun f => f = .zeroDivision) (fun _ => True) (u.conversionFactor v) ∧
      (u.conversionFactor v = .error .zeroDivision ↔
        (∃ w ∈ u.divisors, w.Vanishes) ∨ (∃ w ∈ v.divisors, w.IsHuge) ∨ v.IsHuge) ∧
      ((∀ w ∈ u.divisors ++ v.divisors ++ [v], w.size ≤ 85) →
        u.conversionFactor v ≠ .error .zeroDivision) ∧
      (m.unit.IsFlat → u.IsFlat →
        Yields (fun f => f.isMeasuring = true) (fun n => n.unit = u) (m.convert u)) := by
  obtain ⟨hyields, hiff⟩ :=
    Yields.or_zeroDivision_iff (by rintro ⟨⟩) (yields_convert_or_fails hmu)
  obtain ⟨hyields', hiff'⟩ :=
    Yields.or_zeroDivision_iff id (Unit.yields_conversionFactor_or_fails huv)
  refine ⟨hyields, hiff, fun hsize => ?_, hyields'.mono (fun _ h => h.resolve_left id) fun _ => id,
    hiff', fun hsize => ?_, fun hmflat huflat => yields_convert_of_isFlat hm hu hmflat huflat hmu⟩
  · rw [Ne, hiff, not_or]
    rw [List.forall_mem_append] at hsize
    exact ⟨Unit.not_vanishes_of_mem_divisors hm hsize.1,
      Unit.not_isHuge_of_mem_divisors hu hsize.2⟩
  · rw [Ne, hiff', not_or, not_or]
    rw [List.forall_mem_append, List.forall_mem_append, List.forall_mem_singleton] at hsize
    exact ⟨Unit.not_vanishes_of_mem_divisors hu hsize.1.1,
      Unit.not_isHuge_of_mem_divisors hv hsize.1.2,
      isModerate_fromBase.not_hasZeroFactor hv hsize.2⟩

/-- 72 kilometers per hour in meters per second, and the conversion factor back. -/
theorem conversions_divide_by_zero_speed :
    ∃ (m : Measurement Float) (u v : Unit Float),
      m.magnitude = 72.0 ∧ m.unit = .per (.simple .kilometer) (.simple .hour) ∧
      u = .per (.simple .meter) (.simple .second) ∧ v = m.unit ∧
      m.unit.IsBuiltIn ∧ u.IsBuiltIn ∧ v.IsBuiltIn ∧
      m.unit.isCompatible u = .ok true ∧ u.isCompatible v = .ok true ∧
      m.convert u ≠ .error .zeroDivision ∧ ∃ f, u.conversionFactor v = .ok f := by
  have hv : (.per (.simple .kilometer) (.simple .hour) : Unit Float).IsBuiltIn := by
    simp [SimpleUnit.builtIn]
  have hu : (.per (.simple .meter) (.simple .second) : Unit Float).IsBuiltIn := by
    simp [SimpleUnit.builtIn]
  have hvu := (Unit.isCompatible_eq_ok_true_of_isBuiltIn hv hu).mpr ⟨rfl, rfl⟩
  have huv := (Unit.isCompatible_eq_ok_true_of_isBuiltIn hu hv).mpr ⟨rfl, rfl⟩
  have hsize : ∀ w ∈ Unit.divisors (.per (.simple .kilometer) (.simple .hour) : Unit Float),
      w.size ≤ 85 := by simp
  have hsize' : ∀ w ∈ Unit.divisors (.per (.simple .meter) (.simple .second) : Unit Float),
      w.size ≤ 85 := by simp
  have hfinite : (72.0 : Float).isFinite = true := by decide +kernel
  obtain ⟨-, -, hconvert, hyields, -, hfactor, -⟩ :=
    conversions_divide_by_zero_iff (m := ⟨72.0, _, hfinite⟩) hv hu hv hvu huv
  refine ⟨⟨72.0, _, hfinite⟩, _, _, rfl, rfl, rfl, rfl, hv, hu, hv, hvu, huv, hconvert ?_, ?_⟩
  · exact List.forall_mem_append.mpr ⟨hsize, hsize'⟩
  · rcases hf : Unit.conversionFactor _ _ with f | f
    · obtain rfl := hyields.fault f hf
      refine absurd hf (hfactor ?_)
      exact List.forall_mem_append.mpr ⟨List.forall_mem_append.mpr ⟨hsize', hsize⟩,
        List.forall_mem_singleton.mpr (by simp)⟩
    · exact ⟨f, rfl⟩

/-- A product of 110 kilometers is so large that a meter to the same power is zero in it. A
magnitude per such a product cannot be converted to it, and it is not even worth a factor of
itself. -/
theorem convert_eq_zeroDivision_of_power :
    ∃ (m : Measurement Float) (u v : Unit Float),
      m.magnitude = 1e-300 ∧
      m.unit = .per (.simple .second) (.compound (.power .meter 109)) ∧
      u = .per (.simple .second) (.compound (.power .kilometer 109)) ∧
      v = .compound (.power .kilometer 109) ∧
      m.unit.IsBuiltIn ∧ u.IsBuiltIn ∧ v.IsBuiltIn ∧
      m.unit.isCompatible u = .ok true ∧ v.isCompatible v = .ok true ∧
      m.convert u = .error .zeroDivision ∧ v.conversionFactor v = .error .zeroDivision := by
  have hbuiltIn (u : SimpleUnit Float) (hu : u ∈ SimpleUnit.builtIn) :
      (Unit.per (.simple .second) (.compound (.power u 109))).IsBuiltIn := by
    simp [SimpleUnit.builtIn, Compound.isBuiltIn_power hu]
  have hmeter : SimpleUnit.meter ∈ SimpleUnit.builtIn (α := Float) := by simp [SimpleUnit.builtIn]
  have hkilometer : SimpleUnit.kilometer ∈ SimpleUnit.builtIn (α := Float) := by
    simp [SimpleUnit.builtIn]
  have hroot : (Unit.per (.simple .second) (.compound (.power .meter 109)) : Unit Float).root =
      (Unit.per (.simple .second) (.compound (.power .kilometer 109))).root := by
    rw [Unit.root_per, Unit.root_per, Unit.root_compound, Unit.root_compound, Compound.root_power,
      Compound.root_power]
    rfl
  have hm := hbuiltIn .meter hmeter
  have hu := hbuiltIn .kilometer hkilometer
  have hv : (Unit.compound (.power .kilometer 109) : Unit Float).IsBuiltIn :=
    (Unit.isBuiltIn_compound _).mpr (Compound.isBuiltIn_power hkilometer)
  have hmu := (Unit.isCompatible_eq_ok_true_of_isBuiltIn hm hu).mpr ⟨rfl, by rw [hroot]⟩
  have hvv := (Unit.isCompatible_eq_ok_true_of_isBuiltIn hv hv).mpr ⟨rfl, rfl⟩
  have hhuge : (Unit.compound (.power .kilometer 109) : Unit Float).IsHuge := by
    have hproduct : (fun y : Float => y * (1.0 / 1000.0))^[109] (1.0 / 1000.0) = 0.0 := by
      decide +kernel
    refine ⟨_, isConversion_fromBase.power (u := .kilometer) (x := 1.0 / 1000.0) rfl 109, ?_⟩
    rw [hproduct]
    decide +kernel
  have hfinite : (1e-300 : Float).isFinite = true := by decide +kernel
  refine ⟨⟨1e-300, _, hfinite⟩, _, _, rfl, rfl, rfl, rfl, hm, hu, hv, hmu, hvv, ?_, ?_⟩
  · rcases yields_convert_or_fails (m := ⟨1e-300, _, hfinite⟩) hmu with ⟨-, hnone⟩ | ⟨herror, -⟩
    · refine absurd (.inr ⟨_, ?_, hhuge⟩) hnone
      simp
    · exact herror
  · rcases Unit.yields_conversionFactor_or_fails hvv with ⟨-, hnone⟩ | ⟨herror, -⟩
    · exact absurd (.inr (.inr hhuge)) hnone
    · exact herror

end Measurement

end Metrology
