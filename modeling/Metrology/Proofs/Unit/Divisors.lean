import Metrology.Proofs.Measurement.Range
import Metrology.Proofs.Unit.Faults

/-!
# Conversions that divide by zero

Magnitudes are converted to the base unit and back along the components of a unit. Either way, the
only division is by the factor of one component behind `/`, so a conversion fails exactly if such a
factor is zero. Factors of simple units are not, nor are those of units that are not too large; but
a product of many simple units can have a factor too small for a double.
-/

namespace Metrology

variable {α : Type}

/-! ### Components of a unit -/

mutual

/-- The components behind `/`, at any depth. -/
def Unit.divisors : Unit α → List (Unit α)
  | .simple _ => []
  | .compound c => c.divisors

/-- The components behind `/`, at any depth. -/
def Compound.divisors : Compound α → List (Unit α)
  | .single u => u.divisors
  | .snoc c .times u => c.divisors ++ u.divisors
  | .snoc c .per u => c.divisors ++ u.divisors ++ [u]

end

mutual

/-- How many simple units it is made of. -/
def Unit.size : Unit α → Nat
  | .simple _ => 1
  | .compound c => c.size

/-- How many simple units it is made of. -/
def Compound.size : Compound α → Nat
  | .single u => u.size
  | .snoc c _ u => c.size + u.size

end

@[simp] lemma Unit.size_simple (u : SimpleUnit α) : (Unit.simple u).size = 1 := by
  simp [Unit.size]

@[simp] lemma Unit.size_compound (c : Compound α) : (Unit.compound c).size = c.size := by
  simp [Unit.size]

@[simp] lemma Compound.size_single (u : Unit α) : (Compound.single u).size = u.size := by
  simp [Compound.size]

@[simp] lemma Compound.size_snoc (c : Compound α) (j : Join) (u : Unit α) :
    (c.snoc j u).size = c.size + u.size := by simp [Compound.size]

@[simp] lemma Unit.divisors_simple (u : SimpleUnit α) : (Unit.simple u).divisors = [] := by
  simp [Unit.divisors]

@[simp] lemma Unit.divisors_compound (c : Compound α) :
    (Unit.compound c).divisors = c.divisors := by simp [Unit.divisors]

@[simp] lemma Compound.divisors_single (u : Unit α) :
    (Compound.single u).divisors = u.divisors := by simp [Compound.divisors]

lemma Compound.mem_divisors_snoc {c : Compound α} {j : Join} {u v : Unit α} :
    v ∈ (c.snoc j u).divisors ↔ v ∈ c.divisors ∨ v ∈ u.divisors ∨ j = .per ∧ v = u := by
  cases j with
  | times => simp [divisors]
  | per => simp [divisors]

@[simp] lemma Unit.divisors_per (u v : Unit α) :
    (u.per v).divisors = u.divisors ++ v.divisors ++ [v] := by
  simp [Unit.per, Compound.divisors]

@[simp] lemma Unit.size_per (u v : Unit α) : (u.per v).size = u.size + v.size := by
  simp [Unit.per]

/-- The components of a flat unit are simple. -/
lemma Compound.size_of_mem_divisors {c : Compound α} {v : Unit α}
    (hc : ∀ u ∈ c.units, u.isCompound = false) (hv : v ∈ c.divisors) : v.size = 1 := by
  match c with
  | .single (.compound d) => cases hc (.compound d) (by simp)
  | .snoc c j (.compound d) => cases hc (.compound d) (by simp)
  | .single (.simple u) => simp at hv
  | .snoc c j (.simple u) =>
    rcases mem_divisors_snoc.mp hv with hv | hv | ⟨-, rfl⟩
    · exact size_of_mem_divisors (fun w hw => hc w (by simp [hw])) hv
    · simp at hv
    · exact Unit.size_simple u

lemma Unit.size_of_mem_divisors {u v : Unit α} (hu : u.IsFlat) (hv : v ∈ u.divisors) :
    v.size = 1 := by
  match u with
  | .simple u => simp at hv
  | .compound c =>
    rw [divisors_compound] at hv
    exact Compound.size_of_mem_divisors hu hv

section Conversion

variable [Magnitude α]

mutual

lemma Unit.isBuiltIn_of_mem_divisors {u v : Unit α} (hu : u.IsBuiltIn) (hv : v ∈ u.divisors) :
    v.IsBuiltIn := by
  match u with
  | .simple u => simp at hv
  | .compound c =>
    rw [Unit.isBuiltIn_compound] at hu
    rw [Unit.divisors_compound] at hv
    exact Compound.isBuiltIn_of_mem_divisors hu hv

lemma Compound.isBuiltIn_of_mem_divisors {c : Compound α} {v : Unit α} (hc : c.IsBuiltIn)
    (hv : v ∈ c.divisors) : v.IsBuiltIn := by
  match c with
  | .single u =>
    rw [Compound.isBuiltIn_single] at hc
    rw [Compound.divisors_single] at hv
    exact Unit.isBuiltIn_of_mem_divisors hc hv
  | .snoc c j u =>
    rw [Compound.isBuiltIn_snoc] at hc
    rcases Compound.mem_divisors_snoc.mp hv with hv | hv | ⟨-, rfl⟩
    · exact Compound.isBuiltIn_of_mem_divisors hc.1 hv
    · exact Unit.isBuiltIn_of_mem_divisors hc.2 hv
    · exact hc.2

end

/-! ### Conversions -/

/-- A conversion of magnitudes to base units or from them: the first component of a compound
converts the magnitude, and every further one contributes the factor of one unit of it. -/
structure IsConversion (conv : Unit α → α → Result α α) : Prop where
  simple : ∀ u x, ∃ y, conv (.simple u) x = .ok y
  single : ∀ u x, conv (.compound (.single u)) x = conv u x
  snoc : ∀ c j u x, conv (.compound (c.snoc j u)) x =
    conv (.compound c) x >>= fun y => conv u 1.0 >>= j.apply y

lemma isConversion_toBase : IsConversion (Unit.toBase (α := α)) where
  simple u x := ⟨u.toBase x, by rw [Unit.toBase]; rfl⟩
  single u x := by rw [Unit.toBase, Compound.toBase]
  snoc c j u x := by rw [Unit.toBase, Unit.toBase, Compound.toBase]

lemma isConversion_fromBase : IsConversion (Unit.fromBase (α := α)) where
  simple u x := ⟨u.fromBase x, by rw [Unit.fromBase]; rfl⟩
  single u x := by rw [Unit.fromBase, Compound.fromBase]
  snoc c j u x := by rw [Unit.fromBase, Unit.fromBase, Compound.fromBase]

/-- Is the factor of one unit zero? -/
def HasZeroFactor (conv : Unit α → α → Result α α) (u : Unit α) : Prop :=
  ∃ y, conv u 1.0 = .ok y ∧ (y == 0.0) = true

namespace IsConversion

variable {conv : Unit α → α → Result α α} (hconv : IsConversion conv)

include hconv

mutual

/-- A conversion fails exactly if the factor of a component behind `/` is zero. -/
lemma returns_or_fails (u : Unit α) (x : α) :
    (∃ y, conv u x = .ok y) ∧ (∀ v ∈ u.divisors, ¬ HasZeroFactor conv v) ∨
      conv u x = .error .zeroDivision ∧ ∃ v ∈ u.divisors, HasZeroFactor conv v := by
  match u with
  | .simple u => exact .inl ⟨hconv.simple u x, by simp⟩
  | .compound c =>
    rw [Unit.divisors_compound]
    exact compound_returns_or_fails c x

lemma compound_returns_or_fails (c : Compound α) (x : α) :
    (∃ y, conv (.compound c) x = .ok y) ∧ (∀ v ∈ c.divisors, ¬ HasZeroFactor conv v) ∨
      conv (.compound c) x = .error .zeroDivision ∧ ∃ v ∈ c.divisors, HasZeroFactor conv v := by
  match c with
  | .single u =>
    rw [Compound.divisors_single, hconv.single]
    exact returns_or_fails u x
  | .snoc c j u =>
    rw [hconv.snoc]
    simp only [Compound.mem_divisors_snoc]
    rcases compound_returns_or_fails c x with ⟨⟨y, hy⟩, hc⟩ | ⟨herror, v, hv, hzero⟩
    · rcases returns_or_fails u 1.0 with ⟨⟨z, hz⟩, hu⟩ | ⟨herror, v, hv, hzero⟩
      · rw [hy, ok_bind, hz, ok_bind]
        by_cases hfactor : j = .per ∧ (z == 0.0) = true
        · obtain ⟨rfl, hzero⟩ := hfactor
          rw [Join.apply, divide, if_pos hzero]
          exact .inr ⟨rfl, u, .inr (.inr ⟨rfl, rfl⟩), z, hz, hzero⟩
        · refine .inl ⟨?_, ?_⟩
          · cases j with
            | times => exact ⟨_, rfl⟩
            | per =>
              rw [Join.apply, divide, if_neg fun hzero => hfactor ⟨rfl, hzero⟩]
              exact ⟨_, rfl⟩
          · rintro v (hv | hv | ⟨hj, rfl⟩)
            · exact hc v hv
            · exact hu v hv
            · rintro ⟨z', hz', hzero⟩
              obtain rfl : z = z' := Except.ok.inj (hz.symm.trans hz')
              exact hfactor ⟨hj, hzero⟩
      · rw [hy, ok_bind, herror, error_bind]
        exact .inr ⟨rfl, v, .inr (.inl hv), hzero⟩
    · rw [herror, error_bind]
      exact .inr ⟨rfl, v, .inl hv, hzero⟩

end

/-- Further copies of a component multiply the magnitude by its factor again and again. -/
lemma append_replicate {c : Compound α} {u : Unit α} {x y z : α} (hu : conv u 1.0 = .ok z)
    (hc : conv (.compound c) x = .ok y) (n : Nat) :
    conv (.compound (c.append (List.replicate n (.times, u)))) x =
      .ok ((fun w => w * z)^[n] y) := by
  induction n generalizing c y with
  | zero => exact hc
  | succ n ih =>
    rw [Compound.append_replicate_succ, Function.iterate_succ_apply]
    refine ih ?_
    rw [hconv.snoc, hc, ok_bind, hu, ok_bind]
    rfl

end IsConversion

end Conversion

/-! ### Factors of ordinary size -/

open Binary64

lemma within_one : Within 0 0 1.0 := within_ofScientific (by norm_num) (by norm_num) (by decide)

/-- The conversion has factors for simple units that are neither large nor small. -/
structure IsModerate (conv : Unit Float → Float → Result Float Float) : Prop
    extends IsConversion conv where
  within : ∀ u ∈ SimpleUnit.builtIn, ∃ y, conv (.simple u) 1.0 = .ok y ∧ Within (-12) 12 y

lemma isModerate_toBase : IsModerate Unit.toBase where
  toIsConversion := isConversion_toBase
  within u hu := by
    refine ⟨1.0 * u.scale, by rw [Unit.toBase]; rfl, ?_⟩
    exact (within_one.mul (SimpleUnit.within_scale hu) (by decide)).mono (by decide) (by decide)

lemma isModerate_fromBase : IsModerate Unit.fromBase where
  toIsConversion := isConversion_fromBase
  within u hu := by
    refine ⟨1.0 / u.scale, by rw [Unit.fromBase]; rfl, ?_⟩
    exact (within_one.div (SimpleUnit.within_scale hu) (by decide)).mono (by decide) (by decide)

namespace IsModerate

variable {conv : Unit Float → Float → Result Float Float} (hconv : IsModerate conv)

include hconv

mutual

/-- Every simple unit contributes a factor that is neither large nor small. -/
lemma within_factor {u : Unit Float} (hu : u.IsBuiltIn) (hsize : u.size ≤ 85) :
    ∃ y, conv u 1.0 = .ok y ∧ Within (-12 * u.size) (12 * u.size) y := by
  match u with
  | .simple u =>
    rw [Unit.isBuiltIn_simple] at hu
    exact hconv.within u hu
  | .compound c =>
    rw [Unit.isBuiltIn_compound] at hu
    rw [Unit.size_compound] at hsize ⊢
    exact compound_within_factor hu hsize

lemma compound_within_factor {c : Compound Float} (hc : c.IsBuiltIn) (hsize : c.size ≤ 85) :
    ∃ y, conv (.compound c) 1.0 = .ok y ∧ Within (-12 * c.size) (12 * c.size) y := by
  match c with
  | .single u =>
    rw [Compound.isBuiltIn_single] at hc
    rw [Compound.size_single] at hsize ⊢
    rw [hconv.single]
    exact within_factor hc hsize
  | .snoc c j u =>
    rw [Compound.isBuiltIn_snoc] at hc
    rw [Compound.size_snoc] at hsize ⊢
    obtain ⟨y, hy, hwithin⟩ := compound_within_factor hc.1 (by omega)
    obtain ⟨z, hz, hwithin'⟩ := within_factor hc.2 (by omega)
    rw [hconv.snoc, hy, ok_bind, hz, ok_bind, Nat.cast_add]
    cases j with
    | times => exact ⟨y * z, rfl, (hwithin.mul hwithin' (by omega)).mono (by omega) (by omega)⟩
    | per =>
      rw [Join.apply, divide, if_neg (by simp [hwithin'.beq_zero])]
      exact ⟨y / z, rfl, (hwithin.div hwithin' (by omega)).mono (by omega) (by omega)⟩

end

lemma not_hasZeroFactor {u : Unit Float} (hu : u.IsBuiltIn) (hsize : u.size ≤ 85) :
    ¬ HasZeroFactor conv u := by
  obtain ⟨y, hy, hwithin⟩ := hconv.within_factor hu hsize
  rintro ⟨z, hz, hzero⟩
  obtain rfl : y = z := Except.ok.inj (hy.symm.trans hz)
  rw [hwithin.beq_zero] at hzero
  cases hzero

end IsModerate

/-! ### Powers -/

namespace Compound

/-- A simple unit, multiplied by itself so many times. -/
def power (u : SimpleUnit α) (n : Nat) : Compound α :=
  (single (.simple u)).append (List.replicate n (.times, .simple u))

lemma root_append_replicate [Magnitude α] (c : Compound α) (j : Join) (u : Unit α) (n : Nat) :
    (c.append (List.replicate n (j, u))).root = c.root.append (List.replicate n (j, u.root)) := by
  induction n generalizing c with
  | zero => rfl
  | succ n ih =>
    rw [append_replicate_succ, ih, root_snoc]
    rfl

variable {u : SimpleUnit α} {n : Nat}

lemma eq_of_mem_units_power {v : Unit α} (h : v ∈ (power u n).units) : v = .simple u := by
  rw [power, units_append, List.map_replicate, units_single, List.mem_append] at h
  exact h.elim List.mem_singleton.mp List.eq_of_mem_replicate

variable [Magnitude α]

lemma isBuiltIn_power (hu : u ∈ SimpleUnit.builtIn) : (power u n).IsBuiltIn := by
  refine isBuiltIn_of_units fun v hv => ?_
  rw [eq_of_mem_units_power hv, Unit.isBuiltIn_simple]
  exact hu

lemma root_power (u : SimpleUnit α) (n : Nat) : (power u n).root = power u.root n := by
  rw [power, root_append_replicate, root_single, Unit.root_simple]
  rfl

end Compound

/-- The factor of a simple unit is multiplied by itself. -/
lemma IsConversion.power [Magnitude α] {conv : Unit α → α → Result α α} (hconv : IsConversion conv)
    {u : SimpleUnit α} {x : α} (hu : conv (.simple u) 1.0 = .ok x) (n : Nat) :
    conv (.compound (.power u n)) 1.0 = .ok ((fun y => y * x)^[n] x) :=
  hconv.append_replicate hu ((hconv.single _ _).trans hu) n

end Metrology
