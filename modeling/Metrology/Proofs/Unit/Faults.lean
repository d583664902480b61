import Mathlib.Logic.Function.Iterate
import Metrology.Proofs.Fault
import Metrology.Proofs.Unit.NormalForm
import Metrology.Proofs.Unit.Reading

/-!
# What can go wrong with units

A name that cannot be read is a fault of measuring. On the way to the base unit a magnitude can
become infinite, and the factor of a component can become zero: the product of many small factors
is too small for a double. Only where such a component is divided by is that a fault of its own.
-/

namespace Metrology

variable {α : Type} [Magnitude α]

/-! ### Names -/

namespace Compound

lemma yields_readComponent (text : String) (name : List Char) :
    Yields (fun f => ∃ why, f = .unreadable text why) (fun _ => True)
      (readComponent text name : Result α (Unit α)) := by
  unfold readComponent
  split
  · exact yields_ok.mpr trivial
  · exact yields_error.mpr ⟨_, rfl⟩

lemma yields_readRest (text : String) (c : Compound α) (token : Nat) (ts : List NameToken) :
    Yields (fun f => ∃ why, f = .unreadable text why) (fun _ => True)
      (readRest text c token ts) := by
  match ts with
  | [] => exact yields_ok.mpr trivial
  | .name s :: r => exact yields_error.mpr ⟨_, rfl⟩
  | [.sign j] => exact yields_error.mpr ⟨_, rfl⟩
  | .sign j :: .sign k :: r => exact yields_error.mpr ⟨_, rfl⟩
  | .sign j :: .name s :: r =>
    rw [readRest]
    exact (yields_readComponent text s).bind fun u _ _ => yields_readRest text _ _ r

/-- A name of a compound is unreadable as a whole. -/
lemma yields_read (text : String) :
    Yields (fun f => ∃ why, f = .unreadable text why) (fun _ => True)
      (read text : Result α (Compound α)) := by
  unfold read
  split
  · exact yields_error.mpr ⟨_, rfl⟩
  · exact yields_error.mpr ⟨_, rfl⟩
  · exact (yields_readComponent text _).bind fun u _ _ => yields_readRest text _ _ _

end Compound

lemma Unit.yields_read (name : String) :
    Yields (fun f => f = .unknownUnit (Text.strip name) ∨
      ∃ why, f = .unreadable (Text.strip name) why) (fun _ => True)
      (read name : Result α (Unit α)) := by
  unfold read
  dsimp only
  split
  · exact ((Compound.yields_read _).mono (fun _ h => .inr h) fun _ h => h).bind fun c _ _ =>
      yields_ok.mpr trivial
  · unfold SimpleUnit.resolve
    split
    · exact yields_ok.mpr trivial
    · exact yields_error.mpr (.inl rfl)

/-! ### Factors that vanish -/

/-- Is one unit of it zero in the base unit? -/
def Unit.Vanishes (u : Unit α) : Prop := ∃ y, u.toBase 1.0 = .ok y ∧ (y == 0.0) = true

mutual

/-- Does no component that is divided by vanish, at any depth? -/
def Unit.IsProper : Unit α → Prop
  | .simple _ => True
  | .compound c => c.IsProper

/-- Does no component that is divided by vanish, at any depth? -/
def Compound.IsProper : Compound α → Prop
  | .single u => u.IsProper
  | .snoc c j u => c.IsProper ∧ u.IsProper ∧ (j = .per → ¬ u.Vanishes)

end

@[simp] lemma Unit.isProper_simple (u : SimpleUnit α) : (Unit.simple u).IsProper := by
  simp [Unit.IsProper]

@[simp] lemma Unit.isProper_compound (c : Compound α) :
    (Unit.compound c).IsProper ↔ c.IsProper := by simp [Unit.IsProper]

@[simp] lemma Compound.isProper_single (u : Unit α) :
    (Compound.single u).IsProper ↔ u.IsProper := by simp [Compound.IsProper]

@[simp] lemma Compound.isProper_snoc (c : Compound α) (j : Join) (u : Unit α) :
    (c.snoc j u).IsProper ↔ c.IsProper ∧ u.IsProper ∧ (j = .per → ¬ u.Vanishes) := by
  simp [Compound.IsProper]

lemma Unit.isProper_join {u v : Unit α} {j : Join} (hu : u.IsProper) (hv : v.IsProper)
    (hj : j = .per → ¬ v.Vanishes) : (u.join j v).IsProper := by
  cases u with
  | simple u => simpa [Unit.join] using ⟨hv, hj⟩
  | compound c => simpa [Unit.join] using ⟨(Unit.isProper_compound c).mp hu, hv, hj⟩

/-! ### Base form -/

lemma Measurement.yields_ofMagnitude {reason : Prop} (x : α) (u : Unit α) :
    Yields (Fault.IsMeasuringOr reason) (fun m => m.unit = u) (ofMagnitude x u) := by
  unfold ofMagnitude
  split
  · next m hm => exact yields_ok.mpr (ofMagnitude?_eq_some_iff.mp hm).2
  · exact yields_error.mpr (.inl rfl)

mutual

/-- The base form of a built-in unit fails with a magnitude that is not finite, or, unless the unit
is proper, with a division by zero. -/
lemma Unit.yields_measureInBase {reason : Prop} {u : Unit α} (hu : u.IsBuiltIn)
    (hp : reason ∨ u.IsProper) (x : α) :
    Yields (Fault.IsMeasuringOr reason) (fun b => b.unit = u.root) (u.measureInBase x) := by
  match u with
  | .simple u =>
    rw [Unit.isBuiltIn_simple] at hu
    rw [Unit.measureInBase, (SimpleUnit.root_of_mem_builtIn hu).1, ok_bind, Unit.root_simple]
    exact Measurement.yields_ofMagnitude _ _
  | .compound c =>
    rw [Unit.isBuiltIn_compound] at hu
    rw [Unit.isProper_compound] at hp
    rw [Unit.measureInBase, Compound.base_eq_root hu, Unit.root_compound]
    exact (Compound.yields_measureInBase hu hp x).bind fun y _ _ =>
      Measurement.yields_ofMagnitude _ _

lemma Compound.yields_measureInBase {reason : Prop} {c : Compound α} (hc : c.IsBuiltIn)
    (hp : reason ∨ c.IsProper) (x : α) :
    Yields (Fault.IsMeasuringOr reason) (fun _ => True) (c.measureInBase x) := by
  match c with
  | .single u =>
    rw [Compound.isBuiltIn_single] at hc
    rw [Compound.isProper_single] at hp
    rw [Compound.measureInBase]
    exact (Unit.yields_measureInBase hc hp x).bind fun b _ _ => yields_ok.mpr trivial
  | .snoc c j u =>
    rw [Compound.isBuiltIn_snoc] at hc
    rw [Compound.isProper_snoc] at hp
    rw [Compound.measureInBase]
    refine (Compound.yields_measureInBase hc.1 (hp.imp_right And.left) x).bind fun y _ _ => ?_
    refine (Unit.yields_measureInBase hc.2 (hp.imp_right fun h => h.2.1) 1.0).bind fun b hb _ => ?_
    cases j with
    | times => exact yields_ok.mpr trivial
    | per =>
      rw [Join.apply, divide]
      split
      · next h0 =>
        rcases hp with hreason | hproper
        · exact yields_error.mpr (.inr ⟨hreason, rfl⟩)
        · exact absurd ⟨_, (Unit.base_and_toBase_of_measureInBase hb).2, h0⟩ (hproper.2.2 rfl)
      · exact yields_ok.mpr trivial

end

mutual

/-- The base magnitude may well be infinite. -/
lemma Unit.yields_toBase {reason : Prop} {u : Unit α} (hp : reason ∨ u.IsProper) (x : α) :
    Yields (fun f => reason ∧ f = .zeroDivision) (fun _ => True) (u.toBase x) := by
  match u with
  | .simple u => exact yields_ok.mpr trivial
  | .compound c =>
    rw [Unit.isProper_compound] at hp
    rw [Unit.toBase]
    exact Compound.yields_toBase hp x

lemma Compound.yields_toBase {reason : Prop} {c : Compound α} (hp : reason ∨ c.IsProper) (x : α) :
    Yields (fun f => reason ∧ f = .zeroDivision) (fun _ => True) (c.toBase x) := by
  match c with
  | .single u =>
    rw [Compound.isProper_single] at hp
    rw [Compound.toBase]
    exact Unit.yields_toBase hp x
  | .snoc c j u =>
    rw [Compound.isProper_snoc] at hp
    rw [Compound.toBase]
    refine (Compound.yields_toBase (hp.imp_right And.left) x).bind fun y _ _ => ?_
    refine (Unit.yields_toBase (hp.imp_right fun h => h.2.1) 1.0).bind fun z hz _ => ?_
    cases j with
    | times => exact yields_ok.mpr trivial
    | per =>
      rw [Join.apply, divide]
      split
      · next h0 =>
        rcases hp with hreason | hproper
        · exact yields_error.mpr ⟨hreason, rfl⟩
        · exact absurd ⟨z, hz, h0⟩ (hproper.2.2 rfl)
      · exact yields_ok.mpr trivial

end

lemma Join.yields_apply (j : Join) (x y : α) :
    Yields (fun f => f = .zeroDivision) (fun _ => True) (j.apply x y) := by
  cases j with
  | times => exact yields_ok.mpr trivial
  | per =>
    rw [apply, divide]
    split
    · exact yields_error.mpr rfl
    · exact yields_ok.mpr trivial

mutual

/-- On the way back from the base unit only a factor that is zero is a fault. -/
lemma Unit.yields_fromBase (u : Unit α) (x : α) :
    Yields (fun f => f = .zeroDivision) (fun _ => True) (u.fromBase x) := by
  match u with
  | .simple u =>
    rw [Unit.fromBase]
    exact yields_ok.mpr trivial
  | .compound c =>
    rw [Unit.fromBase]
    exact Compound.yields_fromBase c x

lemma Compound.yields_fromBase (c : Compound α) (x : α) :
    Yields (fun f => f = .zeroDivision) (fun _ => True) (c.fromBase x) := by
  match c with
  | .single u =>
    rw [Compound.fromBase]
    exact Unit.yields_fromBase u x
  | .snoc c j u =>
    rw [Compound.fromBase]
    refine (Compound.yields_fromBase c x).bind fun y _ _ => ?_
    exact (Unit.yields_fromBase u 1.0).bind fun z _ _ => Join.yields_apply j y z

end

/-! ### Units in lines -/

lemma SimpleUnit.toBase_one_ne_zero {u : SimpleUnit Float} (hu : u ∈ builtIn) :
    (u.toBase 1.0 == 0.0) = false := by
  have hs : (builtIn (α := Float)).map scale =
      [0.001, 0.01, 1.0, 1000.0, 0.001, 0.01, 1.0, 1000.0, 1.0, 60.0, 3600.0, 0.001, 0.01, 1.0,
        1000.0] := rfl
  have hne : ∀ x ∈ (builtIn (α := Float)).map scale, ((1.0 : Float) * x == 0.0) = false := by
    rw [hs]
    decide +kernel
  exact hne u.scale (List.mem_map_of_mem hu)

lemma Unit.not_vanishes_simple {u : SimpleUnit Float} (hu : u ∈ SimpleUnit.builtIn) :
    ¬ (Unit.simple u).Vanishes := by
  rintro ⟨y, hy, h0⟩
  obtain rfl : u.toBase 1.0 = y := by simpa [Unit.toBase] using hy
  rw [SimpleUnit.toBase_one_ne_zero hu] at h0
  cases h0

lemma Compound.isProper_of_isFlat {c : Compound Float} (hc : c.IsBuiltIn)
    (hflat : ∀ u ∈ c.units, u.isCompound = false) : c.IsProper := by
  match c with
  | .single (.compound d) => cases hflat (.compound d) (by simp)
  | .snoc c j (.compound d) => cases hflat (.compound d) (by simp)
  | .single (.simple u) => simp
  | .snoc c j (.simple v) =>
    obtain ⟨hcb, hv⟩ : c.IsBuiltIn ∧ v ∈ SimpleUnit.builtIn := by simpa using hc
    rw [isProper_snoc]
    exact ⟨isProper_of_isFlat hcb fun u hu => hflat u (by simp [hu]), Unit.isProper_simple v,
      fun _ => Unit.not_vanishes_simple hv⟩

/-- No factor of a simple unit is so small that it vanishes. -/
lemma Unit.isProper_of_isFlat {u : Unit Float} (hu : u.IsBuiltIn) (hflat : u.IsFlat) :
    u.IsProper := by
  match u with
  | .simple u => simp
  | .compound c =>
    rw [isBuiltIn_compound] at hu
    rw [isProper_compound]
    exact Compound.isProper_of_isFlat hu hflat

/-! ### Base units -/

lemma Unit.not_vanishes_root {u : Unit Float} (hu : u.IsBuiltIn) : ¬ u.root.Vanishes := by
  have hb := measureInBase_root hu Binary64.isFinite_one
  have hne : ((1.0 : Float) == 0.0) = false := by decide +kernel
  rintro ⟨y, hy, h0⟩
  rw [(base_and_toBase_of_measureInBase hb).2] at hy
  cases hy
  rw [hne] at h0
  cases h0

mutual

lemma Unit.isProper_root {u : Unit Float} (hu : u.IsBuiltIn) : u.root.IsProper := by
  match u with
  | .simple u => simp
  | .compound c =>
    rw [Unit.isBuiltIn_compound] at hu
    simp [Compound.isProper_root hu]

lemma Compound.isProper_root {c : Compound Float} (hc : c.IsBuiltIn) : c.root.IsProper := by
  match c with
  | .single u =>
    rw [Compound.isBuiltIn_single] at hc
    simp [Unit.isProper_root hc]
  | .snoc c j u =>
    rw [Compound.isBuiltIn_snoc] at hc
    rw [Compound.root_snoc, Compound.isProper_snoc]
    exact ⟨Compound.isProper_root hc.1, Unit.isProper_root hc.2,
      fun _ => Unit.not_vanishes_root hc.2⟩

end

/-! ### A unit that vanishes -/

namespace Compound

/-- Further copies of a component multiply the magnitude by its factor again and again. -/
lemma measureInBase_append_replicate {c : Compound α} {u : Unit α} {x y : α}
    {b : Measurement α} (hu : u.measureInBase 1.0 = .ok b) (hc : c.measureInBase x = .ok y)
    (n : Nat) :
    (c.append (List.replicate n (.times, u))).measureInBase x =
      .ok ((fun z => z * b.magnitude)^[n] y) := by
  induction n generalizing c y with
  | zero => exact hc
  | succ n ih =>
    rw [append_replicate_succ, Function.iterate_succ_apply]
    refine ih ?_
    rw [measureInBase, hc, ok_bind, hu, ok_bind]
    rfl

/-- A product of 110 milligrams. -/
def tiny : Compound Float :=
  (single (.simple .milligram)).append (List.replicate 109 (.times, .simple .milligram))

lemma units_tiny : tiny.units =
    .simple .milligram :: .simple .milligram :: List.replicate 108 (.simple .milligram) := by
  rw [tiny, units_append, List.map_replicate]
  rfl

lemma eq_of_mem_units_tiny {u : Unit Float} (h : u ∈ tiny.units) : u = .simple .milligram := by
  have hunits : tiny.units = List.replicate 110 (.simple .milligram) := units_tiny
  rw [hunits] at h
  exact List.eq_of_mem_replicate h

lemma isBuiltIn_tiny : tiny.IsBuiltIn := by
  refine isBuiltIn_of_units fun u hu => ?_
  rw [eq_of_mem_units_tiny hu]
  simp [SimpleUnit.builtIn]

lemma isCompound_of_mem_units_tiny {u : Unit Float} (h : u ∈ tiny.units) :
    u.isCompound = false := by
  rw [eq_of_mem_units_tiny h]
  rfl

/-- The factor of 110 milligrams is below the smallest double. -/
lemma measureInBase_tiny :
    ∃ b, (Unit.compound tiny).measureInBase 1.0 = .ok b ∧ (b.magnitude == 0.0) = true := by
  have hfinite : (0.001 : Float).isFinite = true := by decide +kernel
  have hzero : (0.0 : Float).isFinite = true := by decide +kernel
  have hone : (1.0 : Float) * 0.001 = 0.001 := by decide +kernel
  have hmg : (Unit.simple .milligram).measureInBase 1.0 =
      .ok (⟨0.001, .simple .gram, hfinite⟩ : Measurement Float) := by
    change Measurement.ofMagnitude ((1.0 : Float) * 0.001) (.simple .gram) = _
    rw [hone]
    exact Measurement.ofMagnitude_eq_ok.mpr ⟨rfl, rfl⟩
  have hfirst : (single (.simple .milligram)).measureInBase 1.0 = .ok (0.001 : Float) := by
    rw [measureInBase, hmg]
    rfl
  have hproduct : (fun z : Float => z * 0.001)^[109] 0.001 = 0.0 := by decide +kernel
  have htiny : tiny.measureInBase 1.0 = .ok 0.0 := by
    rw [tiny, measureInBase_append_replicate hmg hfirst, hproduct]
  have hbeq : ((0.0 : Float) == 0.0) = true := by decide +kernel
  refine ⟨⟨0.0, .compound tiny.root, hzero⟩, ?_, hbeq⟩
  rw [Unit.measureInBase, htiny, ok_bind, base_eq_root isBuiltIn_tiny, ok_bind]
  exact Measurement.ofMagnitude_eq_ok.mpr ⟨rfl, rfl⟩

end Compound

end Metrology
