import Metrology.Proofs.Binary64.Range
import Metrology.Proofs.Expression.Grammar
import Metrology.Proofs.Measurement.Operations
import Metrology.Proofs.Unit.BuiltIn

/-!
# Operations on measurements of ordinary size

Magnitudes in built-in simple units are converted by factors between `2 ^ -10` and `2 ^ 12`. So an
operation whose operands are not too large has a result, unless it adds or subtracts two dimensions,
and this is how large the result is at most.
-/

namespace Metrology

open Binary64

variable {d : Dimension} {k : ℤ}

/-- The unit is a built-in simple unit of the dimension. -/
def Unit.IsSimpleOf (u : Unit Float) (d : Dimension) : Prop :=
  ∃ v ∈ SimpleUnit.builtIn, u = .simple v ∧ v.dimension = d

lemma Unit.IsSimpleOf.dimension_eq {u : Unit Float} (hu : u.IsSimpleOf d) : u.dimension = d := by
  obtain ⟨v, -, rfl, rfl⟩ := hu
  rfl

lemma Unit.IsSimpleOf.ne_compound {u : Unit Float} (hu : u.IsSimpleOf d) : d ≠ .compound := by
  obtain ⟨v, hv, -, rfl⟩ := hu
  exact SimpleUnit.dimension_ne_compound hv

lemma Unit.isSimpleOf_root {u : Unit Float} (hu : u.IsSimpleOf d) :
    (Unit.simple (.ofDimension d)).IsSimpleOf d := by
  obtain ⟨v, hv, rfl, rfl⟩ := hu
  rw [← SimpleUnit.root_eq_ofDimension hv]
  exact ⟨v.root, SimpleUnit.root_mem_builtIn hv, rfl, (SimpleUnit.root_of_mem_builtIn hv).2.2.2⟩

lemma Unit.dimension_join (u v : Unit Float) (j : Join) : (u.join j v).dimension = .compound := by
  cases u <;> rfl

lemma SimpleUnit.map_scale_builtIn : (builtIn (α := Float)).map scale =
    [0.001, 0.01, 1.0, 1000.0] ++ [0.001, 0.01, 1.0, 1000.0] ++ [1.0, 60.0, 3600.0] ++
      [0.001, 0.01, 1.0, 1000.0] := rfl

lemma SimpleUnit.within_scale {u : SimpleUnit Float} (hu : u ∈ builtIn) :
    Within (-10) 12 u.scale := by
  have hmetric : ∀ x ∈ ([0.001, 0.01, 1.0, 1000.0] : List Float), Within (-10) 12 x := by
    simp only [List.forall_mem_cons, List.not_mem_nil, false_imp_iff, implies_true, and_true]
    refine ⟨?_, ?_, ?_, ?_⟩
    all_goals exact within_ofScientific (by norm_num) (by norm_num) (by decide)
  have htime : ∀ x ∈ ([1.0, 60.0, 3600.0] : List Float), Within (-10) 12 x := by
    simp only [List.forall_mem_cons, List.not_mem_nil, false_imp_iff, implies_true, and_true]
    refine ⟨?_, ?_, ?_⟩
    all_goals exact within_ofScientific (by norm_num) (by norm_num) (by decide)
  have hscales : ∀ x ∈ builtIn.map scale, Within (-10) 12 x := by
    rw [map_scale_builtIn]
    simp only [List.forall_mem_append]
    exact ⟨⟨⟨hmetric, hmetric⟩, htime⟩, hmetric⟩
  exact hscales u.scale (List.mem_map_of_mem hu)

/-- Two units do not fit together. -/
def Fault.IsIncompatible (f : Fault Float) : Prop :=
  ∃ left right why, f = .incompatible left right why

namespace Measurement

/-- The unit is a built-in simple one, and the magnitude a number from one to `2 ^ 10`. -/
structure IsOrdinary (m : Measurement Float) : Prop where
  unit : m.unit.IsSimpleOf m.unit.dimension
  magnitude : Within 0 10 m.magnitude

variable {a b m : Measurement Float}

/-! ### Base form -/

/-- The base form multiplies the magnitude by a factor of ordinary size. -/
lemma exists_inBase (hm : m.unit.IsSimpleOf d) (hx : AtMost k m.magnitude)
    (hk : -1062 ≤ k ∧ k ≤ 1011) :
    ∃ c s, m.inBase = .ok c ∧ c.unit = .simple (.ofDimension d) ∧ c.magnitude = m.magnitude * s ∧
      Within (-10) 12 s := by
  obtain ⟨u, hu, hunit, rfl⟩ := hm
  have hscale := SimpleUnit.within_scale hu
  have hfinite := (hx.mul hscale.toAtMost (by omega)).isFinite
  refine ⟨⟨m.magnitude * u.scale, .simple (.ofDimension u.dimension), hfinite⟩, u.scale, ?_, rfl,
    rfl, hscale⟩
  rw [inBase, hunit, Unit.measureInBase, (SimpleUnit.root_of_mem_builtIn hu).1, ok_bind,
    SimpleUnit.root_eq_ofDimension hu]
  exact ofMagnitude_eq_ok.mpr ⟨rfl, rfl⟩

/-- Operands of one dimension have a base unit in common. -/
lemma exists_inCommonBase (ha : a.unit.IsSimpleOf d) (hb : b.unit.IsSimpleOf d)
    (hx : AtMost k a.magnitude) (hy : AtMost k b.magnitude) (hk : -1062 ≤ k ∧ k ≤ 1011) :
    ∃ x y s t, a.inCommonBase b = .ok (x, y) ∧ x.unit = .simple (.ofDimension d) ∧
      x.magnitude = a.magnitude * s ∧ y.magnitude = b.magnitude * t ∧
        Within (-10) 12 s ∧ Within (-10) 12 t := by
  obtain ⟨x, s, hxbase, hxunit, hxs, hs⟩ := exists_inBase ha hx hk
  obtain ⟨y, t, hybase, hyunit, hyt, ht⟩ := exists_inBase hb hy hk
  refine ⟨x, y, s, t, inCommonBase_eq_ok.mpr ⟨?_, hxbase, hybase, ?_⟩, hxunit, hxs, hyt, hs, ht⟩
  · rw [ha.dimension_eq, hb.dimension_eq]
  · rw [hxunit, hyunit]

/-! ### Operations -/

/-- Measurements of one dimension have a sum and a difference. -/
lemma exists_apply_of_isAdditive {op : Operator} (hop : op.isAdditive = true)
    (ha : a.unit.IsSimpleOf d) (hb : b.unit.IsSimpleOf d) (hx : AtMost k a.magnitude)
    (hy : AtMost k b.magnitude) (hk : -1062 ≤ k ∧ k ≤ 1010) :
    ∃ c, op.apply a b = .ok c ∧ c.unit = .simple (.ofDimension d) ∧
      AtMost (k + 13) c.magnitude := by
  obtain ⟨x, y, s, t, hbase, hunit, hxs, hyt, hs, ht⟩ :=
    exists_inCommonBase ha hb hx hy (by omega)
  have hx' : AtMost (k + 12) x.magnitude := hxs ▸ hx.mul hs.toAtMost (by omega)
  have hy' : AtMost (k + 12) y.magnitude := hyt ▸ hy.mul ht.toAtMost (by omega)
  cases op with
  | add =>
    have hsum : AtMost (k + 12 + 1) (x.magnitude + y.magnitude) := hx'.add hy' (by omega)
    refine ⟨⟨x.magnitude + y.magnitude, x.unit, hsum.isFinite⟩, ?_, hunit, ?_⟩
    · exact add_eq_ok.mpr ⟨x, y, hbase, rfl, rfl⟩
    · rwa [add_assoc] at hsum
  | sub =>
    have hdiff : AtMost (k + 12 + 1) (x.magnitude - y.magnitude) := hx'.sub hy' (by omega)
    refine ⟨⟨x.magnitude - y.magnitude, x.unit, hdiff.isFinite⟩, ?_, hunit, ?_⟩
    · exact sub_eq_ok.mpr ⟨x, y, hbase, rfl, rfl⟩
    · rwa [add_assoc] at hdiff
  | mul => cases hop
  | div => cases hop

/-- Ordinary measurements of one dimension have a product and a quotient in its base unit. -/
lemma exists_apply_of_not_isAdditive {op : Operator} (hop : op.isAdditive = false)
    (ha : a.IsOrdinary) (hb : b.IsOrdinary) (hd : a.unit.dimension = b.unit.dimension) :
    ∃ c, op.apply a b = .ok c ∧ c.unit = .simple (.ofDimension a.unit.dimension) ∧
      AtMost 44 c.magnitude := by
  obtain ⟨x, y, s, t, hbase, hunit, hxs, hyt, hs, ht⟩ := exists_inCommonBase ha.unit
    (hd ▸ hb.unit) ha.magnitude.toAtMost hb.magnitude.toAtMost (by decide)
  have hx : Within (0 + -10) (10 + 12) x.magnitude := hxs ▸ ha.magnitude.mul hs (by decide)
  have hy : Within (0 + -10) (10 + 12) y.magnitude := hyt ▸ hb.magnitude.mul ht (by decide)
  cases op with
  | add => cases hop
  | sub => cases hop
  | mul =>
    have hproduct := hx.toAtMost.mul hy.toAtMost (by decide)
    refine ⟨⟨x.magnitude * y.magnitude, x.unit, hproduct.isFinite⟩, ?_, hunit, hproduct⟩
    exact (mul_eq_ok_of_eq hd).mpr ⟨x, y, hbase, rfl, rfl⟩
  | div =>
    have hquotient := hx.toAtMost.div hy (by decide)
    refine ⟨⟨x.magnitude / y.magnitude, x.unit, hquotient.isFinite⟩, ?_, hunit,
      hquotient.mono (by decide)⟩
    exact (div_eq_ok_of_eq hd).mpr ⟨hb.magnitude.beq_zero, x, y, hbase, hy.beq_zero, rfl, rfl⟩

/-- A measurement and an ordinary one of another dimension have a product and a quotient in a
compound unit. -/
lemma exists_apply_of_ne {op : Operator} (hop : op.isAdditive = false)
    (hd : a.unit.dimension ≠ b.unit.dimension) (ha : AtMost k a.magnitude) (hb : b.IsOrdinary)
    (hk : -1074 ≤ k ∧ k ≤ 1013) :
    ∃ c, op.apply a b = .ok c ∧ c.unit.dimension = .compound ∧ AtMost (k + 10) c.magnitude := by
  cases op with
  | add => cases hop
  | sub => cases hop
  | mul =>
    have hproduct := ha.mul hb.magnitude.toAtMost (by omega)
    refine ⟨⟨a.magnitude * b.magnitude, a.unit.join .times b.unit, hproduct.isFinite⟩, ?_,
      Unit.dimension_join _ _ _, hproduct⟩
    exact (mul_eq_ok_of_ne hd).mpr ⟨rfl, rfl⟩
  | div =>
    have hquotient := ha.div hb.magnitude (by omega)
    refine ⟨⟨a.magnitude / b.magnitude, a.unit.join .per b.unit, hquotient.isFinite⟩, ?_,
      Unit.dimension_join _ _ _, hquotient.mono (by omega)⟩
    exact (div_eq_ok_of_ne hd).mpr ⟨hb.magnitude.beq_zero, rfl, rfl⟩

/-- Measurements of two dimensions have neither a sum nor a difference. -/
lemma exists_apply_eq_error {op : Operator} (hop : op.isAdditive = true)
    (hd : a.unit.dimension ≠ b.unit.dimension) :
    ∃ f, op.apply a b = .error f ∧ f.IsIncompatible := by
  have hbase : a.inCommonBase b = .error (.incompatible a.unit.name b.unit.name
      (.dimensions a.unit.dimension b.unit.dimension)) := by
    rw [inCommonBase, if_neg hd]
    rfl
  refine ⟨_, ?_, a.unit.name, b.unit.name, .dimensions a.unit.dimension b.unit.dimension, rfl⟩
  cases op with
  | add => rw [Operator.apply, add, hbase, error_bind]
  | sub => rw [Operator.apply, sub, hbase, error_bind]
  | mul => cases hop
  | div => cases hop

end Measurement

end Metrology
