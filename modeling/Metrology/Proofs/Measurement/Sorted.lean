import Metrology.Measurement.Distinct
import Metrology.Proofs.Measurement.Order
import Metrology.Proofs.Sorting.Stable

/-!
# Sorted measurements

A sort of measurements asks for some pairs only whether the one is less than the other. That is
enough to find out whether all of them fit together: if the sort ends, its comparisons connect any
two elements, and compatibility passes along such a connection. Then the measurements stand in the
order of their base magnitudes.
-/

namespace Metrology.Measurement

open Binary64 Sorting

variable {a b x y : Measurement Float} {ms : List (Measurement Float)}

/-! ### The key and the class of a measurement -/

/-- Where the base magnitude stands among all numbers. -/
def baseRank (m : Measurement Float) : WithBot (WithTop ℚ) :=
  match m.baseMagnitude with
  | .ok x => rank x
  | .error _ => ⊥

/-- What is measured, and the base unit's name: all that compatibility depends on. -/
def baseClass (m : Measurement Float) : Dimension × Option String :=
  match m.unit.base with
  | .ok b => (m.unit.dimension, some b.name)
  | .error _ => (m.unit.dimension, none)

/-- Is the base magnitude equal to the given number? -/
def hasBaseMagnitude (k : Float) (m : Measurement Float) : Bool :=
  match m.baseMagnitude with
  | .ok x => x == k
  | .error _ => false

lemma baseRank_of_baseMagnitude {k : Float} (h : a.baseMagnitude = .ok k) :
    a.baseRank = rank k := by
  rw [baseRank, h]

lemma hasBaseMagnitude_iff {k l : Float} (h : a.baseMagnitude = .ok k) (hk : k.isNaN = false) :
    a.hasBaseMagnitude l = true ↔ l.isNaN = false ∧ a.baseRank = rank l := by
  rw [hasBaseMagnitude, h, baseRank_of_baseMagnitude h]
  constructor
  · intro hkl
    obtain ⟨-, hl⟩ := isNaN_eq_false_of_beq hkl
    exact ⟨hl, (beq_iff_rank_eq hk hl).mp hkl⟩
  · rintro ⟨hl, hrank⟩
    exact (beq_iff_rank_eq hk hl).mpr hrank

lemma isNaN_eq_false (m : Measurement Float) : m.magnitude.isNaN = false :=
  isNaN_eq_false_of_isFinite m.finite

lemma baseMagnitude_of_inBase (hx : a.inBase = .ok x) : a.baseMagnitude = .ok x.magnitude :=
  (Unit.base_and_toBase_of_measureInBase hx).2

lemma baseRank_of_inBase (hx : a.inBase = .ok x) : a.baseRank = rank x.magnitude :=
  baseRank_of_baseMagnitude (baseMagnitude_of_inBase hx)

/-- Measurements in base form fit together if they are of one class. -/
lemma isCompatible_eq_decide (hx : a.inBase = .ok x) (hy : b.inBase = .ok y) :
    a.unit.isCompatible b.unit = .ok (decide (a.baseClass = b.baseClass)) := by
  rw [Unit.isCompatible_eq (unit_of_inBase hx) (unit_of_inBase hy), baseClass, baseClass,
    unit_of_inBase hx, unit_of_inBase hy]
  congr 1
  rw [Bool.eq_iff_iff]
  simp

/-! ### Comparisons -/

/-- Two of the measurements do not fit together. -/
def SomeIncompatible (ms : List (Measurement Float)) : Prop :=
  ∃ a ∈ ms, ∃ b ∈ ms, a.unit.isCompatible b.unit = .ok false

lemma compares_lt (hms : ∀ m ∈ ms, ∃ b, m.inBase = .ok b) :
    Compares (fun f => f.toClass = .incompatible ∧ SomeIncompatible ms) (· ∈ ms) baseClass baseRank
      lt := by
  intro a b ha hb
  obtain ⟨x, hx⟩ := hms a ha
  obtain ⟨y, hy⟩ := hms b hb
  rcases inCommonBase_or_refused hx hy with ⟨hfits, h⟩ | ⟨hfits, f, h, hf⟩
  · rw [isCompatible_eq_decide hx hy, Except.ok.injEq, decide_eq_true_iff] at hfits
    rw [lt, h, ok_bind]
    refine yields_ok.mpr ⟨hfits, ?_⟩
    rw [decide_eq_true_iff, baseRank_of_inBase hx, baseRank_of_inBase hy]
    exact lt_iff_rank_lt x.isNaN_eq_false y.isNaN_eq_false
  · rw [lt, h, error_bind, yields_error]
    exact ⟨hf, a, ha, b, hb, hfits⟩

lemma yields_sort (hms : ∀ m ∈ ms, ∃ b, m.inBase = .ok b) :
    Yields (fun f => f.toClass = .incompatible ∧ SomeIncompatible ms)
      (fun sorted => Sorts baseRank ms sorted ∧ ¬ SomeIncompatible ms) (sort ms) := by
  refine (sort_sorts (compares_lt hms) fun _ h => h).mono (fun _ h => h) ?_
  rintro sorted ⟨hsorts, hclass⟩
  refine ⟨hsorts, ?_⟩
  rintro ⟨a, ha, b, hb, hfits⟩
  obtain ⟨x, hx⟩ := hms a ha
  obtain ⟨y, hy⟩ := hms b hb
  rw [isCompatible_eq_decide hx hy, decide_eq_true (hclass a ha b hb)] at hfits
  cases hfits

/-! ### Sorting -/

/-- Measurements that have base forms are sorted unless two of them, wherever they stand, do not fit
together; then the sort is refused. Sorted, they ascend in base magnitude, and those with equal base
magnitudes stand as they stood. -/
theorem sort_refused_or_sorted (ms : List (Measurement Float))
    (hms : ∀ m ∈ ms, ∃ b, m.inBase = .ok b) :
    (Refused (sort ms) ↔ ∃ a ∈ ms, ∃ b ∈ ms, a.unit.isCompatible b.unit = .ok false) ∧
    ((¬ ∃ a ∈ ms, ∃ b ∈ ms, a.unit.isCompatible b.unit = .ok false) →
      ∃ sorted, sort ms = .ok sorted ∧ sorted.Perm ms ∧
        sorted.Pairwise (fun a b => ∃ x y, a.baseMagnitude = .ok x ∧ b.baseMagnitude = .ok y ∧
          x ≤ y) ∧
        ∀ k : Float, sorted.filter (hasBaseMagnitude k) = ms.filter (hasBaseMagnitude k)) := by
  have h := yields_sort hms
  cases hsort : sort ms with
  | error f =>
    obtain ⟨hclass, hsome⟩ := h.fault f hsort
    refine ⟨iff_of_true (refused_error.mpr hclass) hsome, fun hnone => ?_⟩
    exact absurd hsome hnone
  | ok sorted =>
    obtain ⟨hsorts, hnone⟩ := h.value sorted hsort
    refine ⟨iff_of_false (not_refused_ok _) hnone, fun _ => ⟨sorted, rfl, hsorts.keepsTies.perm, ?_,
      fun k => ?_⟩⟩
    · refine hsorts.ascends.imp_of_mem fun {a b} ha hb hab => ?_
      obtain ⟨x, hx⟩ := hms a (hsorts.keepsTies.mem_iff.mp ha)
      obtain ⟨y, hy⟩ := hms b (hsorts.keepsTies.mem_iff.mp hb)
      refine ⟨_, _, baseMagnitude_of_inBase hx, baseMagnitude_of_inBase hy, ?_⟩
      rw [le_iff_rank_le x.isNaN_eq_false y.isNaN_eq_false, ← baseRank_of_inBase hx,
        ← baseRank_of_inBase hy]
      exact hab
    · have hk : ∀ m ∈ ms, m.hasBaseMagnitude k = true ↔ k.isNaN = false ∧ m.baseRank = rank k := by
        intro m hm
        obtain ⟨b, hb⟩ := hms m hm
        exact hasBaseMagnitude_iff (baseMagnitude_of_inBase hb) b.isNaN_eq_false
      exact hsorts.keepsTies.filter_eq hk

/-- `2 km` and `500 m` are sorted, and with `1 s` between them the sort is refused. -/
theorem sort_refused_or_sorted_length :
    ∃ a b s : Measurement Float, ∃ sorted : List (Measurement Float),
      a.magnitude = 2.0 ∧ a.unit = .simple .kilometer ∧
      b.magnitude = 500.0 ∧ b.unit = .simple .meter ∧
      s.magnitude = 1.0 ∧ s.unit = .simple .second ∧
      (∀ m ∈ [a, s, b], ∃ x, m.inBase = .ok x) ∧ sort [a, b] = .ok sorted ∧
      sorted.Perm [a, b] ∧ Refused (sort [a, s, b]) := by
  have hkilometer : SimpleUnit.kilometer ∈ SimpleUnit.builtIn (α := Float) := by
    simp [SimpleUnit.builtIn]
  have hmeter : SimpleUnit.meter ∈ SimpleUnit.builtIn (α := Float) := by simp [SimpleUnit.builtIn]
  have hsecond : SimpleUnit.second ∈ SimpleUnit.builtIn (α := Float) := by
    simp [SimpleUnit.builtIn]
  obtain ⟨a, hma, hua, ha⟩ : ∃ a : Measurement Float, a.magnitude = 2.0 ∧
      a.unit = .simple .kilometer ∧ ∃ x, a.inBase = .ok x :=
    ⟨⟨2.0, _, by decide +kernel⟩, rfl, rfl, _,
      Unit.measureInBase_simple hkilometer (by decide +kernel)⟩
  obtain ⟨b, hmb, hub, hb⟩ : ∃ b : Measurement Float, b.magnitude = 500.0 ∧
      b.unit = .simple .meter ∧ ∃ x, b.inBase = .ok x :=
    ⟨⟨500.0, _, by decide +kernel⟩, rfl, rfl, _,
      Unit.measureInBase_simple hmeter (by decide +kernel)⟩
  obtain ⟨s, hms, hus, hs⟩ : ∃ s : Measurement Float, s.magnitude = 1.0 ∧
      s.unit = .simple .second ∧ ∃ x, s.inBase = .ok x :=
    ⟨⟨1.0, _, isFinite_one⟩, rfl, rfl, _, Unit.measureInBase_simple hsecond (by decide +kernel)⟩
  have hlengths : ∀ m ∈ [a, b], ∃ x, m.inBase = .ok x :=
    List.forall_mem_cons.mpr ⟨ha, List.forall_mem_singleton.mpr hb⟩
  have hall : ∀ m ∈ [a, s, b], ∃ x, m.inBase = .ok x :=
    List.forall_mem_cons.mpr ⟨ha, List.forall_mem_cons.mpr ⟨hs, List.forall_mem_singleton.mpr hb⟩⟩
  have hfits : ∀ m ∈ [a, b], ∀ n ∈ [a, b], m.unit.isCompatible n.unit = .ok true := by
    simp only [List.mem_cons, List.not_mem_nil, or_false, forall_eq_or_imp, forall_eq, hua, hub]
    exact ⟨⟨rfl, rfl⟩, rfl, rfl⟩
  obtain ⟨-, hsorts⟩ := sort_refused_or_sorted [a, b] hlengths
  obtain ⟨sorted, hsorted, hperm, -⟩ := hsorts <| by
    rintro ⟨m, hm, n, hn, hmn⟩
    cases (hfits m hm n hn).symm.trans hmn
  have hrefused : a.unit.isCompatible s.unit = .ok false := by
    rw [hua, hus]
    rfl
  exact ⟨a, b, s, sorted, hma, hua, hmb, hub, hms, hus, hall, hsorted, hperm,
    (sort_refused_or_sorted [a, s, b] hall).1.mpr ⟨a, by simp, s, by simp, hrefused⟩⟩

end Metrology.Measurement
