import Metrology.Proofs.Statistics.Plain
import Metrology.Unit.BuiltIn

/-!
# Statistics of measurements

The magnitudes of any measurements have a mode, which is the smallest of those that occur most
often. Exact magnitudes have their exact mean, and a median with half of them on either side. The
order of the measurements makes no difference to the mode and the median, and over exact magnitudes
none to the mean. This follows from what is relied on in the numerical functions, whichever they
are.
-/

namespace Metrology.Statistics

/-! ### All statistics at once -/

section Summarizes

variable {α : Type} [Magnitude α] {lib : Numerics α} {ms : List (Measurement α)}

/-- These are the statistics of the measurements, both together and one by one. -/
structure Summarizes (lib : Numerics α) (ms : List (Measurement α)) (s : Summary α) : Prop where
  summarize : Statistics.summarize lib ms = .ok s
  count : s.count = ms.length
  mean : meanOf lib ms = .ok s.mean
  median : medianOf lib ms = .ok s.median
  mode : modeOf lib ms = .ok s.mode

lemma magnitudes_eq_ok (hne : ms ≠ []) : magnitudes ms = .ok (ms.map Measurement.magnitude) := by
  rw [magnitudes, if_neg (by simpa using hne)]
  rfl

/-- Measurements have all statistics if their magnitudes have a mode. -/
lemma summarizes_of_mode {x : α} (hne : ms ≠ [])
    (hx : lib.mode (ms.map Measurement.magnitude) = .ok x) :
    Summarizes lib ms ⟨ms.length, lib.mean (ms.map Measurement.magnitude),
      lib.median (ms.map Measurement.magnitude), x⟩ where
  summarize := by simp [summarize, magnitudes_eq_ok hne, hx]
  count := rfl
  mean := by rw [meanOf, magnitudes_eq_ok hne]; rfl
  median := by rw [medianOf, magnitudes_eq_ok hne]; rfl
  mode := by rw [modeOf, magnitudes_eq_ok hne]; exact hx

lemma allFinite_map_magnitude (ms : List (Measurement α)) :
    AllFinite (ms.map Measurement.magnitude) := by
  intro x hx
  obtain ⟨m, -, rfl⟩ := List.mem_map.mp hx
  exact m.finite

end Summarizes

/-! ### Measurements -/

/-- With doubles, the mode is the smallest of the most frequent magnitudes, and mode and median are
the same for any order. -/
lemma exists_summarizes_of_sound {lib : Numerics Float} (hlib : lib.IsSound)
    {ms : List (Measurement Float)} (hms : ms ≠ []) :
    ∃ s, Summarizes lib ms s ∧ IsMode (ms.map Measurement.magnitude) s.mode ∧
      ∀ ms', ms'.Perm ms → ∃ s', Summarizes lib ms' s' ∧ (s'.mode == s.mode) = true ∧
        (s'.median == s.median) = true := by
  have hxs := allFinite_map_magnitude ms
  have hne : ms.map Measurement.magnitude ≠ [] := mt List.map_eq_nil_iff.mp hms
  obtain ⟨x, hx, hmode⟩ := exists_isMode isValue_value hxs hlib hne
  refine ⟨_, summarizes_of_mode hms hx, hmode, fun ms' h => ?_⟩
  have hperm := h.map Measurement.magnitude
  obtain ⟨x', hx', hmode'⟩ :=
    exists_isMode isValue_value (hxs.of_perm hperm) hlib (ne_nil_of_perm hne hperm)
  have hmode' := hmode'.of_perm hperm.symm
  refine ⟨_, summarizes_of_mode (ne_nil_of_perm hms h) hx', ?_,
    beq_median_of_perm hlib isValue_value hxs hne hperm⟩
  exact (isValue_value.beq_iff (hxs _ hmode'.mem) (hxs _ hmode.mem)).mpr
    (hmode'.value_eq isValue_value hxs hmode)

/-- With exact numbers, all statistics are the same for any order, and the median has half of the
magnitudes on either side. -/
lemma exists_summarizes_of_exact {lib : Numerics ℚ} (hlib : lib.IsSound)
    (hmean : ∀ xs, xs ≠ [] → lib.mean xs = xs.sum / xs.length) {qs : List (Measurement ℚ)}
    (hqs : qs ≠ []) :
    ∃ s, Summarizes lib qs s ∧ IsMode (qs.map Measurement.magnitude) s.mode ∧
      IsMedian (qs.map Measurement.magnitude) s.median ∧
      s.mean = (qs.map Measurement.magnitude).sum / qs.length ∧
      ∀ qs', qs'.Perm qs → Summarizes lib qs' s := by
  have hxs := allFinite_map_magnitude qs
  have hne : qs.map Measurement.magnitude ≠ [] := mt List.map_eq_nil_iff.mp hqs
  obtain ⟨x, hx, hmode⟩ := exists_isMode isValue_id hxs hlib hne
  refine ⟨_, summarizes_of_mode hqs hx, hmode, isMedian_median hlib hne, ?_, fun qs' h => ?_⟩
  · rw [← List.length_map Measurement.magnitude]
    exact hmean _ hne
  · have hperm := h.map Measurement.magnitude
    have hne' := ne_nil_of_perm hne hperm
    obtain ⟨x', hx', hmode'⟩ := exists_isMode isValue_id (hxs.of_perm hperm) hlib hne'
    have hsame : id x' = id x := (hmode'.of_perm hperm.symm).value_eq isValue_id hxs hmode
    have hmedian := beq_median_of_perm hlib isValue_id hxs hne hperm
    have hs := summarizes_of_mode (ne_nil_of_perm hqs h) hx'
    rwa [hmean _ hne', beq_iff_eq.mp hmedian, show x' = x from hsame, hperm.sum_eq,
      hperm.length_eq, h.length_eq, ← hmean _ hne] at hs

/-- Numerical functions are given that find the different values of a list in ascending order with
their numbers, the first of the greatest numbers and the middle of the sorted list; those over exact
numbers compute the exact mean. Measurements then have all statistics, and their mode is the
smallest of the magnitudes that occur most often. Mode and median are the same for any order of the
measurements. With exact magnitudes, the median has half of them on either side, the mean is the
exact mean, and all statistics are the same for any order. -/
theorem exists_summarizes_of_any_order {lib : Numerics Float} {exact : Numerics ℚ}
    (hlib : lib.IsSound) (hexact : exact.IsSound)
    (hmean : ∀ xs, xs ≠ [] → exact.mean xs = xs.sum / xs.length)
    {ms : List (Measurement Float)} {qs : List (Measurement ℚ)} (hms : ms ≠ []) (hqs : qs ≠ []) :
    (∃ s, Summarizes lib ms s ∧ IsMode (ms.map Measurement.magnitude) s.mode ∧
      ∀ ms', ms'.Perm ms → ∃ s', Summarizes lib ms' s' ∧ (s'.mode == s.mode) = true ∧
        (s'.median == s.median) = true) ∧
    ∃ s, Summarizes exact qs s ∧ IsMode (qs.map Measurement.magnitude) s.mode ∧
      IsMedian (qs.map Measurement.magnitude) s.median ∧
      s.mean = (qs.map Measurement.magnitude).sum / qs.length ∧
      ∀ qs', qs'.Perm qs → Summarizes exact qs' s :=
  ⟨exists_summarizes_of_sound hlib hms, exists_summarizes_of_exact hexact hmean hqs⟩

/-- Three grams and one gram, over doubles and over exact numbers, with the plain functions. -/
theorem exists_summarizes_of_grams :
    ∃ (a b : Measurement Float) (s s' : Summary Float) (p q : Measurement ℚ) (t : Summary ℚ),
      a.magnitude = 3.0 ∧ b.magnitude = 1.0 ∧ Summarizes .plain [a, b] s ∧
      Summarizes .plain [b, a] s' ∧ IsMode [3.0, 1.0] s.mode ∧ (s'.mode == s.mode) = true ∧
      (s'.median == s.median) = true ∧ p.magnitude = 3 ∧ q.magnitude = 1 ∧
      Summarizes .plain [p, q] t ∧ Summarizes .plain [q, p] t ∧ t.mean = 2 ∧
      IsMedian [3, 1] t.median := by
  have hthree : (3.0 : Float).isFinite = true := by decide +kernel
  let a : Measurement Float := ⟨3.0, .simple .gram, hthree⟩
  let b : Measurement Float := ⟨1.0, .simple .gram, Binary64.isFinite_one⟩
  let p : Measurement ℚ := ⟨3, .simple .gram, rfl⟩
  let q : Measurement ℚ := ⟨1, .simple .gram, rfl⟩
  have hms : [a, b] ≠ [] := List.cons_ne_nil a [b]
  have hqs : [p, q] ≠ [] := List.cons_ne_nil p [q]
  obtain ⟨⟨s, hs, hmode, horder⟩, t, ht, -, hmedian, hmean, hexact⟩ :=
    exists_summarizes_of_any_order isSound_plain_float isSound_plain_rat (fun xs _ => mean_eq xs)
      hms hqs
  obtain ⟨s', hs', hsame, hsame'⟩ := horder [b, a] (.swap a b [])
  refine ⟨a, b, s, s', p, q, t, rfl, rfl, hs, hs', hmode, hsame, hsame', rfl, rfl, ht,
    hexact [q, p] (.swap p q []), ?_, hmedian⟩
  rw [hmean]
  norm_num [p, q]

end Metrology.Statistics
