import Metrology.Proofs.Binary64.Order
import Metrology.Proofs.Statistics.Numerics

/-!
# The mode of magnitudes

Where the different values are listed in ascending order, the first of the most frequent ones is the
smallest value that occurs most often, in whatever order the magnitudes are given. All this holds of
doubles as of exact numbers, because finite doubles are compared as their values are.
-/

namespace Metrology.Statistics

/-! ### Values -/

/-- Finite magnitudes are compared as their values are. -/
structure IsValue {α : Type} [Magnitude α] (v : α → ℚ) : Prop where
  lt_iff : ∀ {x y : α}, Magnitude.isFinite x = true → Magnitude.isFinite y = true →
    (x < y ↔ v x < v y)
  le_iff : ∀ {x y : α}, Magnitude.isFinite x = true → Magnitude.isFinite y = true →
    (x ≤ y ↔ v x ≤ v y)
  beq_iff : ∀ {x y : α}, Magnitude.isFinite x = true → Magnitude.isFinite y = true →
    ((x == y) = true ↔ v x = v y)

lemma isValue_value : IsValue Binary64.value :=
  ⟨Binary64.lt_iff_value_lt, Binary64.le_iff_value_le, Binary64.beq_iff_value_eq⟩

lemma isValue_id : IsValue (id : ℚ → ℚ) :=
  ⟨fun _ _ => Iff.rfl, fun _ _ => Iff.rfl, fun _ _ => beq_iff_eq⟩

variable {α : Type} [Magnitude α] {v : α → ℚ} {x y : α} {xs ys : List α}

/-! ### The mode -/

/-- The smallest of the magnitudes that occur most often. -/
structure IsMode (xs : List α) (x : α) : Prop where
  mem : x ∈ xs
  most : ∀ y, xs.count y ≤ xs.count x
  least : ∀ y ∈ xs, xs.count y = xs.count x → x ≤ y

lemma IsMode.of_perm (h : IsMode xs x) (hys : ys.Perm xs) : IsMode ys x where
  mem := hys.mem_iff.mpr h.mem
  most y := by
    rw [hys.count_eq, hys.count_eq]
    exact h.most y
  least y hy hcount := by
    rw [hys.count_eq, hys.count_eq] at hcount
    exact h.least y (hys.mem_iff.mp hy) hcount

section Counts

variable [PartialEquivBEq α]

lemma count_eq_of_beq (h : (x == y) = true) : xs.count x = xs.count y :=
  List.countP_congr fun _ _ => ⟨fun hx => BEq.trans hx h, fun hy => BEq.trans hy (BEq.symm h)⟩

/-- What is not in the list does not occur more often than what is. -/
lemma count_le_of_forall_mem {n : Nat} (h : ∀ y ∈ xs, xs.count y ≤ n) (y : α) :
    xs.count y ≤ n := by
  by_cases hy : ∃ z ∈ xs, (z == y) = true
  · obtain ⟨z, hz, hzy⟩ := hy
    exact count_eq_of_beq hzy ▸ h z hz
  · have hnone : xs.count y = 0 := List.countP_eq_zero.mpr fun z hz hzy => hy ⟨z, hz, hzy⟩
    exact hnone ▸ n.zero_le

end Counts

section Mode

variable (hv : IsValue v) (hxs : AllFinite xs)
include hv hxs

/-- A list has one mode, up to the sign of zero. -/
lemma IsMode.value_eq (hx : IsMode xs x) (hy : IsMode xs y) : v x = v y := by
  have hcount : xs.count x = xs.count y := le_antisymm (hy.most x) (hx.most y)
  have hxy := hx.least y hy.mem hcount.symm
  have hyx := hy.least x hx.mem hcount
  rw [hv.le_iff (hxs x hx.mem) (hxs y hy.mem)] at hxy
  rw [hv.le_iff (hxs y hy.mem) (hxs x hx.mem)] at hyx
  exact le_antisymm hxy hyx

variable [PartialEquivBEq α]

/-- The first of the most frequent values is the smallest of those that occur as often, and no value
occurs more often. -/
lemma ListsValues.count_le {r : α × Nat} {front back : List (α × Nat)}
    (h : ListsValues xs (front ++ r :: back)) (hleads : Leads r front back) (hy : y ∈ xs) :
    xs.count y ≤ xs.count r.1 ∧ (xs.count y = xs.count r.1 → r.1 ≤ y) := by
  obtain ⟨s, hs, hsy⟩ := h.covers y hy
  have hr : r ∈ front ++ r :: back := by simp
  have hle {x : α} (hx : x ∈ xs) : x ≤ y ↔ v x ≤ v s.1 := by
    rw [hv.le_iff (hxs x hx) (hxs y hy), (hv.beq_iff (hxs _ (h.mem s hs)) (hxs y hy)).mp hsy]
  rw [← count_eq_of_beq hsy, ← h.count s hs, ← h.count r hr, hle (h.mem r hr)]
  rcases List.mem_append.mp hs with hfront | hback
  · have hless := hleads.front s hfront
    exact ⟨hless.le, fun heq => absurd heq hless.ne⟩
  · rcases List.mem_cons.mp hback with rfl | hback
    · exact ⟨le_rfl, fun _ => le_rfl⟩
    · have hascends := (List.pairwise_append.mp h.ascends).2.1
      have hlt := (List.pairwise_cons.mp hascends).1 s hback
      rw [hv.lt_iff (hxs _ (h.mem r hr)) (hxs _ (h.mem s hs))] at hlt
      exact ⟨hleads.back s hback, fun _ => hlt.le⟩

/-- Of a list with elements the mode is found. -/
lemma exists_isMode {lib : Numerics α} (hlib : lib.IsSound) (hne : xs ≠ []) :
    ∃ x, lib.mode xs = .ok x ∧ IsMode xs x := by
  obtain ⟨r, front, back, hr, hvalues, hleads⟩ := exists_mode_eq hlib hxs hne
  have hcount {y : α} (hy : y ∈ xs) := hvalues.count_le hv hxs hleads hy
  exact ⟨r.1, hr, hvalues.mem r (by simp), count_le_of_forall_mem fun y hy => (hcount hy).1,
    fun y hy heq => (hcount hy).2 heq⟩

end Mode

end Metrology.Statistics
