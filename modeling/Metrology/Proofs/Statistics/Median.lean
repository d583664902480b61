import Metrology.Proofs.Statistics.Mode

/-!
# The median of magnitudes

The median is taken from the middle of the magnitudes in ascending order, and so it does not depend
on the order in which they are given. Over exact numbers, at least half of them are on either side
of it.
-/

namespace Metrology.Statistics

/-! ### The middle of a list -/

section Middle

variable {β γ : Type} {ys : List β}

/-- The middle element of a list, or the middle two. -/
def middle (ys : List β) : List β :=
  (ys.drop ((ys.length - 1) / 2)).take (if ys.length % 2 = 0 then 2 else 1)

lemma middle_map (f : β → γ) (ys : List β) : middle (ys.map f) = (middle ys).map f := by
  simp only [middle, List.length_map, List.map_take, List.map_drop]

lemma hasMiddle_middle (hne : ys ≠ []) : HasMiddle ys (middle ys) := by
  have hpos := List.length_pos_iff.mpr hne
  set k := (ys.length - 1) / 2 with hk
  have hfront : (ys.take k).length = k := List.length_take_of_le (by omega)
  have hdrop : (ys.drop k).length = ys.length - k := List.length_drop
  have hparts := List.take_append_drop k ys
  by_cases heven : ys.length % 2 = 0
  · obtain ⟨a, rest, ha⟩ := List.exists_of_length_succ _ (hdrop.trans (by omega : _ = k + 1 + 1))
    rw [ha, List.length_cons] at hdrop
    obtain ⟨b, back, rfl⟩ := List.exists_of_length_succ _ (by omega : rest.length = k + 1)
    rw [List.length_cons] at hdrop
    have hmiddle : middle ys = [a, b] := by
      rw [middle, ← hk, if_pos heven, ha]
      rfl
    rw [hmiddle, ← hparts, ha]
    exact .two a b (by omega)
  · obtain ⟨a, back, ha⟩ := List.exists_of_length_succ _ (hdrop.trans (by omega : _ = k + 1))
    rw [ha, List.length_cons] at hdrop
    have hmiddle : middle ys = [a] := by
      rw [middle, ← hk, if_neg heven, ha]
      rfl
    rw [hmiddle, ← hparts, ha]
    exact .one a (by omega)

lemma HasMiddle.eq_middle {mid : List β} (h : HasMiddle ys mid) : mid = middle ys := by
  cases h with
  | @one front back a hlength =>
    have hk : ((front ++ a :: back).length - 1) / 2 = front.length := by simp; omega
    have hodd : (front ++ a :: back).length % 2 ≠ 0 := by simp; omega
    rw [middle, hk, if_neg hodd, List.drop_left]
    rfl
  | @two front back a b hlength =>
    have hk : ((front ++ a :: b :: back).length - 1) / 2 = front.length := by simp; omega
    have heven : (front ++ a :: b :: back).length % 2 = 0 := by simp; omega
    rw [middle, hk, if_pos heven, List.drop_left]
    rfl

lemma HasMiddle.sublist {mid : List β} (h : HasMiddle ys mid) : List.Sublist mid ys := by
  rw [h.eq_middle]
  exact (List.take_sublist _ _).trans (List.drop_sublist _ _)

end Middle

/-! ### Any order -/

section Order

variable {α : Type} [Magnitude α] {v : α → ℚ} {xs ys : List α}

/-- Finite magnitudes can be put in ascending order. -/
lemma exists_ascending (hv : IsValue v) (hxs : AllFinite xs) :
    ∃ ys : List α, ys.Perm xs ∧ ys.Pairwise (· ≤ ·) := by
  have hperm := List.perm_insertionSort (fun x y => v x ≤ v y) xs
  refine ⟨_, hperm, ?_⟩
  have : Std.Total fun x y => v x ≤ v y := ⟨fun x y => le_total (v x) (v y)⟩
  have : IsTrans α fun x y => v x ≤ v y := ⟨fun _ _ _ => le_trans⟩
  refine (List.pairwise_insertionSort (fun x y => v x ≤ v y) xs).imp_of_mem fun hx hy hle => ?_
  exact (hv.le_iff (hxs _ (hperm.mem_iff.mp hx)) (hxs _ (hperm.mem_iff.mp hy))).mpr hle

variable {lib : Numerics α} (hlib : lib.IsSound) (hv : IsValue v) (hxs : AllFinite xs)
include hlib hv hxs

/-- The median does not depend on the order in which the magnitudes are given. -/
lemma beq_median_of_perm [PartialEquivBEq α] (hne : xs ≠ []) (h : ys.Perm xs) :
    (lib.median ys == lib.median xs) = true := by
  obtain ⟨zs, hzs, hascends⟩ := exists_ascending hv hxs
  have hys := hxs.of_perm h
  have hzs' := hzs.trans h.symm
  obtain ⟨mid, hmid⟩ : ∃ mid, HasMiddle zs mid := ⟨_, hasMiddle_middle (ne_nil_of_perm hne hzs)⟩
  cases hmid with
  | one a hlength =>
    exact BEq.trans (hlib.median_odd ys _ a hys hzs' hascends (.one a hlength))
      (BEq.symm (hlib.median_odd xs _ a hxs hzs hascends (.one a hlength)))
  | two a b hlength =>
    exact BEq.trans (hlib.median_even ys _ a b hys hzs' hascends (.two a b hlength))
      (BEq.symm (hlib.median_even xs _ a b hxs hzs hascends (.two a b hlength)))

end Order

/-! ### Exact medians -/

/-- At least half of the numbers are on or below this one, and at least half on or above it. -/
structure IsMedian (xs : List ℚ) (x : ℚ) : Prop where
  below : xs.length ≤ 2 * xs.countP (· ≤ x)
  above : xs.length ≤ 2 * xs.countP (x ≤ ·)

section Exact

variable {x : ℚ} {xs ys : List ℚ}

lemma length_le_two_mul_countP {p : ℚ → Bool} {most rest : List ℚ} (h : xs.Perm (most ++ rest))
    (hlength : rest.length ≤ most.length) (hp : ∀ y ∈ most, p y = true) :
    xs.length ≤ 2 * xs.countP p := by
  rw [h.countP_eq, h.length_eq, List.countP_append, List.countP_eq_length.mpr hp,
    List.length_append]
  omega

/-- The middle of a sorted list with an odd number of elements is a median. -/
lemma isMedian_of_one {a : ℚ} (hmid : HasMiddle ys [a]) (h : ys.Pairwise (· ≤ ·))
    (hxs : xs.Perm ys) : IsMedian xs a := by
  cases hmid with
  | @one front back _ hlength =>
    obtain ⟨-, hback, hfront⟩ := List.pairwise_append.mp h
    constructor
    · rw [List.append_cons] at hxs
      refine length_le_two_mul_countP hxs (by simp; omega) ?_
      simpa [or_imp, forall_and] using fun y hy => hfront y hy a List.mem_cons_self
    · refine length_le_two_mul_countP (hxs.trans List.perm_append_comm) (by simp; omega) ?_
      simpa using (List.pairwise_cons.mp hback).1

/-- The mean of the middle two elements of a sorted list is a median. -/
lemma isMedian_of_two {a b : ℚ} (hmid : HasMiddle ys [a, b]) (h : ys.Pairwise (· ≤ ·))
    (hxs : xs.Perm ys) : IsMedian xs ((a + b) / 2) := by
  cases hmid with
  | @two front back _ _ hlength =>
    obtain ⟨-, hback, hfront⟩ := List.pairwise_append.mp h
    obtain ⟨ha, hb⟩ := List.pairwise_cons.mp hback
    have hab := ha b List.mem_cons_self
    have hle : a ≤ (a + b) / 2 ∧ (a + b) / 2 ≤ b := ⟨by linarith, by linarith⟩
    rw [List.append_cons] at hxs
    constructor
    · refine length_le_two_mul_countP hxs (by simp; omega) ?_
      have hfront_a := fun y hy => hfront y hy a List.mem_cons_self
      simpa [or_imp, forall_and, hle.1] using fun y hy => (hfront_a y hy).trans hle.1
    · refine length_le_two_mul_countP (hxs.trans List.perm_append_comm) (by simp; omega) ?_
      have hb_back := (List.pairwise_cons.mp hb).1
      simpa [hle.2] using fun y hy => hle.2.trans (hb_back y hy)

/-- The median of exact numbers has half of them on either side. -/
lemma isMedian_median {lib : Numerics ℚ} (hlib : lib.IsSound) (hne : xs ≠ []) :
    IsMedian xs (lib.median xs) := by
  have hxs : AllFinite xs := fun _ _ => rfl
  obtain ⟨ys, hys, hascends⟩ := exists_ascending isValue_id hxs
  obtain ⟨mid, hmid⟩ : ∃ mid, HasMiddle ys mid := ⟨_, hasMiddle_middle (ne_nil_of_perm hne hys)⟩
  cases hmid with
  | one a hlength =>
    have hmedian := hlib.median_odd xs _ a hxs hys hascends (.one a hlength)
    rw [beq_iff_eq.mp hmedian]
    exact isMedian_of_one (.one a hlength) hascends hys.symm
  | two a b hlength =>
    have hmedian := hlib.median_even xs _ a b hxs hys hascends (.two a b hlength)
    rw [beq_iff_eq.mp hmedian]
    exact isMedian_of_two (.two a b hlength) hascends hys.symm

end Exact

end Metrology.Statistics
