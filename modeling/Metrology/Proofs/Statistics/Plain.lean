import Metrology.Proofs.Sorting.Order
import Metrology.Proofs.Statistics.Median

/-!
# Plain numerical functions

Magnitudes are sorted by insertion, and the sorted list is counted run by run; the middle of it is
the median. Over exact numbers, summing in running sums and by halves is summing, so that the mean
is the sum divided by the number of summands. Over doubles, equal elements in the middle have equal
means.
-/

namespace Metrology.Statistics

open Sorting

/-! ### Exact means -/

section Exact

variable {x : ℚ} {xs : List ℚ}

lemma sumFrom_eq (x : ℚ) (xs : List ℚ) : sumFrom x xs = x + xs.sum := by
  induction xs generalizing x with
  | nil => exact (add_zero x).symm
  | cons y ys ih =>
    have hstep : sumFrom x (y :: ys) = sumFrom (x + y) ys := rfl
    rw [hstep, ih, List.sum_cons, add_assoc]

lemma Lanes.sum_eq (l : Lanes ℚ) (xs : List ℚ) :
    l.sum xs = l.a + l.b + l.c + l.d + l.e + l.f + l.g + l.h + xs.sum := by
  fun_induction Lanes.sum l xs with
  | case1 l a b c d e f g h r ih =>
    rw [ih]
    simp only [List.sum_cons]
    ring
  | case2 l r _ =>
    rw [sumFrom_eq]
    ring

lemma sumBlock_eq (xs : List ℚ) : sumBlock xs = xs.sum := by
  unfold sumBlock
  split
  · rw [Lanes.sum_eq]
    simp only [List.sum_cons]
    ring
  · rw [sumFrom_eq]
    norm_num

lemma sum_eq (xs : List ℚ) : sum xs = xs.sum := by
  fun_induction sum xs with
  | case1 xs _ => exact sumBlock_eq xs
  | case2 xs _ half ih ih' => rw [ih, ih', List.sum_take_add_sum_drop]

/-- The mean of exact numbers is the exact mean. -/
lemma mean_eq (xs : List ℚ) : mean xs = xs.sum / xs.length := by
  have hzero : (0.0 : ℚ) = 0 := by norm_num
  rw [mean, sum_eq, hzero, zero_add]
  rfl

end Exact

variable {α : Type} {v : α → ℚ} {x y : α} {xs ys : List α}

/-! ### Sorting by insertion -/

section Insertion

variable [Magnitude α] (hv : IsValue v)
include hv

lemma sorts_insert (hx : Magnitude.isFinite x = true) (hys : AllFinite ys) (h : Ascends v ys) :
    Sorts v (ys ++ [x]) (insert x ys) := by
  induction ys with
  | nil => exact .of_ascends (List.pairwise_singleton _ x)
  | cons y ys ih =>
    obtain ⟨hy, hys⟩ := List.forall_mem_cons.mp hys
    obtain ⟨hle, hascends⟩ := List.pairwise_cons.mp h
    rw [insert]
    split
    · next hlt =>
      rw [hv.lt_iff hx hy] at hlt
      refine .swap h (List.pairwise_singleton _ x) fun z hz w hw => ?_
      rw [List.mem_singleton.mp hw]
      rcases List.mem_cons.mp hz with rfl | hz
      · exact hlt
      · exact hlt.trans_le (hle z hz)
    · next hlt =>
      rw [hv.lt_iff hx hy, not_lt] at hlt
      exact (ih hys hascends).cons (List.forall_mem_append.mpr ⟨hle, by simpa using hlt⟩)

lemma sorts_sort (hxs : AllFinite xs) : Sorts v xs (sort xs) := by
  induction xs using List.reverseRecOn with
  | nil => exact .of_ascends List.Pairwise.nil
  | append_singleton xs x ih =>
    obtain ⟨hxs, hx⟩ := List.forall_mem_append.mp hxs
    have hsort := ih hxs
    have hsnoc : sort (xs ++ [x]) = insert x (sort xs) := by
      simp only [sort, List.foldl_append, List.foldl_cons, List.foldl_nil]
    rw [hsnoc]
    refine .keepsTies_trans (hsort.keepsTies.append (.refl [x])) ?_
    exact sorts_insert hv (hx x List.mem_cons_self) (hsort.keepsTies.forall_mem hxs) hsort.ascends

/-- Any ascending order of the magnitudes has the same values at the same places. -/
lemma map_sort_eq_of_perm (hxs : AllFinite xs) (h : ys.Perm xs) (hys : ys.Pairwise (· ≤ ·)) :
    (sort xs).map v = ys.map v := by
  have hsorts := sorts_sort hv hxs
  have hfinite := hxs.of_perm h
  have hascends : (ys.map v).Pairwise (· ≤ ·) := List.pairwise_map.mpr <|
    hys.imp_of_mem fun hx hy hle => (hv.le_iff (hfinite _ hx) (hfinite _ hy)).mp hle
  have hperm : ((sort xs).map v).Perm (ys.map v) :=
    (hsorts.keepsTies.perm.trans h.symm).map v
  exact hperm.eq_of_pairwise' (List.pairwise_map.mpr hsorts.ascends) hascends

end Insertion

/-! ### Runs -/

/-- Each value of a list with the number of its repetitions, from the smallest value on. -/
structure AreRuns (v : α → ℚ) (ys : List α) (rs : List (α × Nat)) : Prop where
  mem : ∀ r ∈ rs, r.1 ∈ ys
  count : ∀ r ∈ rs, r.2 = ys.countP fun y => v y = v r.1
  ascends : rs.Pairwise fun r s => v r.1 < v s.1
  covers : ∀ y ∈ ys, ∃ r ∈ rs, v r.1 = v y

namespace AreRuns

variable {rs : List (α × Nat)} {r : α × Nat} {n : Nat}

/-- The first run holds the smallest value. -/
lemma le_of_mem (h : AreRuns v ys (r :: rs)) (hy : y ∈ ys) : v r.1 ≤ v y := by
  obtain ⟨s, hs, hsy⟩ := h.covers y hy
  rw [← hsy]
  rcases List.mem_cons.mp hs with rfl | hs
  · exact le_rfl
  · exact ((List.pairwise_cons.mp h.ascends).1 s hs).le

lemma cons_new (h : AreRuns v ys rs) (hlt : ∀ y ∈ ys, v x < v y) :
    AreRuns v (x :: ys) ((x, 1) :: rs) where
  mem := List.forall_mem_cons.mpr
    ⟨List.mem_cons_self, fun r hr => List.mem_cons_of_mem _ (h.mem r hr)⟩
  count := by
    refine List.forall_mem_cons.mpr ⟨?_, fun r hr => ?_⟩
    · have hnone : ys.countP (fun y => v y = v x) = 0 := by
        simpa using fun y hy => (hlt y hy).ne'
      simp [hnone]
    · have hne : v x ≠ v r.1 := (hlt _ (h.mem r hr)).ne
      simp [hne, h.count r hr]
  ascends := List.pairwise_cons.mpr ⟨fun r hr => hlt _ (h.mem r hr), h.ascends⟩
  covers := by
    refine List.forall_mem_cons.mpr ⟨⟨_, List.mem_cons_self, rfl⟩, fun y hy => ?_⟩
    obtain ⟨r, hr, hry⟩ := h.covers y hy
    exact ⟨r, List.mem_cons_of_mem _ hr, hry⟩

lemma cons_same (h : AreRuns v ys ((y, n) :: rs)) (hxy : v x = v y) :
    AreRuns v (x :: ys) ((x, n + 1) :: rs) where
  mem := List.forall_mem_cons.mpr ⟨List.mem_cons_self, fun r hr =>
    List.mem_cons_of_mem _ (h.mem r (List.mem_cons_of_mem _ hr))⟩
  count := by
    obtain ⟨hn, hrs⟩ := List.forall_mem_cons.mp h.count
    refine List.forall_mem_cons.mpr ⟨?_, fun r hr => ?_⟩
    · simp [hxy, ← hn]
    · have hne : v x ≠ v r.1 := hxy ▸ ((List.pairwise_cons.mp h.ascends).1 r hr).ne
      simp [hne, hrs r hr]
  ascends := by
    obtain ⟨hlt, hrs⟩ := List.pairwise_cons.mp h.ascends
    exact List.pairwise_cons.mpr ⟨fun r hr => hxy ▸ hlt r hr, hrs⟩
  covers := by
    refine List.forall_mem_cons.mpr ⟨⟨_, List.mem_cons_self, rfl⟩, fun z hz => ?_⟩
    obtain ⟨r, hr, hrz⟩ := h.covers z hz
    rcases List.mem_cons.mp hr with rfl | hr
    · exact ⟨_, List.mem_cons_self, hxy.trans hrz⟩
    · exact ⟨r, List.mem_cons_of_mem _ hr, hrz⟩

end AreRuns

lemma areRuns_runs [Magnitude α] (hv : IsValue v) (hys : AllFinite ys) (h : Ascends v ys) :
    AreRuns v ys (runs ys) := by
  induction ys with
  | nil => exact ⟨by simp [runs], by simp [runs], List.Pairwise.nil, by simp⟩
  | cons x ys ih =>
    obtain ⟨hx, hys⟩ := List.forall_mem_cons.mp hys
    obtain ⟨hle, hascends⟩ := List.pairwise_cons.mp h
    have hruns := ih hys hascends
    rw [runs]
    cases hrs : runs ys with
    | nil =>
      rw [hrs] at hruns
      refine hruns.cons_new fun y hy => ?_
      obtain ⟨r, hr, -⟩ := hruns.covers y hy
      cases hr
    | cons r rest =>
      obtain ⟨y, n⟩ := r
      rw [hrs] at hruns
      have hy : y ∈ ys := hruns.mem _ List.mem_cons_self
      dsimp only
      split
      · next hxy => exact hruns.cons_same ((hv.beq_iff hx (hys y hy)).mp hxy)
      · next hxy =>
        rw [hv.beq_iff hx (hys y hy)] at hxy
        have hlt : v x < v y := (hle y hy).lt_of_ne hxy
        exact hruns.cons_new fun z hz => hlt.trans_le (hruns.le_of_mem hz)

/-- The runs of a sorted list are the different values of the list that was sorted. -/
lemma AreRuns.listsValues [Magnitude α] {rs : List (α × Nat)} (hv : IsValue v)
    (hxs : AllFinite xs) (h : AreRuns v ys rs) (hys : ys.Perm xs) : ListsValues xs rs := by
  have hmem {r : α × Nat} (hr : r ∈ rs) : r.1 ∈ xs := hys.mem_iff.mp (h.mem r hr)
  refine ⟨h.ascends.imp_of_mem fun hr hs hlt => ?_, fun r hr => hmem hr, fun r hr => ?_,
    fun x hx => ?_⟩
  · exact (hv.lt_iff (hxs _ (hmem hr)) (hxs _ (hmem hs))).mpr hlt
  · rw [h.count r hr, hys.countP_eq]
    refine List.countP_congr fun y hy => ?_
    rw [hv.beq_iff (hxs y hy) (hxs _ (hmem hr)), decide_eq_true_iff]
  · obtain ⟨r, hr, hrx⟩ := h.covers x (hys.mem_iff.mpr hx)
    exact ⟨r, hr, (hv.beq_iff (hxs _ (hmem hr)) (hxs x hx)).mpr hrx⟩

/-! ### The greatest number -/

lemma isFirstMaximum_argmax {ns : List Nat} (hne : ns ≠ []) : IsFirstMaximum ns (argmax ns) := by
  have hpos := List.length_pos_iff.mpr hne
  have hbound : argmax ns < ns.length := by
    refine List.findIdx_lt_length_of_exists ⟨ns.maximum_of_length_pos hpos, ?_, ?_⟩
    · exact List.maximum_of_length_pos_mem hpos
    · simpa using fun n hn => List.le_maximum_of_length_pos_of_mem hn hpos
  have hmax : ∀ n ∈ ns, n ≤ ns[argmax ns] := by
    have hall : (ns.all (· ≤ ns[argmax ns])) = true :=
      List.findIdx_getElem (p := fun n => ns.all (· ≤ n)) (w := hbound)
    simpa using hall
  refine ⟨hbound, hmax, fun n hn => ?_⟩
  obtain ⟨i, hi, rfl⟩ := List.mem_take_iff_getElem.mp hn
  have hnot : ns.all (· ≤ ns[i]) = false :=
    Bool.not_eq_true _ ▸ List.not_of_lt_findIdx (p := fun n => ns.all (· ≤ n)) (lt_min_iff.mp hi).1
  obtain ⟨m, hm, hlt⟩ := List.all_eq_false.mp hnot
  have hlt : ns[i] < m := by simpa using hlt
  exact hlt.trans_le (hmax m hm)

/-! ### All functions -/

section Middle

variable [Magnitude α] (hv : IsValue v) (hxs : AllFinite xs)
include hv hxs

/-- The median is the mean of the middle of the sorted list, where any ascending order of the
magnitudes has the same values. -/
lemma exists_median_eq {mid : List α} (h : ys.Perm xs) (hys : ys.Pairwise (· ≤ ·))
    (hmid : HasMiddle ys mid) :
    ∃ mid', median xs = mean mid' ∧ AllFinite mid' ∧ mid'.map v = mid.map v := by
  have hsorts := (sorts_sort hv hxs).keepsTies
  refine ⟨middle (sort xs), ?_, fun x hx => ?_, ?_⟩
  · rw [median, middle, hsorts.length_eq]
  · exact hsorts.forall_mem hxs x (List.mem_of_mem_drop (List.mem_of_mem_take hx))
  · rw [hmid.eq_middle, ← middle_map, ← middle_map, map_sort_eq_of_perm hv hxs h hys]

end Middle

/-- The plain functions are sound if the mean of one magnitude is equal to it, and the mean of two
to half of their sum. -/
lemma isSound_plain [Magnitude α] (hv : IsValue v)
    (hone : ∀ {a a' : α}, Magnitude.isFinite a = true → Magnitude.isFinite a' = true →
      v a' = v a → (mean [a'] == a) = true)
    (htwo : ∀ {a b a' b' : α}, Magnitude.isFinite a = true → Magnitude.isFinite b = true →
      Magnitude.isFinite a' = true → Magnitude.isFinite b' = true → v a' = v a → v b' = v b →
      (mean [a', b'] == (a + b) / Magnitude.ofNat 2) = true) :
    (Numerics.plain : Numerics α).IsSound where
  unique xs hxs := by
    have hsorts := sorts_sort hv hxs
    have hruns := areRuns_runs hv (hsorts.keepsTies.forall_mem hxs) hsorts.ascends
    exact hruns.listsValues hv hxs hsorts.keepsTies.perm
  argmax ns hne := isFirstMaximum_argmax hne
  median_odd xs ys a hxs h hys hmid := by
    obtain ⟨mid', hmedian, hfinite', hsame⟩ := exists_median_eq hv hxs h hys hmid
    obtain ⟨a', rfl, ha⟩ := List.map_eq_singleton_iff.mp hsame
    have hfinite := hxs.of_perm h a (hmid.sublist.mem (by simp))
    change (median xs == a) = true
    rw [hmedian]
    exact hone hfinite (hfinite' a' (by simp)) ha
  median_even xs ys a b hxs h hys hmid := by
    obtain ⟨mid', hmedian, hfinite', hsame⟩ := exists_median_eq hv hxs h hys hmid
    obtain ⟨a', rest, rfl, ha, hrest⟩ := List.map_eq_cons_iff.mp hsame
    obtain ⟨b', rfl, hb⟩ := List.map_eq_singleton_iff.mp hrest
    have hfinite : AllFinite [a, b] := fun x hx => hxs.of_perm h x (hmid.sublist.mem hx)
    change (median xs == (a + b) / Magnitude.ofNat 2) = true
    rw [hmedian]
    exact htwo (hfinite a (by simp)) (hfinite b (by simp)) (hfinite' a' (by simp))
      (hfinite' b' (by simp)) ha hb

/-! ### Exact numbers -/

lemma isSound_plain_rat : (Numerics.plain : Numerics ℚ).IsSound := by
  refine isSound_plain isValue_id ?_ ?_
  · rintro a a' - - ha
    simpa [mean_eq] using ha
  · rintro a b a' b' - - - - ha hb
    obtain rfl : a' = a := ha
    obtain rfl : b' = b := hb
    rw [beq_iff_eq, mean_eq, List.sum_pair]
    rfl

/-! ### Doubles -/

section Double

open Binary64

variable {x y : Float}

lemma beq_zeros : ((0.0 : Float) == 0.0) = true ∧ ((-0.0 : Float) == 0.0) = true := by
  decide +kernel

/-- Equal sums have equal halves, also if they are infinite. -/
lemma beq_half (h : (x == y) = true) :
    ((0.0 + x) / Float.ofNat 2 == y / Float.ofNat 2) = true := by
  rcases isFinite_or_eq x with hx | rfl | rfl | rfl
  · have htwo : (Float.ofNat 2).isFinite = true := by decide +kernel
    have hne : value (Float.ofNat 2) ≠ 0 := mt (beq_zero_iff htwo).mpr (by decide +kernel)
    have hy := isFinite_of_beq (BEq.symm h) hx
    have hsum := beq_zero_add beq_zeros.1 hx
    have hfinite := isFinite_of_beq hsum hx
    have hround := roundsTo_div hfinite htwo hne
    rw [(beq_iff_value_eq hfinite hy).mp (BEq.trans hsum h)] at hround
    exact hround.beq (roundsTo_div hy htwo hne)
  · obtain rfl := eq_of_beq_of_infinite h (by decide +kernel)
    decide +kernel
  · obtain rfl := eq_of_beq_of_infinite h (by decide +kernel)
    decide +kernel
  · exact absurd (isNaN_eq_false_of_beq h).1 (by decide +kernel)

lemma mean_singleton (x : Float) : mean [x] = (0.0 + (-0.0 + x)) / Float.ofNat 1 := by
  rw [mean, sum, dif_pos (by simp)]
  rfl

lemma mean_pair (x y : Float) : mean [x, y] = (0.0 + (-0.0 + x + y)) / Float.ofNat 2 := by
  rw [mean, sum, dif_pos (by simp)]
  rfl

/-- The mean of one double is equal to it. -/
lemma beq_mean_singleton (hx : x.isFinite = true) : (mean [x] == x) = true := by
  obtain ⟨hzero, hnegative⟩ := beq_zeros
  have hone : Float.ofNat 1 = 1.0 := by decide +kernel
  have hsum := beq_zero_add hnegative hx
  have hfinite := isFinite_of_beq hsum hx
  have htotal := beq_zero_add hzero hfinite
  rw [mean_singleton, hone, div_one_eq]
  exact BEq.trans htotal hsum

/-- The mean of two doubles is half of the sum of any doubles equal to them. It may be infinite. -/
lemma beq_mean_pair {x' y' : Float} (hx : x.isFinite = true) (hy : y.isFinite = true)
    (hx' : x'.isFinite = true) (hy' : y'.isFinite = true) (hxx' : value x' = value x)
    (hyy' : value y' = value y) : (mean [x', y'] == (x + y) / Float.ofNat 2) = true := by
  have hsum := beq_zero_add beq_zeros.2 hx'
  have hfinite := isFinite_of_beq hsum hx'
  have hround := roundsTo_add hfinite hy'
  rw [(beq_iff_value_eq hfinite hx').mp hsum, hxx', hyy'] at hround
  rw [mean_pair]
  exact beq_half (hround.beq (roundsTo_add hx hy))

lemma isSound_plain_float : (Numerics.plain : Numerics Float).IsSound := by
  refine isSound_plain isValue_value ?_ fun ha hb ha' hb' => beq_mean_pair ha hb ha' hb'
  intro a a' ha ha' hsame
  exact BEq.trans (beq_mean_singleton ha') ((beq_iff_value_eq ha' ha).mpr hsame)

end Double

end Metrology.Statistics
