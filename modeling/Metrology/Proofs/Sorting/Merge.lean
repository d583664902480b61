import Metrology.Proofs.Sorting.Runs

/-!
# Merged runs

Two neighbouring sorted runs are merged into their elements, sorted. Seen from the end from which
they are merged, the first element of all is one of the early run and the last one of the late run;
that stays true of what is left of them, however many elements have been taken from each.
-/

namespace Metrology.Sorting

variable {β γ δ ε : Type} [LinearOrder γ] {E : ε → Prop} {f : β → γ} {g : β → δ} {P : β → Prop}
  {lt : β → β → Except ε Bool}

lemma Compares.wins_back (hlt : Compares E P g f lt) :
    Compares E P g (OrderDual.toDual ∘ f) (End.back.wins lt) := fun y x hy hx =>
  (hlt x y hx hy).mono (fun _ h => h) fun _ h => ⟨h.1.symm, h.2⟩

/-! ### What is left of two runs -/

/-- Two sorted runs of which the late one has the last element of all. -/
structure Remaining (P : β → Prop) (f : β → γ) (late early : List β) : Prop where
  kind : ∀ z ∈ late ++ early, P z
  late_ascends : Ascends f late
  early_ascends : Ascends f early
  last : ∀ x ∈ late.getLast?, ∀ y ∈ early, f y < f x

namespace Remaining

variable {late early : List β} {x y : β}

lemma drop_late (h : Remaining P f late early) (n : Nat) : Remaining P f (late.drop n) early where
  kind := List.forall_mem_append.mpr ⟨fun z hz =>
    h.kind z (List.mem_append_left _ (List.mem_of_mem_drop hz)),
    fun z hz => h.kind z (List.mem_append_right _ hz)⟩
  late_ascends := h.late_ascends.drop
  early_ascends := h.early_ascends
  last := by
    intro x hx
    rw [List.getLast?_drop] at hx
    split at hx
    · cases hx
    · exact h.last x hx

lemma drop_early (h : Remaining P f late early) (n : Nat) : Remaining P f late (early.drop n) where
  kind := List.forall_mem_append.mpr ⟨fun z hz => h.kind z (List.mem_append_left _ hz), fun z hz =>
    h.kind z (List.mem_append_right _ (List.mem_of_mem_drop hz))⟩
  late_ascends := h.late_ascends
  early_ascends := h.early_ascends.drop
  last x hx y hy := h.last x hx y (List.mem_of_mem_drop hy)

/-- With at most one element left of the late run all others come in front of it. -/
lemma sorts_of_length_le_one (h : Remaining P f late early) (hlate : late.length ≤ 1) :
    Sorts f (late ++ early) (early ++ late) := by
  refine .swap h.late_ascends h.early_ascends fun x hx => h.last x ?_
  match late with
  | [a] =>
    obtain rfl := List.mem_singleton.mp hx
    rfl

/-- Seen from the other end, the late run is the early one, and the other way round. -/
lemma reverse (h : Remaining P f late early) (hfirst : ∀ y ∈ early.head?, ∀ x ∈ late, f y < f x) :
    Remaining P (OrderDual.toDual ∘ f) early.reverse late.reverse where
  kind := List.forall_mem_append.mpr
    ⟨fun z hz => h.kind z (List.mem_append_right _ (List.mem_reverse.mp hz)),
      fun z hz => h.kind z (List.mem_append_left _ (List.mem_reverse.mp hz))⟩
  late_ascends := List.pairwise_reverse.mpr h.early_ascends
  early_ascends := List.pairwise_reverse.mpr h.late_ascends
  last y hy x hx := by
    rw [List.getLast?_reverse] at hy
    exact hfirst y hy x (List.mem_reverse.mp hx)

end Remaining

/-! ### Taking elements from two runs -/

section Rest

variable {e : End} (hwins : Compares E P g f (e.wins lt))

include hwins

lemma mergeRest_sorts {late early : List β} (h : Remaining P f late early) (pace : Pace)
    (threshold : Nat) :
    Yields E (fun r => Sorts f (late ++ early) r.1) (mergeRest lt e late early pace threshold) := by
  fun_induction mergeRest with
  | case1 pace threshold x x' xs y ys n k threshold' hpace ih2 ih1 =>
    have hy : P y := h.kind y (by simp)
    have hx : P x := h.kind x (by simp)
    refine (hwins y x hy hx).bind fun c _ hcompared => ?_
    obtain ⟨-, hc⟩ := hcompared
    split
    · next hpass =>
      have hyx := hc.mp hpass
      have hlate : ∀ z ∈ x :: x' :: xs, f y < f z := List.forall_mem_cons.mpr
        ⟨hyx, fun z hz => hyx.trans_le ((List.pairwise_cons.mp h.late_ascends).1 z hz)⟩
      refine (ih2 (h.drop_early 1)).bind fun r _ hr => yields_ok.mpr ?_
      exact .cons_right hlate h.early_ascends hr
    · next hfail =>
      have hxy := not_lt.mp (mt hc.mpr hfail)
      have hearly : ∀ z ∈ y :: ys, f x ≤ f z := List.forall_mem_cons.mpr
        ⟨hxy, fun z hz => hxy.trans ((List.pairwise_cons.mp h.early_ascends).1 z hz)⟩
      refine (ih1 (h.drop_late 1)).bind fun r _ hr => yields_ok.mpr ?_
      exact .cons_left hearly h.late_ascends hr
  | case2 pace threshold x x' xs y ys sizes threshold' hpace hturn ih =>
    have hpasses : ∀ z ∈ x :: x' :: xs, Yields E (fun c => g y = g z ∧ (c = true ↔ f z ≤ f y))
        (do return !(← e.wins lt y z)) := fun z hz =>
      hwins.not (h.kind y (by simp)) (h.kind z (List.mem_append_left _ hz))
    refine (gallop_cuts (h.late_ascends.antitone_le (f y)) hpasses).bind fun n _ hplace => ?_
    obtain ⟨hcuts, -⟩ := hplace
    have hsorts : ∀ m, Sorts f ((x :: x' :: xs).drop n ++ ys) m →
        Sorts f (x :: x' :: xs ++ y :: ys) ((x :: x' :: xs).take n ++ y :: m) := fun m hm =>
      hcuts.insert_right h.late_ascends h.early_ascends hm
    have hleft : Remaining P f ((x :: x' :: xs).drop n) ys := (h.drop_late n).drop_early 1
    dsimp only
    split
    · next hlength =>
      rw [pure_eq_ok, yields_ok, List.append_assoc, List.cons_append]
      exact hsorts _ (hleft.sorts_of_length_le_one hlength)
    · refine (ih n hleft).bind fun r _ hr => yields_ok.mpr ?_
      simpa [prepend] using hsorts _ hr
  | case3 pace threshold x x' xs y ys sizes threshold' hpace hturn ih =>
    have hpasses : ∀ z ∈ y :: ys, Yields E (fun c => g z = g x ∧ (c = true ↔ f z < f x))
        (e.wins lt z x) := fun z hz =>
      hwins z x (h.kind z (List.mem_append_right _ hz)) (h.kind x (by simp))
    refine (gallop_cuts (h.early_ascends.antitone_lt (f x)) hpasses).bind fun n _ hplace => ?_
    obtain ⟨hcuts, -⟩ := hplace
    have hsorts : ∀ m, Sorts f (x' :: xs ++ (y :: ys).drop n) m →
        Sorts f (x :: x' :: xs ++ y :: ys) ((y :: ys).take n ++ x :: m) := fun m hm =>
      hcuts.insert_left h.late_ascends h.early_ascends hm
    have hleft : Remaining P f (x' :: xs) ((y :: ys).drop n) := (h.drop_late 1).drop_early n
    dsimp only
    split
    · next hempty =>
      have hnil : (y :: ys).drop n = [] := List.isEmpty_iff.mp hempty
      refine yields_ok.mpr (hsorts _ ?_)
      rw [hnil, List.append_nil]
      exact .of_ascends hleft.late_ascends
    · refine (ih n hleft).bind fun r _ hr => yields_ok.mpr ?_
      simpa [prepend] using hsorts _ hr
  | case4 late early pace threshold hshort =>
    rw [pure_eq_ok, yields_ok]
    rcases late with _ | ⟨x, _ | ⟨x', xs⟩⟩
    · simpa using Sorts.of_ascends h.early_ascends
    · exact h.sorts_of_length_le_one (by simp)
    · rcases early with _ | ⟨y, ys⟩
      · simpa using Sorts.of_ascends h.late_ascends
      · exact (hshort x x' xs y ys rfl rfl).elim

/-- Two runs are merged if moreover the early one has the first element of all. -/
lemma mergeFrom_sorts {late early : List β} (h : Remaining P f late early)
    (hfirst : ∀ y ∈ early.head?, ∀ x ∈ late, f y < f x) (threshold : Nat) :
    Yields E (fun r => Sorts f (late ++ early) r.1) (mergeFrom lt e late early threshold) := by
  unfold mergeFrom
  split
  · rw [pure_eq_ok, yields_ok, List.append_nil]
    exact .of_ascends h.late_ascends
  · next y ys =>
    refine (mergeRest_sorts hwins (h.drop_early 1) _ _).bind fun r _ hr => yields_ok.mpr ?_
    exact .cons_right (hfirst y rfl) h.early_ascends hr

end Rest

/-! ### The whole merge -/

section Place

-- the left run is cut at the first key of the right one, the right run at the last key of the left
variable {left right : List β} {x y : β} {n k : Nat} (hleft : Ascends f left)
  (hright : Ascends f right) (hn : Cuts (fun z => f z ≤ f y) left n)
  (hk : Cuts (fun z => ¬ f x ≤ f z) right k) (hlast : (left.drop n).getLast? = some x)

include hleft hright hk hlast

/-- What lies between the places is left to be merged. -/
lemma remaining_of_cuts (hP : ∀ z ∈ left ++ right, P z) :
    Remaining P f (left.drop n) (right.take k) where
  kind := by
    obtain ⟨hPleft, hPright⟩ := List.forall_mem_append.mp hP
    exact List.forall_mem_append.mpr ⟨fun z hz => hPleft z (List.mem_of_mem_drop hz),
      fun z hz => hPright z (List.mem_of_mem_take hz)⟩
  late_ascends := hleft.drop
  early_ascends := hright.take
  last w hw z hz := by
    obtain rfl : x = w := Option.some.inj (hlast.symm.trans hw)
    exact not_le.mp (hk.front z hz)

include hn

/-- What lies outside them stays there. -/
lemma sorts_of_cuts (hy : ∀ z ∈ right, f y ≤ f z) {m : List β}
    (hm : Sorts f (left.drop n ++ right.take k) m) :
    Sorts f (left ++ right) (left.take n ++ m ++ right.drop k) := by
  have hleft_eq : left.take n ++ left.drop n = left := List.take_append_drop n left
  have hright_eq : right.take k ++ right.drop k = right := List.take_append_drop k right
  have hdrop : Ascends f (left.drop n) := hleft.drop
  rw [← hleft_eq] at hleft
  rw [← hright_eq] at hright
  have hfront : ∀ a ∈ left.take n, ∀ b ∈ right.take k ++ right.drop k, f a ≤ f b := by
    rw [hright_eq]
    exact fun a ha b hb => (hn.front a ha).trans (hy b hb)
  have hstop : ∀ a ∈ left.drop n, ∀ b ∈ right.drop k, f a ≤ f b := fun a ha b hb =>
    (hdrop.le_getLast x hlast a ha).trans (not_not.mp (hk.back b hb))
  have hbetween := Sorts.between hleft hright hfront hstop hm
  rwa [hleft_eq, hright_eq] at hbetween

end Place

section Merge

variable (hlt : Compares E P g f lt)

include hlt

/-- Two runs merged from the back, where the early one has the first element of all. -/
lemma mergeFrom_back_sorts {late early : List β} (h : Remaining P f late early)
    (hfirst : ∀ y ∈ early.head?, ∀ x ∈ late, f y < f x) (threshold : Nat) :
    Yields E (fun r => Sorts f (late ++ early) r.1.reverse)
      (mergeFrom lt .back early.reverse late.reverse threshold) := by
  have hlast : ∀ x ∈ late.reverse.head?, ∀ y ∈ early.reverse, f y < f x := by
    intro x hx y hy
    rw [List.head?_reverse] at hx
    exact h.last x hx y (List.mem_reverse.mp hy)
  refine (mergeFrom_sorts hlt.wins_back (h.reverse hfirst) hlast threshold).mono (fun _ h => h)
    fun r hr => ?_
  have hback := hr.reverse
  rwa [← List.reverse_append, List.reverse_reverse] at hback

/-- A run and one that is not empty are merged; if the first one is not empty either, an element of
it has been compared with one of the second. -/
lemma merge_sorts {left right : List β} (hP : ∀ z ∈ left ++ right, P z) (hleft : Ascends f left)
    (hright : Ascends f right) (hne : right ≠ []) (threshold : Nat) :
    Yields E (fun r => Sorts f (left ++ right) r.1 ∧
      (left ≠ [] → ∃ x ∈ left, ∃ y ∈ right, g y = g x)) (merge lt left right threshold) := by
  obtain ⟨hPleft, hPright⟩ := List.forall_mem_append.mp hP
  obtain ⟨y, ys, rfl⟩ := List.exists_cons_of_ne_nil hne
  have hPy := hPright y List.mem_cons_self
  have hy : ∀ z ∈ y :: ys, f y ≤ f z :=
    List.forall_mem_cons.mpr ⟨le_rfl, (List.pairwise_cons.mp hright).1⟩
  unfold merge
  dsimp only
  refine (gallop_cuts (hleft.antitone_le (f y)) fun z hz => hlt.not hPy (hPleft z hz)).bind
    fun n _ hplace => ?_
  obtain ⟨hn, hasked⟩ := hplace
  have hcompared : left ≠ [] → ∃ x ∈ left, ∃ z ∈ y :: ys, g z = g x := by
    intro h
    obtain ⟨x, hx, hyx⟩ := hasked h
    exact ⟨x, hx, y, List.mem_cons_self, hyx⟩
  split
  · next hnone =>
    have hnil : left.drop n = [] := List.getLast?_eq_none_iff.mp hnone
    have hfront : ∀ a ∈ left, f a ≤ f y := by
      rw [← List.take_append_drop n left, hnil, List.append_nil]
      exact hn.front
    rw [pure_eq_ok, yields_ok]
    refine ⟨(Sorts.of_ascends hleft).append (.of_ascends hright) fun a ha b hb => ?_, hcompared⟩
    exact (hfront a ha).trans (hy b hb)
  · next x hlast =>
    have hx : x ∈ left.drop n := List.mem_of_getLast? hlast
    have hPx := hPleft x (List.mem_of_mem_drop hx)
    have hback : (y :: ys).reverse.Pairwise fun a b => f x ≤ f b → f x ≤ f a :=
      List.pairwise_reverse.mpr (hright.imp fun hab hb => hb.trans hab)
    refine (gallop_cuts hback fun z hz =>
      hlt.not (hPright z (List.mem_reverse.mp hz)) hPx).bind fun k _ hplace => ?_
    obtain ⟨hback_cuts, -⟩ := hplace
    have hk := hback_cuts.of_reverse
    have hrest := remaining_of_cuts hleft hright hk hlast hP
    have hfirst : ∀ w ∈ ((y :: ys).take ((y :: ys).length - k)).head?, ∀ z ∈ left.drop n,
        f w < f z := by
      intro w hw z hz
      rw [List.head?_take] at hw
      obtain ⟨-, rfl⟩ : k < ys.length + 1 ∧ y = w := by simpa [Nat.sub_eq_zero_iff_le] using hw
      exact not_le.mp (hn.back z hz)
    split
    · exact (mergeFrom_sorts hlt hrest hfirst threshold).bind fun r _ hr =>
        yields_ok.mpr ⟨sorts_of_cuts hleft hright hn hk hlast hy hr, hcompared⟩
    · exact (mergeFrom_back_sorts hlt hrest hfirst threshold).bind fun r _ hr =>
        yields_ok.mpr ⟨sorts_of_cuts hleft hright hn hk hlast hy hr, hcompared⟩

end Merge

end Metrology.Sorting
