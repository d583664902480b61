import Metrology.Proofs.Result
import Metrology.Sorting.Basic

/-!
# What can go wrong with sorting

A search fails only as its test does, and a sort only as its comparison does: neither has faults of
its own. So a comparison that never fails sorts every list.
-/

namespace Metrology.Sorting

variable {β ε : Type} {E : ε → Prop}

lemma yields_bind_pure {γ : Type} {x : Except ε β} (h : Yields E (fun _ => True) x) (g : β → γ) :
    Yields E (fun _ => True) (x >>= fun b => pure (g b)) :=
  h.bind fun _ _ _ => yields_ok.mpr trivial

/-! ### Searching -/

section Search

variable {e : End} {passes : β → Except ε Bool} {xs : List β}
  (hpasses : ∀ x, Yields E (fun _ => True) (passes x))

include hpasses

/-- A search by halving fails only as its test does. -/
lemma yields_search (lo hi : Nat) (h : hi ≤ xs.length) :
    Yields E (fun _ => True) (search e passes xs lo hi h) := by
  fun_induction search with
  | case1 lo hi h hlo mid le_mid mid_lt hmid ih1 ih2 =>
    refine (hpasses _).bind fun b _ _ => ?_
    split
    · exact ih1
    · exact ih2
  | case2 => exact yields_ok.mpr trivial

lemma yields_widen (known next : Nat) :
    Yields E (fun _ => True) (widen e passes xs known next) := by
  fun_induction widen with
  | case1 known next hnext ih =>
    refine (hpasses _).bind fun b _ _ => ?_
    split
    · exact ih
    · exact yields_search hpasses _ _ _
  | case2 => exact yields_search hpasses _ _ _

lemma yields_gallop : Yields E (fun _ => True) (gallop e passes xs) := by
  unfold gallop
  split
  · exact yields_ok.mpr trivial
  · refine (hpasses _).bind fun b _ _ => ?_
    split
    · exact yields_widen hpasses _ _
    · exact yields_ok.mpr trivial

end Search

/-! ### Runs -/

variable {lt : β → β → Except ε Bool} (hlt : ∀ x y, Yields E (fun _ => True) (lt x y))

include hlt

lemma yields_takeUp (a : β) (r : List β) : Yields E (fun _ => True) (takeUp lt a r) := by
  induction r generalizing a with
  | nil => exact yields_ok.mpr trivial
  | cons b r ih =>
    rw [takeUp]
    refine (hlt b a).bind fun c _ _ => ?_
    split
    · exact yields_ok.mpr trivial
    · exact yields_bind_pure (ih b) _

lemma yields_takeDown (a : β) (r : List β) : Yields E (fun _ => True) (takeDown lt a r) := by
  induction r generalizing a with
  | nil => exact yields_ok.mpr trivial
  | cons b r ih =>
    rw [takeDown]
    refine (hlt b a).bind fun c _ _ => ?_
    split
    · exact yields_bind_pure (ih b) _
    · exact yields_ok.mpr trivial

lemma yields_naturalRun (a : β) (r : List β) : Yields E (fun _ => True) (naturalRun lt a r) := by
  unfold naturalRun
  split
  · exact yields_ok.mpr trivial
  · refine (hlt _ _).bind fun c _ _ => ?_
    split
    · exact yields_bind_pure (yields_takeDown hlt _ _) _
    · exact yields_bind_pure (yields_takeUp hlt _ _) _

lemma yields_insert (run : List β) (x : β) : Yields E (fun _ => True) (insert lt run x) := by
  unfold insert bisect
  exact yields_bind_pure (yields_search (fun y => yields_bind_pure (hlt x y) _) _ _ _) _

lemma yields_foldlM_insert (run xs : List β) :
    Yields E (fun _ => True) (xs.foldlM (insert lt) run) := by
  induction xs generalizing run with
  | nil => exact yields_ok.mpr trivial
  | cons x xs ih => exact (yields_insert hlt run x).bind fun run' _ _ => ih run'

lemma yields_firstRun (least : Nat) (a : β) (r : List β) :
    Yields E (fun _ => True) (firstRun lt least a r) := by
  unfold firstRun
  exact (yields_naturalRun hlt a r).bind fun run _ _ => yields_foldlM_insert hlt run _

/-! ### Merging -/

lemma yields_wins (e : End) (y x : β) : Yields E (fun _ => True) (e.wins lt y x) := by
  cases e with
  | front => exact hlt y x
  | back => exact hlt x y

lemma yields_mergeRest (e : End) (late early : List β) (pace : Pace) (threshold : Nat) :
    Yields E (fun _ => True) (mergeRest lt e late early pace threshold) := by
  fun_induction mergeRest with
  | case1 pace threshold x x' xs y ys n k threshold' hpace ih2 ih1 =>
    refine (yields_wins hlt e y x).bind fun b _ _ => ?_
    split
    · exact yields_bind_pure ih2 _
    · exact yields_bind_pure ih1 _
  | case2 pace threshold x x' xs y ys sizes threshold' hpace hturn ih =>
    have hloses : ∀ z, Yields E (fun _ => True) (do return !(← e.wins lt y z)) := fun z =>
      yields_bind_pure (yields_wins hlt e y z) _
    refine (yields_gallop hloses).bind fun n _ _ => ?_
    dsimp only
    split
    · exact yields_ok.mpr trivial
    · exact yields_bind_pure (ih n) _
  | case3 pace threshold x x' xs y ys sizes threshold' hpace hturn ih =>
    refine (yields_gallop fun z => yields_wins hlt e z x).bind fun n _ _ => ?_
    dsimp only
    split
    · exact yields_ok.mpr trivial
    · exact yields_bind_pure (ih n) _
  | case4 => exact yields_ok.mpr trivial

lemma yields_mergeFrom (e : End) (late early : List β) (threshold : Nat) :
    Yields E (fun _ => True) (mergeFrom lt e late early threshold) := by
  unfold mergeFrom
  split
  · exact yields_ok.mpr trivial
  · exact yields_bind_pure (yields_mergeRest hlt e _ _ _ _) _

lemma yields_merge (left right : List β) (threshold : Nat) :
    Yields E (fun _ => True) (merge lt left right threshold) := by
  have hnot : ∀ x y, Yields E (fun _ => True) (do return !(← lt x y)) := fun x y =>
    yields_bind_pure (hlt x y) _
  unfold merge
  split
  · exact yields_ok.mpr trivial
  · refine (yields_gallop fun x => hnot _ x).bind fun n _ _ => ?_
    dsimp only
    split
    · exact yields_ok.mpr trivial
    · refine (yields_gallop fun z => hnot z _).bind fun k _ _ => ?_
      split
      · exact (yields_mergeFrom hlt _ _ _ _).bind fun _ _ _ => yields_ok.mpr trivial
      · exact (yields_mergeFrom hlt _ _ _ _).bind fun _ _ _ => yields_ok.mpr trivial

/-! ### The whole sort -/

namespace Pile

lemma yields_collapse (depth threshold : Nat) (runs : List (Waiting β)) :
    Yields E (fun _ => True) (collapse lt depth threshold runs) := by
  fun_induction collapse with
  | case1 threshold last previous rest hdepth ih =>
    exact (yields_merge hlt _ _ _).bind fun r _ _ => ih r.1 r.2
  | case2 => exact yields_ok.mpr trivial
  | case3 => exact yields_ok.mpr trivial

lemma yields_push (total : Nat) (p : Pile β) (run : List β) :
    Yields E (fun _ => True) (p.push lt total run) := by
  unfold push
  split
  · exact yields_ok.mpr trivial
  · exact yields_bind_pure (yields_collapse hlt _ _ _) _

lemma yields_pushAll (total : Nat) (p : Pile β) (xs : List β) :
    Yields E (fun _ => True) (pushAll lt total p xs) := by
  fun_induction pushAll with
  | case1 => exact yields_ok.mpr trivial
  | case2 p a r ih =>
    refine (yields_firstRun hlt _ a r).bind fun run _ _ => ?_
    exact (yields_push hlt total p run).bind fun p' _ _ => ih run p'

lemma yields_mergeAll (threshold : Nat) (runs : List (Waiting β)) :
    Yields E (fun _ => True) (mergeAll lt threshold runs) := by
  fun_induction mergeAll with
  | case1 => exact yields_ok.mpr trivial
  | case2 => exact yields_ok.mpr trivial
  | case3 => exact yields_bind_pure (yields_merge hlt _ _ _) _
  | case4 threshold last previous first rest hlonger ih =>
    exact (yields_merge hlt _ _ _).bind fun r _ _ => ih r.1 r.2
  | case5 threshold last previous first rest hlonger ih =>
    exact (yields_merge hlt _ _ _).bind fun r _ _ => ih r.1 r.2

end Pile

/-- A sort fails only as its comparison does. -/
lemma yields_sort (xs : List β) : Yields E (fun _ => True) (sort lt xs) :=
  (Pile.yields_pushAll hlt _ _ xs).bind fun _ _ _ => Pile.yields_mergeAll hlt _ _

end Metrology.Sorting
