import Metrology.Proofs.Sorting.Merge

/-!
# The sort is stable

Whatever the order in which runs are merged, the runs that wait have the elements seen so far, those
with one key in the order in which they stood. So a sort ends with the list in ascending order, ties
as they were, or with a fault of the comparison. A sort that ends well has linked all elements of
the list by comparisons: they are of one class.
-/

namespace Metrology.Sorting

variable {β γ δ ε : Type} [LinearOrder γ] {E : ε → Prop} {f : β → γ} {g : β → δ} {P : β → Prop}
  {lt : β → β → Except ε Bool}

/-- A run as it waits to be merged. -/
structure Settled (f : β → γ) (g : β → δ) (run : List β) : Prop where
  ne_nil : run ≠ []
  ascends : Ascends f run
  ofOneClass : OfOneClass g run

lemma IsRun.settled {xs run : List β} (h : IsRun f g xs run) : Settled f g run :=
  ⟨h.ne_nil, h.sorts.ascends, h.ofOneClass⟩

lemma OfOneClass.append {left right : List β} {x y : β} (hleft : OfOneClass g left)
    (hright : OfOneClass g right) (hx : x ∈ left) (hy : y ∈ right) (hyx : g y = g x) :
    OfOneClass g (left ++ right) := by
  refine .of_forall (List.forall_mem_append.mpr ⟨fun z hz => hleft z hz x hx, fun z hz => ?_⟩)
  exact (hright z hz y hy).trans hyx

lemma OfOneClass.of_keepsTies {xs ys : List β} (h : OfOneClass g xs) (hties : KeepsTies f xs ys) :
    OfOneClass g ys := fun a ha b hb => h a (hties.mem_iff.mp ha) b (hties.mem_iff.mp hb)

section

variable (hlt : Compares E P g f lt)

include hlt

lemma merge_settled {left right : List β} (hP : ∀ z ∈ left ++ right, P z)
    (hleft : Settled f g left) (hright : Settled f g right) (threshold : Nat) :
    Yields E (fun r => KeepsTies f (left ++ right) r.1 ∧ Settled f g r.1)
      (merge lt left right threshold) := by
  refine (merge_sorts hlt hP hleft.ascends hright.ascends hright.ne_nil threshold).mono
    (fun _ h => h) fun r hmerge => ?_
  obtain ⟨hsorts, hlinked⟩ := hmerge
  refine ⟨hsorts.keepsTies, ?_, hsorts.ascends, ?_⟩
  · intro hnil
    have hlength := hsorts.keepsTies.length_eq
    rw [hnil, List.length_append] at hlength
    exact hleft.ne_nil (List.length_eq_zero_iff.mp (Nat.add_eq_zero_iff.mp hlength.symm).1)
  · obtain ⟨x, hx, y, hy, hyx⟩ := hlinked hleft.ne_nil
    exact (hleft.ofOneClass.append hright.ofOneClass hx hy hyx).of_keepsTies hsorts.keepsTies

namespace Pile

omit hlt

/-- The elements of all waiting runs, as the runs stand in the list. -/
def contents : List (Waiting β) → List β
  | [] => []
  | w :: ws => contents ws ++ w.run

@[simp] lemma contents_nil : contents ([] : List (Waiting β)) = [] := rfl

@[simp] lemma contents_cons (w : Waiting β) (ws : List (Waiting β)) :
    contents (w :: ws) = contents ws ++ w.run := rfl

/-- Every waiting run is settled, and together they have the elements of the list. -/
structure Holds (f : β → γ) (g : β → δ) (xs : List β) (runs : List (Waiting β)) : Prop where
  settled : ∀ w ∈ runs, Settled f g w.run
  keepsTies : KeepsTies f xs (contents runs)

variable {xs ys run : List β} {last previous first : Waiting β} {rest : List (Waiting β)}

lemma Holds.nil : Holds f g ([] : List β) [] := ⟨by simp, .refl []⟩

lemma Holds.cons (h : Holds f g xs rest) (start depth : Nat) (hties : KeepsTies f ys run)
    (hrun : Settled f g run) : Holds f g (xs ++ ys) (⟨run, start, depth⟩ :: rest) where
  settled := List.forall_mem_cons.mpr ⟨hrun, h.settled⟩
  keepsTies := h.keepsTies.append hties

/-- The last two runs merged. -/
lemma Holds.merged (h : Holds f g xs (last :: previous :: rest))
    (hties : KeepsTies f (previous.run ++ last.run) run) (hrun : Settled f g run) :
    Holds f g xs ({ previous with run } :: rest) := by
  obtain ⟨-, hsettled⟩ := List.forall_mem_cons.mp h.settled
  obtain ⟨-, hrest⟩ := List.forall_mem_cons.mp hsettled
  refine ⟨List.forall_mem_cons.mpr ⟨hrun, hrest⟩, h.keepsTies.trans ?_⟩
  simpa using (KeepsTies.refl (contents rest)).append hties

/-- The two runs in front of the last one merged. -/
lemma Holds.merged_before (h : Holds f g xs (last :: previous :: first :: rest))
    (hties : KeepsTies f (first.run ++ previous.run) run) (hrun : Settled f g run) :
    Holds f g xs (last :: { first with run } :: rest) := by
  obtain ⟨hlast, hsettled⟩ := List.forall_mem_cons.mp h.settled
  have hbefore : Holds f g _ (previous :: first :: rest) := ⟨hsettled, .refl _⟩
  have hmerged := (hbefore.merged hties hrun).cons last.start last.depth (.refl last.run) hlast
  exact ⟨hmerged.settled, h.keepsTies.trans hmerged.keepsTies⟩

lemma Holds.forall_mem_run (h : Holds f g xs rest) (hP : ∀ x ∈ xs, P x) :
    ∀ w ∈ rest, ∀ z ∈ w.run, P z := by
  have hall := h.keepsTies.forall_mem hP
  clear h
  induction rest with
  | nil => simp
  | cons w ws ih =>
    rw [contents_cons, List.forall_mem_append] at hall
    exact List.forall_mem_cons.mpr ⟨hall.2, ih hall.1⟩

include hlt

/-- Two of the waiting runs merged. -/
lemma merge_of_mem (hP : ∀ x ∈ xs, P x) {runs : List (Waiting β)} (h : Holds f g xs runs)
    (hprevious : previous ∈ runs) (hlast : last ∈ runs) (threshold : Nat) :
    Yields E (fun r => KeepsTies f (previous.run ++ last.run) r.1 ∧ Settled f g r.1)
      (merge lt previous.run last.run threshold) :=
  merge_settled hlt (List.forall_mem_append.mpr
    ⟨h.forall_mem_run hP previous hprevious, h.forall_mem_run hP last hlast⟩)
    (h.settled previous hprevious) (h.settled last hlast) threshold

lemma collapse_holds (hP : ∀ x ∈ xs, P x) {runs : List (Waiting β)} (h : Holds f g xs runs)
    (depth threshold : Nat) :
    Yields E (fun p => Holds f g xs p.runs) (collapse lt depth threshold runs) := by
  fun_induction collapse with
  | case1 threshold last previous rest hdepth ih =>
    refine (merge_of_mem hlt hP h (by simp) (by simp) threshold).bind fun r _ hmerge => ?_
    obtain ⟨hties, hrun⟩ := hmerge
    exact ih r.1 r.2 (h.merged hties hrun)
  | case2 => exact yields_ok.mpr h
  | case3 => exact yields_ok.mpr h

lemma push_holds (hP : ∀ x ∈ xs, P x) {p : Pile β} (h : Holds f g xs p.runs) (total : Nat)
    (hties : KeepsTies f ys run) (hrun : Settled f g run) :
    Yields E (fun p' => Holds f g (xs ++ ys) p'.runs) (p.push lt total run) := by
  unfold push
  split
  · next hruns =>
    rw [hruns] at h
    exact yields_ok.mpr (h.cons 0 0 hties hrun)
  · exact (collapse_holds hlt hP h _ _).bind fun p' _ hp' =>
      yields_ok.mpr (hp'.cons _ _ hties hrun)

lemma pushAll_holds {rest : List β} (hP : ∀ x ∈ xs ++ rest, P x) {p : Pile β}
    (h : Holds f g xs p.runs) (total : Nat) :
    Yields E (fun p' => Holds f g (xs ++ rest) p'.runs) (pushAll lt total p rest) := by
  fun_induction pushAll generalizing xs with
  | case1 => simpa using h
  | case2 p a r ih =>
    obtain ⟨hPxs, hPrest⟩ := List.forall_mem_append.mp hP
    refine (firstRun_isRun hlt _ a r hPrest).bind fun run _ hrun => ?_
    refine (push_holds hlt hPxs h total hrun.sorts.keepsTies hrun.settled).bind fun p' _ hp' => ?_
    have hparts : xs ++ (a :: r).take run.length ++ r.drop (run.length - 1) = xs ++ a :: r := by
      rw [hrun.drop_pred_eq, List.append_assoc, List.take_append_drop]
    rw [← hparts] at hP ⊢
    exact ih run p' hP hp'

lemma mergeAll_sorts (hP : ∀ x ∈ xs, P x) {runs : List (Waiting β)} (h : Holds f g xs runs)
    (threshold : Nat) :
    Yields E (fun ys => Sorts f xs ys ∧ OfOneClass g ys) (mergeAll lt threshold runs) := by
  fun_induction mergeAll with
  | case1 => exact yields_ok.mpr ⟨⟨.nil, h.keepsTies⟩, by simp [OfOneClass]⟩
  | case2 threshold w =>
    have hw := h.settled w (by simp)
    exact yields_ok.mpr ⟨⟨hw.ascends, by simpa using h.keepsTies⟩, hw.ofOneClass⟩
  | case3 threshold last previous =>
    refine (merge_of_mem hlt hP h (by simp) (by simp) threshold).bind fun r _ hmerge => ?_
    obtain ⟨hties, hrun⟩ := hmerge
    have hmerged := (h.merged hties hrun).keepsTies
    exact yields_ok.mpr ⟨⟨hrun.ascends, by simpa using hmerged⟩, hrun.ofOneClass⟩
  | case4 threshold last previous first rest hlonger ih =>
    refine (merge_of_mem hlt hP h (by simp) (by simp) threshold).bind fun r _ hmerge => ?_
    obtain ⟨hties, hrun⟩ := hmerge
    exact ih r.1 r.2 (h.merged_before hties hrun)
  | case5 threshold last previous first rest hlonger ih =>
    refine (merge_of_mem hlt hP h (by simp) (by simp) threshold).bind fun r _ hmerge => ?_
    obtain ⟨hties, hrun⟩ := hmerge
    exact ih r.1 r.2 (h.merged hties hrun)

end Pile

/-- A sort puts the list in ascending order and leaves ties as they were, or the comparison fails.
A list that could be sorted is of one class. -/
lemma sort_sorts {xs : List β} (hP : ∀ x ∈ xs, P x) :
    Yields E (fun ys => Sorts f xs ys ∧ OfOneClass g xs) (sort lt xs) := by
  refine (Pile.pushAll_holds hlt (by simpa using hP) .nil xs.length).bind fun p _ hp => ?_
  refine (Pile.mergeAll_sorts hlt hP hp _).mono (fun _ h => h) fun ys hall => ?_
  obtain ⟨hsorts, hclass⟩ := hall
  refine ⟨hsorts, ?_⟩
  exact fun a ha b hb =>
    hclass a (hsorts.keepsTies.mem_iff.mpr ha) b (hsorts.keepsTies.mem_iff.mpr hb)

end

end Metrology.Sorting
