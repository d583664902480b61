import Metrology.Proofs.Sorting.Faults
import Metrology.Proofs.Sorting.Order

/-!
# Searches and runs

A search finds how many elements of a list pass a test that holds for a beginning of the list. The
run at the beginning of a list is a beginning of it, sorted. Every element of a run has been
compared with another one, so if only elements of one class can be compared, a run is of one class.
-/

namespace Metrology.Sorting

variable {β γ δ ε : Type} {E : ε → Prop}

/-! ### Searching -/

section Search

variable {e : End} {passes : β → Except ε Bool} {xs : List β} {q T : β → Prop}
  (hq : xs.Pairwise fun a b => q b → q a)
  (hpasses : ∀ x ∈ xs, Yields E (fun c => T x ∧ (c = true ↔ q x)) (passes x))

include hq hpasses

/-- What is known of the elements in front of `lo` and behind `hi` becomes known of all. -/
lemma search_cuts (lo hi : Nat) (h : hi ≤ xs.length) (hle : lo ≤ hi)
    (hfront : ∀ x ∈ xs.take lo, q x) (hback : ∀ x ∈ xs.drop hi, ¬ q x) :
    Yields E (fun n => Cuts q xs n ∧ (lo < hi → ∃ x ∈ xs, T x)) (search e passes xs lo hi h) := by
  fun_induction search with
  | case1 lo hi h hlo mid le_mid mid_lt hmid ih1 ih2 =>
    refine (hpasses _ (List.getElem_mem hmid)).bind fun c _ htest => ?_
    obtain ⟨hT, hc⟩ := htest
    have hasked : lo < hi → ∃ x ∈ xs, T x := fun _ => ⟨_, List.getElem_mem hmid, hT⟩
    split
    · next hpass =>
      have hmid' := forall_mem_take hq hmid (hc.mp hpass)
      exact (ih1 mid_lt hmid' hback).mono (fun _ h => h) fun n hn => ⟨hn.1, hasked⟩
    · next hfail =>
      have hmid' := forall_mem_drop hq hmid (mt hc.mpr hfail)
      exact (ih2 le_mid hfront hmid').mono (fun _ h => h) fun n hn => ⟨hn.1, hasked⟩
  | case2 lo hi h hlo =>
    obtain rfl : lo = hi := by omega
    exact yields_ok.mpr ⟨⟨hfront, hback⟩, fun h => absurd h hlo⟩

lemma bisect_cuts :
    Yields E (fun n => Cuts q xs n ∧ (xs ≠ [] → ∃ x ∈ xs, T x)) (bisect e passes xs) := by
  have hsearch := search_cuts (e := e) hq hpasses 0 xs.length (Nat.le_refl _) (Nat.zero_le _)
    (by simp) (by simp)
  exact hsearch.mono (fun _ h => h) fun n hn =>
    ⟨hn.1, fun hne => hn.2 (List.length_pos_iff.mpr hne)⟩

lemma widen_cuts (known next : Nat) (hknown : known < next) (hlength : known < xs.length)
    (hfront : ∀ x ∈ xs.take (known + 1), q x) :
    Yields E (Cuts q xs) (widen e passes xs known next) := by
  fun_induction widen with
  | case1 known next hnext ih =>
    refine (hpasses _ (List.getElem_mem hnext)).bind fun c _ htest => ?_
    obtain ⟨-, hc⟩ := htest
    split
    · next hpass =>
      exact ih (by omega) hnext (forall_mem_take hq hnext (hc.mp hpass))
    · next hfail =>
      have hback := forall_mem_drop hq hnext (mt hc.mpr hfail)
      exact (search_cuts hq hpasses _ _ _ hknown hfront hback).mono (fun _ h => h) fun n hn => hn.1
  | case2 known next hnext =>
    exact (search_cuts hq hpasses _ _ _ hlength hfront (by simp)).mono (fun _ h => h)
      fun n hn => hn.1

lemma gallop_cuts :
    Yields E (fun n => Cuts q xs n ∧ (xs ≠ [] → ∃ x ∈ xs, T x)) (gallop e passes xs) := by
  unfold gallop
  split
  · exact yields_ok.mpr ⟨⟨by simp, by simp⟩, fun h => absurd rfl h⟩
  · next x r =>
    refine (hpasses x List.mem_cons_self).bind fun c _ htest => ?_
    obtain ⟨hT, hc⟩ := htest
    have hasked : x :: r ≠ [] → ∃ y ∈ x :: r, T y := fun _ => ⟨x, List.mem_cons_self, hT⟩
    split
    · next hpass =>
      exact (widen_cuts hq hpasses 0 1 Nat.one_pos (by simp) (by simpa using hc.mp hpass)).mono
        (fun _ h => h) fun n hn => ⟨hn, hasked⟩
    · next hfail =>
      have hback := forall_mem_drop hq (i := 0) (by simp) (mt hc.mpr hfail)
      exact yields_ok.mpr ⟨⟨by simp, hback⟩, hasked⟩

end Search

/-! ### Comparisons -/

variable [LinearOrder γ] {f : β → γ} {g : β → δ} {P : β → Prop} {lt : β → β → Except ε Bool}

/-- Two elements of the kind `P` are compared by their keys, and only if they are of one class; or
the comparison fails. -/
def Compares (E : ε → Prop) (P : β → Prop) (g : β → δ) (f : β → γ)
    (lt : β → β → Except ε Bool) : Prop :=
  ∀ a b, P a → P b → Yields E (fun c => g a = g b ∧ (c = true ↔ f a < f b)) (lt a b)

/-- All elements are of one class. -/
def OfOneClass (g : β → δ) (l : List β) : Prop := ∀ a ∈ l, ∀ b ∈ l, g a = g b

lemma OfOneClass.of_forall {l : List β} {a : β} (h : ∀ b ∈ l, g b = g a) : OfOneClass g l :=
  fun b hb c hc => (h b hb).trans (h c hc).symm

/-- The opposite answer of a comparison. -/
lemma Compares.not (hlt : Compares E P g f lt) {a b : β} (ha : P a) (hb : P b) :
    Yields E (fun c => g a = g b ∧ (c = true ↔ f b ≤ f a)) (do return !(← lt a b)) :=
  (hlt a b ha hb).bind fun c _ h => yields_ok.mpr ⟨h.1, by rw [Bool.not_eq_true', ← not_lt, ← h.2,
    Bool.not_eq_true]⟩

/-- Where a list ascends, the elements below a key stand in front. -/
lemma Ascends.antitone_le {l : List β} (h : Ascends f l) (k : γ) :
    l.Pairwise fun a b => f b ≤ k → f a ≤ k :=
  h.imp fun hab hb => hab.trans hb

lemma Ascends.antitone_lt {l : List β} (h : Ascends f l) (k : γ) :
    l.Pairwise fun a b => f b < k → f a < k :=
  h.imp fun hab hb => hab.trans_lt hb

/-! ### Runs -/

variable (hlt : Compares E P g f lt)

include hlt

lemma takeUp_ascends (a : β) (r : List β) (h : ∀ x ∈ a :: r, P x) :
    Yields E (fun up => up <+: r ∧ Ascends f (a :: up) ∧ ∀ x ∈ up, g x = g a) (takeUp lt a r) := by
  induction r generalizing a with
  | nil => exact yields_ok.mpr ⟨List.prefix_rfl, List.pairwise_singleton _ a, by simp⟩
  | cons b r ih =>
    obtain ⟨ha, hr⟩ := List.forall_mem_cons.mp h
    rw [takeUp]
    refine (hlt b a (hr b List.mem_cons_self) ha).bind fun c _ hcompared => ?_
    obtain ⟨hclass, hc⟩ := hcompared
    split
    · exact yields_ok.mpr ⟨List.nil_prefix, List.pairwise_singleton _ a, by simp⟩
    · next hfail =>
      have hab : f a ≤ f b := not_lt.mp (mt hc.mpr hfail)
      refine (ih b hr).bind fun up _ hrun => ?_
      obtain ⟨hstart, hup, hclasses⟩ := hrun
      refine yields_ok.mpr ⟨?_, ?_, ?_⟩
      · exact List.cons_prefix_cons.mpr ⟨rfl, hstart⟩
      · refine List.pairwise_cons.mpr ⟨List.forall_mem_cons.mpr ⟨hab, fun x hx => ?_⟩, hup⟩
        exact hab.trans ((List.pairwise_cons.mp hup).1 x hx)
      · exact List.forall_mem_cons.mpr ⟨hclass, fun x hx => (hclasses x hx).trans hclass⟩

lemma takeDown_descends (a : β) (r : List β) (h : ∀ x ∈ a :: r, P x) :
    Yields E (fun down => down <+: r ∧ (a :: down).Pairwise (fun x y => f y < f x) ∧
      ∀ x ∈ down, g x = g a) (takeDown lt a r) := by
  induction r generalizing a with
  | nil => exact yields_ok.mpr ⟨List.prefix_rfl, List.pairwise_singleton _ a, by simp⟩
  | cons b r ih =>
    obtain ⟨ha, hr⟩ := List.forall_mem_cons.mp h
    rw [takeDown]
    refine (hlt b a (hr b List.mem_cons_self) ha).bind fun c _ hcompared => ?_
    obtain ⟨hclass, hc⟩ := hcompared
    split
    · next hpass =>
      have hba : f b < f a := hc.mp hpass
      refine (ih b hr).bind fun down _ hrun => ?_
      obtain ⟨hstart, hdown, hclasses⟩ := hrun
      refine yields_ok.mpr ⟨?_, ?_, ?_⟩
      · exact List.cons_prefix_cons.mpr ⟨rfl, hstart⟩
      · refine List.pairwise_cons.mpr ⟨List.forall_mem_cons.mpr ⟨hba, fun x hx => ?_⟩, hdown⟩
        exact ((List.pairwise_cons.mp hdown).1 x hx).trans hba
      · exact List.forall_mem_cons.mpr ⟨hclass, fun x hx => (hclasses x hx).trans hclass⟩
    · exact yields_ok.mpr ⟨List.nil_prefix, List.pairwise_singleton _ a, by simp⟩

omit hlt in
/-- A run: some elements at the beginning of the list, sorted, and all of one class. -/
structure IsRun (f : β → γ) (g : β → δ) (xs run : List β) : Prop where
  ne_nil : run ≠ []
  sorts : Sorts f (xs.take run.length) run
  ofOneClass : OfOneClass g run

omit hlt in
/-- What stands behind a run in the list. -/
lemma IsRun.drop_pred_eq {a : β} {r run : List β} (h : IsRun f g (a :: r) run) :
    r.drop (run.length - 1) = (a :: r).drop run.length := by
  obtain ⟨b, l, rfl⟩ := List.exists_cons_of_ne_nil h.ne_nil
  simp

lemma naturalRun_isRun (a : β) (r : List β) (h : ∀ x ∈ a :: r, P x) :
    Yields E (IsRun f g (a :: r)) (naturalRun lt a r) := by
  unfold naturalRun
  split
  · exact yields_ok.mpr ⟨List.cons_ne_nil _ _, .of_ascends (List.pairwise_singleton _ a),
      .of_forall (a := a) (by simp)⟩
  · next b r =>
    obtain ⟨ha, hr⟩ := List.forall_mem_cons.mp h
    refine (hlt b a (hr b List.mem_cons_self) ha).bind fun c _ hcompared => ?_
    obtain ⟨hclass, hc⟩ := hcompared
    split
    · next hpass =>
      refine (takeDown_descends hlt b r hr).bind fun down _ hrun => ?_
      obtain ⟨hstart, hdown, hclasses⟩ := hrun
      have hba : f b < f a := hc.mp hpass
      have hstrict : (a :: b :: down).Pairwise fun x y => f y < f x :=
        List.pairwise_cons.mpr ⟨List.forall_mem_cons.mpr ⟨hba, fun x hx =>
          ((List.pairwise_cons.mp hdown).1 x hx).trans hba⟩, hdown⟩
      have htake : (a :: b :: r).take (a :: b :: down).reverse.length = a :: b :: down := by
        rw [List.length_reverse]
        exact (List.prefix_iff_eq_take.mp (by simpa using hstart)).symm
      have hall : ∀ x ∈ a :: b :: down, g x = g b :=
        List.forall_mem_cons.mpr ⟨hclass.symm, List.forall_mem_cons.mpr ⟨rfl, hclasses⟩⟩
      refine yields_ok.mpr ⟨by simp, ?_, .of_forall fun x hx => hall x (List.mem_reverse.mp hx)⟩
      rw [htake]
      exact ⟨List.pairwise_reverse.mpr (hstrict.imp le_of_lt), .reverse hstrict⟩
    · next hfail =>
      refine (takeUp_ascends hlt b r hr).bind fun up _ hrun => ?_
      obtain ⟨hstart, hup, hclasses⟩ := hrun
      have hab : f a ≤ f b := not_lt.mp (mt hc.mpr hfail)
      have hascends : Ascends f (a :: b :: up) :=
        List.pairwise_cons.mpr ⟨List.forall_mem_cons.mpr ⟨hab, fun x hx =>
          hab.trans ((List.pairwise_cons.mp hup).1 x hx)⟩, hup⟩
      have htake : (a :: b :: r).take (a :: b :: up).length = a :: b :: up :=
        (List.prefix_iff_eq_take.mp (by simpa using hstart)).symm
      have hall : ∀ x ∈ a :: b :: up, g x = g b :=
        List.forall_mem_cons.mpr ⟨hclass.symm, List.forall_mem_cons.mpr ⟨rfl, hclasses⟩⟩
      refine yields_ok.mpr ⟨by simp, ?_, .of_forall hall⟩
      rw [htake]
      exact .of_ascends hascends

/-! ### Lengthening a run -/

lemma insert_sorts {run : List β} {x : β} (hx : P x) (hP : ∀ y ∈ run, P y) (hrun : Ascends f run)
    (hne : run ≠ []) (hclass : OfOneClass g run) :
    Yields E (fun l => Sorts f (run ++ [x]) l ∧ OfOneClass g l) (insert lt run x) := by
  unfold insert
  refine (bisect_cuts (hrun.antitone_le (f x)) fun y hy => hlt.not hx (hP y hy)).bind
    fun i _ hplace => ?_
  obtain ⟨hcuts, hasked⟩ := hplace
  refine yields_ok.mpr ?_
  have hrest : Sorts f (run.drop i ++ []) (run.drop i) := by
    simpa using Sorts.of_ascends hrun.drop
  have hsorts := hcuts.insert_right hrun (List.pairwise_singleton _ x) hrest
  obtain ⟨y, hy, hxy⟩ := hasked hne
  refine ⟨hsorts, .of_forall (a := y) (hsorts.keepsTies.forall_mem ?_)⟩
  exact List.forall_mem_append.mpr ⟨fun z hz => hclass z hz y hy, by simpa using hxy⟩

lemma foldlM_insert_sorts {run xs : List β} (hP : ∀ y ∈ run ++ xs, P y) (hrun : Ascends f run)
    (hne : run ≠ []) (hclass : OfOneClass g run) :
    Yields E (fun l => Sorts f (run ++ xs) l ∧ OfOneClass g l) (xs.foldlM (insert lt) run) := by
  induction xs generalizing run with
  | nil => exact yields_ok.mpr ⟨by simpa using .of_ascends hrun, hclass⟩
  | cons x xs ih =>
    obtain ⟨hPrun, hPxxs⟩ := List.forall_mem_append.mp hP
    obtain ⟨hPx, hPxs⟩ := List.forall_mem_cons.mp hPxxs
    refine (insert_sorts hlt hPx hPrun hrun hne hclass).bind fun l _ hinserted => ?_
    obtain ⟨hl, hlclass⟩ := hinserted
    have hPl : ∀ y ∈ l ++ xs, P y := List.forall_mem_append.mpr
      ⟨hl.keepsTies.forall_mem (List.forall_mem_append.mpr ⟨hPrun, by simpa using hPx⟩), hPxs⟩
    have hlne : l ≠ [] := fun h => by simpa [h] using hl.keepsTies.length_eq
    refine (ih hPl hl.ascends hlne hlclass).mono (fun _ h => h) fun l' hl' => ⟨?_, hl'.2⟩
    rw [List.append_cons]
    exact .keepsTies_trans (hl.keepsTies.append (.refl xs)) hl'.1

omit hlt in
/-- A run with some of the elements behind it put into their places is a run. -/
lemma IsRun.lengthen {xs run ys l : List β} (h : IsRun f g xs run)
    (hys : ys <+: xs.drop run.length) (hl : Sorts f (run ++ ys) l) (hclass : OfOneClass g l) :
    IsRun f g xs l := by
  have hlength : l.length = run.length + ys.length := by
    rw [hl.keepsTies.length_eq, List.length_append]
  refine ⟨?_, ?_, hclass⟩
  · rintro rfl
    have hpos := List.length_pos_iff.mpr h.ne_nil
    simp at hlength
    omega
  · rw [hlength, List.take_add, ← List.prefix_iff_eq_take.mp hys]
    exact .keepsTies_trans (h.sorts.keepsTies.append (.refl ys)) hl

lemma firstRun_isRun (least : Nat) (a : β) (r : List β) (h : ∀ x ∈ a :: r, P x) :
    Yields E (IsRun f g (a :: r)) (firstRun lt least a r) := by
  unfold firstRun
  refine (naturalRun_isRun hlt a r h).bind fun run _ hrun => ?_
  rw [hrun.drop_pred_eq]
  have hys : ((a :: r).drop run.length).take (least - run.length) <+: (a :: r).drop run.length :=
    List.take_prefix _ _
  have hP : ∀ y ∈ run ++ ((a :: r).drop run.length).take (least - run.length), P y :=
    List.forall_mem_append.mpr ⟨
      hrun.sorts.keepsTies.forall_mem fun y hy => h y (List.mem_of_mem_take hy),
      fun y hy => h y (List.mem_of_mem_drop (List.mem_of_mem_take hy))⟩
  exact (foldlM_insert_sorts hlt hP hrun.sorts.ascends hrun.ne_nil hrun.ofOneClass).mono
    (fun _ h => h) fun l hl => hrun.lengthen hys hl.1 hl.2

end Metrology.Sorting
