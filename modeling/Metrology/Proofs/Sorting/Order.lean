import Mathlib

/-!
# Lists in ascending order

A list is sorted by a key if it ascends and elements with one key stand as they stood before. What
is put together from sorted parts is sorted, provided that each part that moves to the front moves
past elements with other keys only.
-/

namespace Metrology.Sorting

variable {β γ : Type} [LinearOrder γ] {f : β → γ}

/-- The keys of the elements never go down. -/
def Ascends (f : β → γ) (l : List β) : Prop := l.Pairwise fun a b => f a ≤ f b

/-- Both lists have the same elements with any one key, in the same order. -/
def KeepsTies (f : β → γ) (xs ys : List β) : Prop :=
  ∀ k, ys.filter (fun a => f a = k) = xs.filter (fun a => f a = k)

/-- The second list is the first one in ascending order, elements with one key in the order in which
they stood. -/
structure Sorts (f : β → γ) (xs ys : List β) : Prop where
  ascends : Ascends f ys
  keepsTies : KeepsTies f xs ys

lemma Ascends.le_getLast {l : List β} (h : Ascends f l) : ∀ x ∈ l.getLast?, ∀ z ∈ l, f z ≤ f x := by
  intro x hx z hz
  obtain ⟨l, rfl⟩ := List.getLast?_eq_some_iff.mp hx
  rcases List.mem_append.mp hz with hz | hz
  · exact (List.pairwise_append.mp h).2.2 z hz x List.mem_cons_self
  · rw [List.mem_singleton.mp hz]

/-! ### Elements with one key -/

namespace KeepsTies

variable {xs ys zs : List β}

lemma refl (xs : List β) : KeepsTies f xs xs := fun _ => rfl

lemma trans (h : KeepsTies f xs ys) (h' : KeepsTies f ys zs) : KeepsTies f xs zs :=
  fun k => (h' k).trans (h k)

lemma append {xs' ys' : List β} (h : KeepsTies f xs ys) (h' : KeepsTies f xs' ys') :
    KeepsTies f (xs ++ xs') (ys ++ ys') := by
  intro k
  rw [List.filter_append, List.filter_append, h k, h' k]

/-- Two parts whose elements have different keys may change places. -/
lemma swap (h : ∀ a ∈ xs, ∀ b ∈ ys, f a ≠ f b) : KeepsTies f (xs ++ ys) (ys ++ xs) := by
  intro k
  rw [List.filter_append, List.filter_append]
  by_cases hk : ∃ a ∈ xs, f a = k
  · obtain ⟨a, ha, rfl⟩ := hk
    have hnone : ys.filter (fun b => f b = f a) = [] := by
      rw [List.filter_eq_nil_iff]
      intro b hb
      simpa using (h a ha b hb).symm
    rw [hnone, List.append_nil, List.nil_append]
  · have hnone : xs.filter (fun a => f a = k) = [] := by
      rw [List.filter_eq_nil_iff]
      intro a ha hak
      exact hk ⟨a, ha, of_decide_eq_true hak⟩
    rw [hnone, List.append_nil, List.nil_append]

lemma mem_iff (h : KeepsTies f xs ys) {a : β} : a ∈ ys ↔ a ∈ xs := by
  have hmem : ∀ l : List β, a ∈ l ↔ a ∈ l.filter (fun b => f b = f a) := by simp
  rw [hmem, h, ← hmem]

lemma perm (h : KeepsTies f xs ys) : ys.Perm xs := by
  classical
  rw [List.perm_iff_count]
  intro a
  have hcount : ∀ l : List β, l.count a = (l.filter (fun b => f b = f a)).count a := fun l =>
    (List.count_filter (by simp)).symm
  rw [hcount, h, ← hcount]

lemma length_eq (h : KeepsTies f xs ys) : ys.length = xs.length := h.perm.length_eq

lemma forall_mem {P : β → Prop} (h : KeepsTies f xs ys) (hxs : ∀ a ∈ xs, P a) : ∀ a ∈ ys, P a :=
  fun a ha => hxs a (h.mem_iff.mp ha)

/-- What a test that holds at one key at most lets through. -/
lemma filter_eq {p : β → Bool} {q : Prop} {k : γ} (h : KeepsTies f xs ys)
    (hp : ∀ a ∈ xs, p a = true ↔ q ∧ f a = k) : ys.filter p = xs.filter p := by
  by_cases hq : q
  · have hkey : ∀ a ∈ xs, p a = decide (f a = k) := fun a ha =>
      Bool.eq_iff_iff.mpr (by rw [hp a ha, decide_eq_true_iff, and_iff_right hq])
    rw [List.filter_congr hkey, List.filter_congr (h.forall_mem hkey), h k]
  · have hnone : ∀ a ∈ xs, ¬ p a = true := fun a ha hpa => hq ((hp a ha).mp hpa).1
    rw [List.filter_eq_nil_iff.mpr hnone, List.filter_eq_nil_iff.mpr (h.forall_mem hnone)]

/-- A list that goes strictly down has no two elements with one key. -/
lemma reverse (h : xs.Pairwise fun a b => f b < f a) : KeepsTies f xs xs.reverse := by
  induction xs with
  | nil => exact refl []
  | cons a xs ih =>
    obtain ⟨ha, hxs⟩ := List.pairwise_cons.mp h
    rw [List.reverse_cons]
    refine ((refl [a]).append (ih hxs)).trans (swap ?_)
    intro b hb c hc
    rw [List.mem_singleton.mp hb]
    exact (ha c (List.mem_reverse.mp hc)).ne'

end KeepsTies

/-! ### Sorted lists -/

namespace Sorts

variable {xs ys zs front rest start stop m : List β} {x y : β}

lemma of_ascends (h : Ascends f xs) : Sorts f xs xs := ⟨h, .refl xs⟩

/-- Sorted parts, one behind the other, are sorted if no key of the second part is smaller. -/
lemma append {xs' ys' : List β} (h : Sorts f xs ys) (h' : Sorts f xs' ys')
    (hle : ∀ a ∈ xs, ∀ b ∈ xs', f a ≤ f b) : Sorts f (xs ++ xs') (ys ++ ys') where
  ascends := List.pairwise_append.mpr ⟨h.ascends, h'.ascends, fun a ha b hb =>
    hle a (h.keepsTies.mem_iff.mp ha) b (h'.keepsTies.mem_iff.mp hb)⟩
  keepsTies := h.keepsTies.append h'.keepsTies

lemma cons (h : Sorts f xs ys) (hle : ∀ b ∈ xs, f x ≤ f b) : Sorts f (x :: xs) (x :: ys) :=
  (of_ascends (List.pairwise_singleton _ x)).append h
    (by simpa using hle)

lemma keepsTies_trans (h : KeepsTies f xs ys) (h' : Sorts f ys zs) : Sorts f xs zs :=
  ⟨h'.ascends, h.trans h'.keepsTies⟩

/-- Of two parts of which all elements of the second have smaller keys the second comes first. -/
lemma swap (hxs : Ascends f xs) (hys : Ascends f ys) (hlt : ∀ a ∈ xs, ∀ b ∈ ys, f b < f a) :
    Sorts f (xs ++ ys) (ys ++ xs) :=
  keepsTies_trans (.swap fun a ha b hb => (hlt a ha b hb).ne')
    ((of_ascends hys).append (of_ascends hxs) fun b hb a ha => (hlt a ha b hb).le)

/-- What is sorted by a key remains so if the elements are replaced by others with the same keys. -/
lemma map {β' : Type} {g : β → β'} {f' : β' → γ} (h : Sorts f xs ys)
    (hf : ∀ a ∈ xs, f' (g a) = f a) : Sorts f' (xs.map g) (ys.map g) where
  ascends := by
    have hys := h.keepsTies.forall_mem hf
    refine List.pairwise_map.mpr (h.ascends.imp_of_mem fun ha hb hab => ?_)
    rw [hys _ ha, hys _ hb]
    exact hab
  keepsTies k := by
    have hkey : ∀ a ∈ xs, ((fun b => decide (f' b = k)) ∘ g) a = decide (f a = k) := by
      intro a ha
      rw [Function.comp_apply, hf a ha]
    rw [List.filter_map, List.filter_map, List.filter_congr hkey,
      List.filter_congr (h.keepsTies.forall_mem hkey), h.keepsTies k]

/-- Sorted in descending order of the key and read backwards. -/
lemma reverse (h : Sorts (OrderDual.toDual ∘ f) xs ys) : Sorts f xs.reverse ys.reverse where
  ascends := List.pairwise_reverse.mpr h.ascends
  keepsTies k := by
    rw [List.filter_reverse, List.filter_reverse]
    exact congrArg List.reverse (h.keepsTies (OrderDual.toDual k))

/-- The first element of the second list comes first if all keys of the first list are greater. -/
lemma cons_right (hxs : ∀ z ∈ xs, f y < f z) (hys : Ascends f (y :: ys))
    (hm : Sorts f (xs ++ ys) m) : Sorts f (xs ++ y :: ys) (y :: m) := by
  have hswap : KeepsTies f (xs ++ [y]) ([y] ++ xs) :=
    .swap (by simpa using fun z hz => (hxs z hz).ne')
  have hmove : KeepsTies f (xs ++ y :: ys) (y :: (xs ++ ys)) := by
    rw [List.append_cons]
    exact hswap.append (.refl ys)
  refine keepsTies_trans hmove (hm.cons ?_)
  exact List.forall_mem_append.mpr ⟨fun z hz => (hxs z hz).le, (List.pairwise_cons.mp hys).1⟩

/-- The first element of the first list comes first if no key of the second list is smaller. -/
lemma cons_left (hys : ∀ z ∈ ys, f x ≤ f z) (hxs : Ascends f (x :: xs))
    (hm : Sorts f (xs ++ ys) m) : Sorts f (x :: xs ++ ys) (x :: m) :=
  hm.cons (List.forall_mem_append.mpr ⟨(List.pairwise_cons.mp hxs).1, hys⟩)

/-- An element of the second list comes behind those elements of the first whose keys are not
greater, and in front of all others. -/
lemma insert_right (hfront : ∀ z ∈ front, f z ≤ f y) (hrest : ∀ z ∈ rest, f y < f z)
    (hxs : Ascends f (front ++ rest)) (hys : Ascends f (y :: ys)) (hm : Sorts f (rest ++ ys) m) :
    Sorts f (front ++ rest ++ y :: ys) (front ++ y :: m) := by
  obtain ⟨hascends, -, hle⟩ := List.pairwise_append.mp hxs
  have hy := (List.pairwise_cons.mp hys).1
  rw [List.append_assoc]
  refine (of_ascends hascends).append (cons_right hrest hys hm) fun a ha => ?_
  refine List.forall_mem_append.mpr ⟨hle a ha, List.forall_mem_cons.mpr ⟨hfront a ha, ?_⟩⟩
  exact fun b hb => (hfront a ha).trans (hy b hb)

/-- An element of the first list comes behind those elements of the second whose keys are smaller,
and in front of all others. -/
lemma insert_left (hfront : ∀ z ∈ front, f z < f x) (hrest : ∀ z ∈ rest, f x ≤ f z)
    (hxs : Ascends f (x :: xs)) (hys : Ascends f (front ++ rest)) (hm : Sorts f (xs ++ rest) m) :
    Sorts f (x :: xs ++ (front ++ rest)) (front ++ x :: m) := by
  obtain ⟨hascends, -, hle⟩ := List.pairwise_append.mp hys
  have hx := (List.pairwise_cons.mp hxs).1
  have hlt : ∀ a ∈ x :: xs, ∀ b ∈ front, f b < f a := List.forall_mem_cons.mpr
    ⟨hfront, fun a ha b hb => (hfront b hb).trans_le (hx a ha)⟩
  have hmove : KeepsTies f (x :: xs ++ (front ++ rest)) (front ++ (x :: xs ++ rest)) := by
    rw [← List.append_assoc, ← List.append_assoc]
    exact (KeepsTies.swap fun a ha b hb => (hlt a ha b hb).ne').append (.refl rest)
  refine keepsTies_trans hmove ((of_ascends hascends).append (cons_left hrest hxs hm) ?_)
  exact fun b hb => List.forall_mem_append.mpr ⟨fun a ha => (hlt a ha b hb).le, hle b hb⟩

/-- Of two lists, what is in place at either end may stay there. -/
lemma between (hxs : Ascends f (front ++ rest)) (hys : Ascends f (start ++ stop))
    (hfront : ∀ a ∈ front, ∀ b ∈ start ++ stop, f a ≤ f b)
    (hstop : ∀ a ∈ rest, ∀ b ∈ stop, f a ≤ f b) (hm : Sorts f (rest ++ start) m) :
    Sorts f (front ++ rest ++ (start ++ stop)) (front ++ m ++ stop) := by
  obtain ⟨hfront_ascends, -, hfront_rest⟩ := List.pairwise_append.mp hxs
  obtain ⟨-, hstop_ascends, hstart_stop⟩ := List.pairwise_append.mp hys
  have hbegin : Sorts f (front ++ (rest ++ start)) (front ++ m) :=
    (of_ascends hfront_ascends).append hm fun a ha => List.forall_mem_append.mpr
      ⟨hfront_rest a ha, fun b hb => hfront a ha b (List.mem_append_left _ hb)⟩
  have hall := hbegin.append (of_ascends hstop_ascends) <| List.forall_mem_append.mpr
    ⟨fun a ha b hb => hfront a ha b (List.mem_append_right _ hb),
      List.forall_mem_append.mpr ⟨hstop, hstart_stop⟩⟩
  simpa only [List.append_assoc] using hall

end Sorts

/-! ### The place in a list -/

/-- The first `n` elements pass a test, and none behind them does. -/
structure Cuts (q : β → Prop) (xs : List β) (n : Nat) : Prop where
  front : ∀ x ∈ xs.take n, q x
  back : ∀ x ∈ xs.drop n, ¬ q x

/-- A place counted from the end. -/
lemma Cuts.of_reverse {q : β → Prop} {xs : List β} {n : Nat} (h : Cuts q xs.reverse n) :
    Cuts (fun x => ¬ q x) xs (xs.length - n) where
  front x hx := h.back x (by rwa [List.drop_reverse, List.mem_reverse])
  back x hx := not_not_intro (h.front x (by rwa [List.take_reverse, List.mem_reverse]))

/-- An element of the second list is put at its place in the first one. -/
lemma Cuts.insert_right {xs ys m : List β} {y : β} {n : Nat} (h : Cuts (fun z => f z ≤ f y) xs n)
    (hxs : Ascends f xs) (hys : Ascends f (y :: ys)) (hm : Sorts f (xs.drop n ++ ys) m) :
    Sorts f (xs ++ y :: ys) (xs.take n ++ y :: m) := by
  rw [← List.take_append_drop n xs] at hxs
  have hinsert := Sorts.insert_right h.front (fun z hz => not_le.mp (h.back z hz)) hxs hys hm
  rwa [List.take_append_drop] at hinsert

/-- An element of the first list is put at its place in the second one. -/
lemma Cuts.insert_left {xs ys m : List β} {x : β} {n : Nat} (h : Cuts (fun z => f z < f x) ys n)
    (hxs : Ascends f (x :: xs)) (hys : Ascends f ys) (hm : Sorts f (xs ++ ys.drop n) m) :
    Sorts f (x :: xs ++ ys) (ys.take n ++ x :: m) := by
  rw [← List.take_append_drop n ys] at hys
  have hinsert := Sorts.insert_left h.front (fun z hz => not_lt.mp (h.back z hz)) hxs hys hm
  rwa [List.take_append_drop] at hinsert

section Cuts

variable {q : β → Prop} {xs : List β} {i : Nat} (hq : xs.Pairwise fun a b => q b → q a)
  (hi : i < xs.length)

include hq hi

/-- Whatever stands in front of an element that passes does so too. -/
lemma forall_mem_take (h : q xs[i]) : ∀ x ∈ xs.take (i + 1), q x := by
  rw [← List.take_append_drop i xs, List.drop_eq_getElem_cons hi, List.pairwise_append] at hq
  rw [List.take_add_one, List.getElem?_eq_getElem hi]
  have hfront : ∀ x ∈ xs.take i, q x := fun x hx => hq.2.2 x hx _ List.mem_cons_self h
  exact List.forall_mem_append.mpr ⟨hfront, by simpa using h⟩

/-- Nothing behind an element that does not pass does so. -/
lemma forall_mem_drop (h : ¬ q xs[i]) : ∀ x ∈ xs.drop i, ¬ q x := by
  rw [← List.take_append_drop i xs, List.drop_eq_getElem_cons hi, List.pairwise_append,
    List.pairwise_cons] at hq
  rw [List.drop_eq_getElem_cons hi]
  exact List.forall_mem_cons.mpr ⟨h, fun x hx hpass => h (hq.2.1.1 x hx hpass)⟩

end Cuts

end Metrology.Sorting
