import Metrology.Proofs.Result
import Metrology.Statistics

/-!
# Numerical functions

What is relied on in the functions that statistics are put together from: the different values of a
list are found in ascending order and counted, the first of the greatest numbers is found, and the
median is taken from the middle of the sorted list. Nothing is said about lists that hold something
that is not finite, because no measurement has such a magnitude.
-/

namespace Metrology.Statistics

variable {α : Type}

lemma ne_nil_of_perm {xs ys : List α} (hne : xs ≠ []) (h : ys.Perm xs) : ys ≠ [] := by
  rintro rfl
  exact hne h.symm.eq_nil

section Functions

variable [Magnitude α] {xs ys : List α}

/-- Are all magnitudes of the list finite? -/
def AllFinite (xs : List α) : Prop := ∀ x ∈ xs, Magnitude.isFinite x = true

lemma AllFinite.of_perm (hxs : AllFinite xs) (h : ys.Perm xs) : AllFinite ys :=
  fun y hy => hxs y (h.mem_iff.mp hy)

/-- The different values of a list in ascending order, each with the number of times that it
occurs. -/
structure ListsValues (xs : List α) (rs : List (α × Nat)) : Prop where
  ascends : rs.Pairwise fun r s => r.1 < s.1
  mem : ∀ r ∈ rs, r.1 ∈ xs
  count : ∀ r ∈ rs, r.2 = xs.count r.1
  covers : ∀ x ∈ xs, ∃ r ∈ rs, (r.1 == x) = true

/-- The index of the first of the greatest numbers. -/
structure IsFirstMaximum (ns : List Nat) (i : Nat) : Prop where
  bound : i < ns.length
  greatest : ∀ n ∈ ns, n ≤ ns[i]
  first : ∀ n ∈ ns.take i, n < ns[i]

/-- As many elements stand in front of the middle of the list as behind it. -/
inductive HasMiddle {β : Type} : List β → List β → Prop where
  | one {front back : List β} (a : β) (h : front.length = back.length) :
      HasMiddle (front ++ a :: back) [a]
  | two {front back : List β} (a b : β) (h : front.length = back.length) :
      HasMiddle (front ++ a :: b :: back) [a, b]

/-- The numerical functions do what their names say. The median of an odd number of magnitudes is
equal to the one in the middle of them in ascending order, that of an even number to the mean of the
two there. -/
structure Numerics.IsSound (lib : Numerics α) : Prop where
  unique : ∀ xs, AllFinite xs → ListsValues xs (lib.unique xs)
  argmax : ∀ ns, ns ≠ [] → IsFirstMaximum ns (lib.argmax ns)
  median_odd : ∀ xs ys a, AllFinite xs → ys.Perm xs → ys.Pairwise (· ≤ ·) → HasMiddle ys [a] →
    (lib.median xs == a) = true
  median_even : ∀ xs ys a b, AllFinite xs → ys.Perm xs → ys.Pairwise (· ≤ ·) →
    HasMiddle ys [a, b] → (lib.median xs == (a + b) / Magnitude.ofNat 2) = true

end Functions

/-! ### The most frequent value -/

/-- No value in front of this one is as frequent, and none behind it is more frequent. -/
structure Leads (r : α × Nat) (front back : List (α × Nat)) : Prop where
  front : ∀ s ∈ front, s.2 < r.2
  back : ∀ s ∈ back, s.2 ≤ r.2

lemma IsFirstMaximum.exists_leads {rs : List (α × Nat)} {i : Nat}
    (h : IsFirstMaximum (rs.map Prod.snd) i) :
    ∃ r front back, rs[i]? = some r ∧ rs = front ++ r :: back ∧ Leads r front back := by
  obtain ⟨hi, hgreatest, hfirst⟩ := h
  rw [List.length_map] at hi
  simp only [List.getElem_map] at hgreatest hfirst
  refine ⟨rs[i], rs.take i, rs.drop (i + 1), List.getElem?_eq_getElem hi, ?_, ?_, ?_⟩
  · rw [List.getElem_cons_drop, List.take_append_drop]
  · intro s hs
    refine hfirst s.2 ?_
    rw [← List.map_take]
    exact List.mem_map_of_mem hs
  · exact fun s hs => hgreatest s.2 (List.mem_map_of_mem (List.mem_of_mem_drop hs))

section Mode

variable [Magnitude α] {xs : List α} {lib : Numerics α} (hlib : lib.IsSound) (hxs : AllFinite xs)
include hlib hxs

/-- Of a list with elements, the first of the most frequent values is found. -/
lemma exists_mode_eq (hne : xs ≠ []) :
    ∃ r front back, lib.mode xs = .ok r.1 ∧ ListsValues xs (front ++ r :: back) ∧
      Leads r front back := by
  have hvalues := hlib.unique xs hxs
  have hcounts : (lib.unique xs).map Prod.snd ≠ [] := by
    obtain ⟨x, hx⟩ := List.exists_mem_of_ne_nil xs hne
    obtain ⟨r, hr, -⟩ := hvalues.covers x hx
    exact List.ne_nil_of_mem (List.mem_map_of_mem hr)
  obtain ⟨r, front, back, hr, hsplit, hleads⟩ := (hlib.argmax _ hcounts).exists_leads
  refine ⟨r, front, back, ?_, hsplit ▸ hvalues, hleads⟩
  simp only [Numerics.mode, hr]
  rfl

end Mode

end Metrology.Statistics
