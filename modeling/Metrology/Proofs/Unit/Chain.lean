import Metrology.Proofs.Unit.Layered

/-!
# Chains of simple units

A chain is a built-in simple unit, or a compound of such units without any nesting. Its base unit
is a chain of the same length, and a simple unit of another dimension makes it longer by one
component when it is joined to it on the right. On the left of a chain of two components, the same
unit would make a nested one.
-/

namespace Metrology.Unit

variable {α : Type} [Magnitude α]

/-- A built-in simple unit, or a compound of two to `n` built-in simple units. -/
inductive IsChain (n : Nat) : Unit α → Prop where
  | simple {u : SimpleUnit α} (hu : u ∈ SimpleUnit.builtIn) : IsChain n (.simple u)
  | compound {c : Compound α} {us : List (SimpleUnit α)} (hus : ∀ u ∈ us, u ∈ SimpleUnit.builtIn)
      (hc : c.units = us.map .simple) (htwo : 2 ≤ us.length) (hn : us.length ≤ n) :
      IsChain n (.compound c)

lemma exists_simple_of_isBuiltIn {u : Unit α} (hu : u.IsBuiltIn) (hs : u.isCompound = false) :
    ∃ v ∈ SimpleUnit.builtIn, u = .simple v := by
  cases u with
  | simple v => exact ⟨v, (isBuiltIn_simple v).mp hu, rfl⟩
  | compound c => cases hs

namespace IsChain

variable {n : Nat} {u v : Unit α}

lemma mono {k : Nat} (hu : u.IsChain n) (h : n ≤ k) : u.IsChain k := by
  cases hu with
  | simple hu => exact .simple hu
  | compound hus hc htwo hn => exact .compound hus hc htwo (Nat.le_trans hn h)

lemma isFlat (hu : u.IsChain n) : u.IsFlat := by
  cases hu with
  | simple => trivial
  | compound _ hc =>
    intro v hv
    rw [hc] at hv
    obtain ⟨w, -, rfl⟩ := List.mem_map.mp hv
    rfl

lemma isLayered (hu : u.IsChain n) : u.IsLayered := by
  cases hu with
  | simple hu => exact .simple hu
  | @compound c us hus hc htwo =>
    match us with
    | first :: second :: rest =>
      simp only [List.forall_mem_cons] at hus
      obtain ⟨hfirst, hsecond, hrest⟩ := hus
      exact .compound hfirst (.simple hsecond) hrest hc

lemma root (hu : u.IsChain n) : u.root.IsChain n := by
  cases hu with
  | simple hu =>
    rw [root_simple]
    exact .simple (SimpleUnit.root_mem_builtIn hu)
  | @compound c us hus hc htwo hn =>
    rw [root_compound]
    have hroots : ∀ u ∈ us.map SimpleUnit.root, u ∈ SimpleUnit.builtIn := by
      intro u hu
      obtain ⟨v, hv, rfl⟩ := List.mem_map.mp hu
      exact SimpleUnit.root_mem_builtIn (hus v hv)
    refine .compound hroots ?_ (by simpa using htwo) (by simpa using hn)
    rw [Compound.root, Compound.units_mapSimple, hc]
    simp [Function.comp_def]

lemma of_base_eq_ok {b : Unit α} (hu : u.IsChain n) (h : u.base = .ok b) : b.IsChain n := by
  rw [hu.isLayered.base_eq_root] at h
  cases h
  exact hu.root

/-- A simple unit makes a chain longer by one component. -/
lemma join (hu : u.IsChain n) (hn : 1 ≤ n) (hv : v.IsBuiltIn) (hs : v.isCompound = false)
    (j : Join) : (u.join j v).IsChain (n + 1) := by
  obtain ⟨w, hw, rfl⟩ := exists_simple_of_isBuiltIn hv hs
  cases hu with
  | @simple u hu =>
    have hus : ∀ x ∈ [u, w], x ∈ SimpleUnit.builtIn := by simp [hu, hw]
    exact .compound hus (by simp) (Nat.le_refl 2) (Nat.succ_le_succ hn)
  | @compound c us hus hc htwo hlen =>
    have hall : ∀ x ∈ us ++ [w], x ∈ SimpleUnit.builtIn :=
      List.forall_mem_append.mpr ⟨hus, List.forall_mem_singleton.mpr hw⟩
    refine .compound hall (by simp [hc]) ?_ ?_
    · rw [List.length_append]
      omega
    · rw [List.length_append, List.length_singleton]
      omega

end IsChain

end Metrology.Unit
