import Metrology.Proofs.Expression.Runs
import Metrology.Proofs.Expression.TwoStacks
import Metrology.Proofs.Measurement.Operations
import Metrology.Proofs.Unit.Chain

/-!
# Expressions of simple units

Within a term each factor is a single operand, so that what stands to the right of `*` or `/` is a
simple unit and the product before it grows by one component at most. A sum is in the base unit of
its left operand, and the right one has the same. So no compound is ever put into another one,
whatever the operators.
-/

namespace Metrology

variable {α : Type} [Magnitude α]

/-! ### One operation -/

namespace Measurement

/-- A sum or a difference is in the left operand's base unit. -/
lemma base_of_apply_of_isAdditive {op : Operator} {a b c : Measurement α}
    (hop : op.isAdditive = true) (h : op.apply a b = .ok c) : a.unit.base = .ok c.unit := by
  cases op with
  | add =>
    obtain ⟨x, y, hxy, -, hu⟩ := add_eq_ok.mp h
    rw [hu]
    exact unit_of_inBase (inCommonBase_eq_ok.mp hxy).2.1
  | sub =>
    obtain ⟨x, y, hxy, -, hu⟩ := sub_eq_ok.mp h
    rw [hu]
    exact unit_of_inBase (inCommonBase_eq_ok.mp hxy).2.1
  | mul => cases hop
  | div => cases hop

/-- An operation with a simple right operand makes a chain longer by at most one component. -/
lemma isChain_of_apply {op : Operator} {a b c : Measurement α} {n : Nat} (ha : a.unit.IsChain n)
    (hn : 1 ≤ n) (hb : b.unit.IsBuiltIn) (hs : b.unit.isCompound = false)
    (h : op.apply a b = .ok c) : c.unit.IsChain (n + 1) := by
  rcases unit_of_apply h with hbase | ⟨-, j, hjoin⟩
  · exact (ha.of_base_eq_ok hbase).mono (Nat.le_succ n)
  · rw [hjoin]
    exact ha.join hn hb hs j

end Measurement

/-! ### Along the grammar -/

namespace Expression

lemma Term.isChain_value {t : Term (Measurement α)} {z : Measurement α} {n : Nat}
    (hfirst : t.first.unit.IsChain n) (hn : 1 ≤ n)
    (hrest : ∀ p ∈ t.rest, p.2.unit.IsBuiltIn ∧ p.2.unit.isCompound = false)
    (h : t.value Operator.apply = .ok z) : z.unit.IsChain (n + t.rest.length) := by
  obtain ⟨x, rest⟩ := t
  induction rest generalizing x n with
  | nil =>
    obtain rfl : x = z := by simpa using h
    exact hfirst
  | cons p rest ih =>
    obtain ⟨op, y⟩ := p
    obtain ⟨w, hw, h⟩ := bind_eq_ok.mp h
    obtain ⟨⟨hy, hs⟩, hrest⟩ := List.forall_mem_cons.mp hrest
    have hchain := Measurement.isChain_of_apply hfirst hn hy hs hw
    have hz := ih (Nat.le_add_left 1 n) w hchain hrest h
    rwa [Nat.add_right_comm] at hz

/-- Adding terms to a sum leaves its unit as it is, but for the base. -/
lemma isChain_addTerms {x z : Measurement α} {ts : List (Operator × Term (Measurement α))}
    {n : Nat} (hx : x.unit.IsChain n) (hop : ∀ p ∈ ts, p.1.isAdditive = true)
    (h : addTerms Operator.apply x ts = .ok z) : z.unit.IsChain n := by
  induction ts generalizing x with
  | nil =>
    obtain rfl : x = z := by simpa using h
    exact hx
  | cons p ts ih =>
    obtain ⟨op, t⟩ := p
    obtain ⟨hadd, hop⟩ := List.forall_mem_cons.mp hop
    rw [addTerms_cons, bind_eq_ok] at h
    obtain ⟨y, -, h⟩ := h
    obtain ⟨w, hw, h⟩ := bind_eq_ok.mp h
    exact ih (hx.of_base_eq_ok (Measurement.base_of_apply_of_isAdditive hadd hw)) hop h

/-- An expression of simple units has a value in a chain with at most as many components as there
are operands. -/
lemma isChain_of_evaluate {operands : List (Measurement α)} {vs : List (Value α)}
    {r : Measurement α} (hs : ∀ m ∈ operands, m.unit.IsBuiltIn ∧ m.unit.isCompound = false)
    (h : evaluate operands vs = .ok r) : r.unit.IsChain operands.length := by
  obtain ⟨m, ms, ops, rfl, hops, hl⟩ := exists_operators_of_evaluate h
  obtain ⟨⟨hm, hsimple⟩, hms⟩ := List.forall_mem_cons.mp hs
  rw [evaluate_eq_resume hops hl, Pending.resume_ofFirst] at h
  obtain ⟨x, hx, h⟩ := bind_eq_ok.mp h
  have hfirst : m.unit.IsChain 1 := by
    obtain ⟨u, hu, heq⟩ := Unit.exists_simple_of_isBuiltIn hm hsimple
    rw [heq]
    exact .simple hu
  have hfactors : ∀ p ∈ factorsBehind (ops.zip ms),
      p.2.unit.IsBuiltIn ∧ p.2.unit.isCompound = false := fun p hp =>
    hms p.2 (List.of_mem_zip ((factorsBehind_sublist _).mem hp)).2
  have hterm := Term.isChain_value (t := ⟨m, factorsBehind (ops.zip ms)⟩) hfirst (Nat.le_refl 1)
    hfactors hx
  refine isChain_addTerms (hterm.mono ?_) (fun p hp => isAdditive_of_mem_termsBehind hp) h
  have hlen : (factorsBehind (ops.zip ms)).length ≤ (ops.zip ms).length :=
    (factorsBehind_sublist _).length_le
  rw [List.length_zip, hl, Nat.min_self] at hlen
  rw [List.length_cons, Nat.add_comm]
  exact Nat.succ_le_succ hlen

end Expression

end Metrology
