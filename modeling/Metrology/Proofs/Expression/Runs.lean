import Metrology.Expression.Evaluation
import Metrology.Proofs.Result

/-!
# Runs of the evaluation

What holds after any number of steps, for operands and operators of any numbers. Every reduction
takes one operator and one operand, so that a run ends with a single operand only if there was one
operator fewer than operands. A property of measurements that the four operations keep is kept by
the whole evaluation.
-/

namespace Metrology

variable {α : Type} [Magnitude α]

namespace Stacks

/-! ### Inversion -/

lemma reduce_eq_ok {op : Operator} {xs ys : List (Measurement α)} :
    reduce op xs = .ok ys ↔
      ∃ right left rest c, xs = right :: left :: rest ∧ op.apply left right = .ok c ∧
        ys = c :: rest := by
  constructor
  · intro h
    match xs with
    | [] => simp [reduce] at h
    | [_] => simp [reduce] at h
    | right :: left :: rest =>
      rw [reduce, bind_eq_ok] at h
      obtain ⟨c, hc, h⟩ := h
      cases h
      exact ⟨right, left, rest, c, rfl, hc, rfl⟩
  · rintro ⟨right, left, rest, c, rfl, hc, rfl⟩
    simp [reduce, hc]

lemma push_eq_ok {s t : Stacks α} {v : Value α} {operand : Option (Measurement α)} :
    s.push v operand = .ok t ↔
      ∃ op f, Operator.ofValue v = .ok op ∧
        reduceDownTo op.precedence s.operands s.operators = .ok f ∧
        t = ⟨operand.toList ++ f.operands, op :: f.operators⟩ := by
  simp only [push, bind_eq_ok, pure_eq_ok, Except.ok.injEq]
  constructor
  · rintro ⟨op, hop, f, hf, rfl⟩
    exact ⟨op, f, hop, hf, rfl⟩
  · rintro ⟨op, f, hop, hf, rfl⟩
    exact ⟨op, hop, f, hf, rfl⟩

/-! ### Counting -/

/-- A reduction of several operators takes as many operands. -/
lemma reduceDownTo_balance {level : Nat} {xs : List (Measurement α)} {ops : List Operator}
    {s : Stacks α} (h : reduceDownTo level xs ops = .ok s) :
    s.operands.length + ops.length = xs.length + s.operators.length := by
  induction ops generalizing xs with
  | nil =>
    cases h
    rfl
  | cons op ops ih =>
    rw [reduceDownTo] at h
    split at h
    · obtain ⟨ys, hys, h⟩ := bind_eq_ok.mp h
      obtain ⟨right, left, rest, c, rfl, -, rfl⟩ := reduce_eq_ok.mp hys
      have := ih h
      simp only [List.length_cons] at this ⊢
      omega
    · cases h
      rfl

/-- The final reduction leaves no operator. -/
lemma operators_reduceDownTo_zero {xs : List (Measurement α)} {ops : List Operator}
    {s : Stacks α} (h : reduceDownTo 0 xs ops = .ok s) : s.operators = [] := by
  induction ops generalizing xs with
  | nil =>
    cases h
    rfl
  | cons op ops ih =>
    rw [reduceDownTo, if_pos (Nat.zero_le _)] at h
    obtain ⟨ys, -, h⟩ := bind_eq_ok.mp h
    exact ih h

/-- A pass takes in all operators, which have to be valid, and as many operands as there are
operators, if there are so many. -/
lemma pushAll_balance {s t : Stacks α} {vs : List (Value α)} {ms : List (Measurement α)}
    (h : s.pushAll vs ms = .ok t) :
    ∃ ops, vs.mapM Operator.ofValue = .ok ops ∧
      t.operands.length + s.operators.length + vs.length =
        s.operands.length + t.operators.length + min vs.length ms.length := by
  induction vs generalizing s ms with
  | nil =>
    cases h
    exact ⟨[], rfl, by simp⟩
  | cons v vs ih =>
    obtain ⟨s', hpush, h⟩ := bind_eq_ok.mp h
    obtain ⟨op, f, hop, hf, rfl⟩ := push_eq_ok.mp hpush
    obtain ⟨ops, hops, hcount⟩ := ih h
    refine ⟨op :: ops, by simp [hop, hops], ?_⟩
    have hf := reduceDownTo_balance hf
    cases ms with
    | nil =>
      simp at hcount ⊢
      omega
    | cons m ms =>
      simp at hcount ⊢
      omega

end Stacks

namespace Expression

/-- An evaluation succeeds if the pass and the final reduction leave one operand, and no operand
has been left out for lack of operators. -/
lemma exists_run_of_evaluate {operands : List (Measurement α)} {vs : List (Value α)}
    {r : Measurement α} (h : evaluate operands vs = .ok r) :
    ∃ m ms s f, operands = m :: ms ∧ (Stacks.mk [m] []).pushAll vs ms = .ok s ∧
      Stacks.reduceDownTo 0 s.operands s.operators = .ok f ∧ f.operands = [r] ∧
      ms.length ≤ vs.length := by
  cases operands with
  | nil => simp [evaluate] at h
  | cons m ms =>
    obtain ⟨s, hs, h⟩ := bind_eq_ok.mp h
    obtain ⟨f, hf, h⟩ := bind_eq_ok.mp h
    split at h
    · next hr =>
      split at h
      · simp at h
      · next hlt =>
        cases h
        exact ⟨m, ms, s, f, rfl, hs, hf, hr, Nat.le_of_not_lt hlt⟩
    · simp at h

/-- Only an expression with a valid operator between each two operands has a value. -/
lemma exists_operators_of_evaluate {operands : List (Measurement α)} {vs : List (Value α)}
    {r : Measurement α} (h : evaluate operands vs = .ok r) :
    ∃ m ms ops, operands = m :: ms ∧ vs.mapM Operator.ofValue = .ok ops ∧
      ops.length = ms.length := by
  obtain ⟨m, ms, s, f, rfl, hs, hf, hr, hle⟩ := exists_run_of_evaluate h
  obtain ⟨ops, hops, hpass⟩ := Stacks.pushAll_balance hs
  have hlast := Stacks.reduceDownTo_balance hf
  rw [Stacks.operators_reduceDownTo_zero hf, hr] at hlast
  refine ⟨m, ms, ops, rfl, hops, ?_⟩
  rw [← length_eq_of_mapM_eq_ok hops]
  simp only [List.length_cons, List.length_nil] at hpass hlast
  omega

end Expression

/-! ### Preservation -/

section Preservation

variable {P : Measurement α → Prop}
  (hP : ∀ {op a b c}, P a → P b → Operator.apply op a b = .ok c → P c)

include hP

lemma Stacks.reduceDownTo_preserves {level : Nat} {xs : List (Measurement α)}
    {ops : List Operator} {s : Stacks α} (h : reduceDownTo level xs ops = .ok s)
    (hxs : ∀ x ∈ xs, P x) : ∀ x ∈ s.operands, P x := by
  induction ops generalizing xs with
  | nil =>
    cases h
    exact hxs
  | cons op ops ih =>
    rw [reduceDownTo] at h
    split at h
    · obtain ⟨ys, hys, h⟩ := bind_eq_ok.mp h
      obtain ⟨right, left, rest, c, rfl, hc, rfl⟩ := reduce_eq_ok.mp hys
      simp only [List.forall_mem_cons] at hxs
      obtain ⟨hright, hleft, hrest⟩ := hxs
      exact ih h (List.forall_mem_cons.mpr ⟨hP hleft hright hc, hrest⟩)
    · cases h
      exact hxs

lemma Stacks.pushAll_preserves {s t : Stacks α} {vs : List (Value α)}
    {ms : List (Measurement α)} (h : s.pushAll vs ms = .ok t) (hs : ∀ x ∈ s.operands, P x)
    (hms : ∀ x ∈ ms, P x) : ∀ x ∈ t.operands, P x := by
  induction vs generalizing s ms with
  | nil =>
    cases h
    exact hs
  | cons v vs ih =>
    obtain ⟨s', hpush, h⟩ := bind_eq_ok.mp h
    obtain ⟨op, f, -, hf, rfl⟩ := push_eq_ok.mp hpush
    have hf := reduceDownTo_preserves hP hf hs
    refine ih h ?_ fun x hx => hms x (List.mem_of_mem_tail hx)
    intro x hx
    rcases List.mem_append.mp hx with hx | hx
    · exact hms x (List.mem_of_mem_head? (by simpa using hx))
    · exact hf x hx

/-- What the four operations keep, an evaluation keeps. -/
lemma Expression.evaluate_preserves {operands : List (Measurement α)} {vs : List (Value α)}
    {r : Measurement α} (h : evaluate operands vs = .ok r) (hs : ∀ x ∈ operands, P x) : P r := by
  obtain ⟨m, ms, s, f, rfl, hpass, hf, hr, -⟩ := exists_run_of_evaluate h
  obtain ⟨hm, hms⟩ := List.forall_mem_cons.mp hs
  have hpass := Stacks.pushAll_preserves hP hpass (by simpa using hm) hms
  have hf := Stacks.reduceDownTo_preserves hP hf hpass
  exact hf r (by simp [hr])

end Preservation

end Metrology
