import Metrology.Expression.Evaluation
import Metrology.Proofs.Expression.Grammar

/-!
# Two stacks and one grammar

The evaluation with two stacks postpones operators until a weaker one comes in. Between two steps
at most two of them wait: one behind the sum of the terms before, one behind the factors of the
term that is being read. What remains to be done from there is what the grammar asks for, so that
both ways of evaluation end in the same measurement or in the same fault.
-/

namespace Metrology.Expression

variable {α : Type} [Magnitude α]

/-! ### What is on the stacks -/

/-- An expression read up to an operand, with the reductions that are postponed. -/
structure Pending (α : Type) [Magnitude α] where
  /-- The sum of the terms before, and the operator behind it. -/
  sum : Option (Measurement α × Operator)
  /-- The product of the term's factors before, and the operator behind it. -/
  product : Option (Measurement α × Operator)
  /-- The operand read last. -/
  last : Measurement α
  additive : ∀ p ∈ sum, p.2.isAdditive = true
  multiplicative : ∀ p ∈ product, p.2.isAdditive = false

/-- Combine a measurement with what waits before it. -/
def complete : Option (Measurement α × Operator) → Measurement α → Result α (Measurement α)
  | none, y => pure y
  | some (x, op), y => op.apply x y

@[simp] lemma complete_none (y : Measurement α) : complete none y = pure y := rfl

@[simp] lemma complete_some (p : Measurement α × Operator) (y : Measurement α) :
    complete (some p) y = p.2.apply p.1 y := rfl

namespace Pending

/-- Nothing but the first operand is read. -/
def ofFirst (m : Measurement α) : Pending α where
  sum := none
  product := none
  last := m
  additive := by simp
  multiplicative := by simp

/-- Go on with an operand behind `*` or `/`, after the product before it. -/
def withFactor (s : Pending α) (t : Measurement α) (op : Operator) (h : op.isAdditive = false)
    (m : Measurement α) : Pending α where
  sum := s.sum
  product := some (t, op)
  last := m
  additive := s.additive
  multiplicative := by simpa using h

/-- Go on with an operand behind `+` or `-`, after the sum before it. -/
def ofSum (x : Measurement α) (op : Operator) (h : op.isAdditive = true) (m : Measurement α) :
    Pending α where
  sum := some (x, op)
  product := none
  last := m
  additive := by simpa using h
  multiplicative := by simp

/-- The postponed reductions, as they lie on the two stacks. -/
def onStacks (s : Pending α) : Stacks α where
  operands := s.last :: (s.product.toList ++ s.sum.toList).map Prod.fst
  operators := (s.product.toList ++ s.sum.toList).map Prod.snd

/-- What the grammar makes of the operands that follow. -/
def resume (s : Pending α) (rest : List (Operator × Measurement α)) :
    Result α (Measurement α) := do
  let t ← complete s.product s.last
  let x ← (Term.mk t (factorsBehind rest)).value Operator.apply
  addTerms Operator.apply (← complete s.sum x) (termsBehind rest)

/-! ### One step -/

/-- A strong operator reduces the product before it. -/
lemma reduceDownTo_two (s : Pending α) :
    Stacks.reduceDownTo 2 s.onStacks.operands s.onStacks.operators = do
      let t ← complete s.product s.last
      return ⟨t :: s.sum.toList.map Prod.fst, s.sum.toList.map Prod.snd⟩ := by
  obtain ⟨sum, product, m, hs, hp⟩ := s
  -- the operator behind the sum is too weak to be reduced
  have hsum : ∀ t : Measurement α,
      Stacks.reduceDownTo 2 (t :: sum.toList.map Prod.fst) (sum.toList.map Prod.snd) =
        .ok ⟨t :: sum.toList.map Prod.fst, sum.toList.map Prod.snd⟩ := by
    intro t
    cases sum with
    | none => rfl
    | some q => simp [Stacks.reduceDownTo, Operator.precedence_of_isAdditive (hs q rfl)]
  cases product with
  | none => simpa [onStacks] using hsum m
  | some p =>
    simp [onStacks, Stacks.reduceDownTo, Operator.precedence_of_not_isAdditive (hp p rfl), hsum,
      Stacks.reduce]

/-- A weak operator reduces all that waits, and so does the end of the expression. -/
lemma reduceDownTo_one (s : Pending α) {level : Nat} (hl : level ≤ 1) :
    Stacks.reduceDownTo level s.onStacks.operands s.onStacks.operators = do
      let t ← complete s.product s.last
      let x ← complete s.sum t
      return ⟨[x], []⟩ := by
  obtain ⟨sum, product, m, hs, hp⟩ := s
  have hop : ∀ op : Operator, level ≤ op.precedence := by
    intro op
    cases op <;> simp only [Operator.precedence] <;> omega
  cases product with
  | none =>
    cases sum with
    | none => simp [onStacks, Stacks.reduceDownTo]
    | some q => simp [onStacks, Stacks.reduceDownTo, Stacks.reduce, hop]
  | some p =>
    cases sum with
    | none => simp [onStacks, Stacks.reduceDownTo, Stacks.reduce, hop]
    | some q => simp [onStacks, Stacks.reduceDownTo, Stacks.reduce, hop]

lemma push_multiplicative (s : Pending α) {v : Value α} {op : Operator}
    (hv : Operator.ofValue v = .ok op) (h : op.isAdditive = false) (m : Measurement α) :
    s.onStacks.push v (some m) = do
      let t ← complete s.product s.last
      return (s.withFactor t op h m).onStacks := by
  rw [Stacks.push, hv, ok_bind, Operator.precedence_of_not_isAdditive h, reduceDownTo_two]
  simp [onStacks, withFactor]

lemma push_additive (s : Pending α) {v : Value α} {op : Operator}
    (hv : Operator.ofValue v = .ok op) (h : op.isAdditive = true) (m : Measurement α) :
    s.onStacks.push v (some m) = do
      let t ← complete s.product s.last
      let x ← complete s.sum t
      return (ofSum x op h m).onStacks := by
  rw [Stacks.push, hv, ok_bind, Operator.precedence_of_isAdditive h,
    reduceDownTo_one s (Nat.le_refl 1)]
  simp [onStacks, ofSum]

lemma resume_multiplicative (s : Pending α) {op : Operator} (h : op.isAdditive = false)
    (m : Measurement α) (rest : List (Operator × Measurement α)) :
    s.resume ((op, m) :: rest) =
      complete s.product s.last >>= fun t => (s.withFactor t op h m).resume rest := by
  simp [resume, withFactor, h]

lemma resume_additive (s : Pending α) {op : Operator} (h : op.isAdditive = true)
    (m : Measurement α) (rest : List (Operator × Measurement α)) :
    s.resume ((op, m) :: rest) =
      complete s.product s.last >>= fun t => complete s.sum t >>= fun x =>
        (ofSum x op h m).resume rest := by
  simp [resume, ofSum, h]

/-! ### All steps -/

/-- The pass and the final reduction do what the grammar asks for. -/
lemma pushAll_stacks (s : Pending α) {vs : List (Value α)} {ops : List Operator}
    {ms : List (Measurement α)} (hv : vs.mapM Operator.ofValue = .ok ops)
    (hl : ops.length = ms.length) :
    (s.onStacks.pushAll vs ms >>= fun t => Stacks.reduceDownTo 0 t.operands t.operators) =
      s.resume (ops.zip ms) >>= fun r => pure ⟨[r], []⟩ := by
  induction vs generalizing s ops ms with
  | nil =>
    obtain rfl : [] = ops := by simpa using hv
    simp [Stacks.pushAll, reduceDownTo_one, resume]
  | cons v vs ih =>
    rw [List.mapM_cons, bind_eq_ok] at hv
    obtain ⟨op, hop, hv⟩ := hv
    rw [bind_eq_ok] at hv
    obtain ⟨ops, hops, hv⟩ := hv
    cases hv
    obtain ⟨m, ms, rfl⟩ := List.exists_cons_of_length_eq_add_one hl.symm
    have hl' : ops.length = ms.length := by simpa using hl
    cases h : op.isAdditive with
    | true =>
      simp [Stacks.pushAll, push_additive s hop h, resume_additive s h, ih _ hops hl']
    | false =>
      simp [Stacks.pushAll, push_multiplicative s hop h, resume_multiplicative s h,
        ih _ hops hl']

/-- With nothing read but the first operand, all of the expression remains. -/
lemma resume_ofFirst (m : Measurement α) (rest : List (Operator × Measurement α)) :
    (ofFirst m).resume rest = (Terms.split m rest).value Operator.apply := by
  simp [resume, ofFirst, Terms.value, Terms.split]

end Pending

/-! ### Whole expressions -/

/-- An expression with an operator between each two operands is evaluated by the pass alone. -/
lemma evaluate_eq_resume {m : Measurement α} {ms : List (Measurement α)} {vs : List (Value α)}
    {ops : List Operator} (hv : vs.mapM Operator.ofValue = .ok ops)
    (hl : ops.length = ms.length) :
    evaluate (m :: ms) vs = (Pending.ofFirst m).resume (ops.zip ms) := by
  have hvs : vs.length = ms.length := (length_eq_of_mapM_eq_ok hv).trans hl
  have hpass := Pending.pushAll_stacks (Pending.ofFirst m) hv hl
  have hstart : (Pending.ofFirst m).onStacks = ⟨[m], []⟩ := rfl
  rw [hstart] at hpass
  rw [evaluate, ← bind_assoc, hpass]
  simp [hvs]

/-- Evaluation with two stacks and evaluation along the grammar agree on every expression: they
give the same measurement, or the fault of the same operation. -/
theorem evaluate_eq_value_split {m : Measurement α} {ms : List (Measurement α)}
    {vs : List (Value α)} {ops : List Operator} (hv : vs.mapM Operator.ofValue = .ok ops)
    (hl : ops.length = ms.length) :
    evaluate (m :: ms) vs = (Terms.split m (ops.zip ms)).value Operator.apply := by
  rw [evaluate_eq_resume hv hl, Pending.resume_ofFirst]

/-- The product in `1 km + 5 m * 2 s` comes first, and the sum fails. -/
theorem evaluate_length_and_product :
    evaluate [⟨1, .simple .kilometer, rfl⟩, ⟨5, .simple .meter, rfl⟩, ⟨2, .simple .second, rfl⟩]
        [.text "+", .operator .mul] =
      (Terms.split (⟨1, .simple .kilometer, rfl⟩ : Measurement Rat)
        [(.add, ⟨5, .simple .meter, rfl⟩), (.mul, ⟨2, .simple .second, rfl⟩)]).value
          Operator.apply ∧
    evaluate [⟨1, .simple .kilometer, rfl⟩, ⟨5, .simple .meter, rfl⟩, ⟨2, .simple .second, rfl⟩]
        [.text "+", .operator .mul] =
      (.error (.incompatible "km" "m * s" (.dimensions .length .compound)) :
        Result Rat (Measurement Rat)) := by
  have hv : [.text "+", .operator .mul].mapM (Operator.ofValue (α := Rat)) =
      .ok [.add, .mul] := rfl
  exact ⟨evaluate_eq_value_split hv rfl, rfl⟩

end Metrology.Expression
