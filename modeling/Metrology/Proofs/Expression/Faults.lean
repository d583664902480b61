import Metrology.Proofs.Expression.TwoStacks
import Metrology.Proofs.Measurement.Faults

/-!
# What can go wrong with expressions

Each operand behind `*` or `/` is combined with what comes before it in its term, just as it is
given; sums only combine values of terms. So a division by zero can come of no other units than
those of the operands that are divided by.
-/

namespace Metrology.Expression

/-! ### Along the grammar -/

section Value

variable {β ε : Type} {apply : Operator → β → β → Except ε β} {E : ε → Prop} {P : β → Prop}

/-- If each operation keeps a property, so does a term, as long as its factors may be applied. -/
lemma Term.yields_value {Q : Operator → β → Prop}
    (hstep : ∀ ⦃op x y⦄, P x → Q op y → Yields E P (apply op x y)) {t : Term β}
    (hfirst : P t.first) (hrest : ∀ p ∈ t.rest, Q p.1 p.2) : Yields E P (t.value apply) := by
  obtain ⟨x, rest⟩ := t
  induction rest generalizing x with
  | nil => exact yields_ok.mpr hfirst
  | cons p rest ih =>
    obtain ⟨hp, hrest⟩ := List.forall_mem_cons.mp hrest
    rw [Term.value_cons]
    exact (hstep hfirst hp).bind fun z _ hz => ih z hz hrest

lemma yields_addTerms
    (hstep : ∀ ⦃op x y⦄, op.isAdditive = true → P x → P y → Yields E P (apply op x y)) {x : β}
    (hx : P x) {ts : List (Operator × Term β)} (hop : ∀ p ∈ ts, p.1.isAdditive = true)
    (hts : ∀ p ∈ ts, Yields E P (p.2.value apply)) : Yields E P (addTerms apply x ts) := by
  induction ts generalizing x with
  | nil => exact yields_ok.mpr hx
  | cons p ts ih =>
    obtain ⟨hp, hop⟩ := List.forall_mem_cons.mp hop
    obtain ⟨ht, hts⟩ := List.forall_mem_cons.mp hts
    rw [addTerms_cons]
    refine ht.bind fun y _ hy => ?_
    exact (hstep hp hx hy).bind fun z _ hz => ih hz hop hts

end Value

/-! ### Expressions with floating magnitudes -/

lemma mapM_ofValue_operator {α : Type} [Magnitude α] (ops : List Operator) :
    (ops.map Value.operator).mapM (Operator.ofValue (α := α)) = .ok ops := by
  induction ops with
  | nil => rfl
  | cons op ops ih =>
    have hop : Operator.ofValue (.operator op : Value α) = .ok op := by
      simp [Operator.ofValue, Value.lookup, Value.asText?]
    simp [hop, ih]

/-- An expression fails with a fault of measuring, or, if there is a reason for that, with a
division by zero. -/
lemma yields_evaluate {reason : Prop} {m : Measurement Float} {ms : List (Measurement Float)}
    {ops : List Operator} (hl : ops.length = ms.length)
    (hunits : ∀ x ∈ m :: ms, x.unit.IsProperOr reason)
    (hdiv : ∀ p ∈ ops.zip ms, p.1 = .div → reason ∨ ¬ p.2.unit.Vanishes) :
    Yields (Fault.IsMeasuringOr reason) (fun c => c.unit.IsProperOr reason)
      (evaluate (m :: ms) (ops.map .operator)) := by
  have happly : ∀ ⦃op : Operator⦄ ⦃a b : Measurement Float⦄, a.unit.IsProperOr reason →
      (b.unit.IsProperOr reason ∧ (op = .div → reason ∨ ¬ b.unit.Vanishes)) →
      Yields (Fault.IsMeasuringOr reason) (fun c => c.unit.IsProperOr reason) (op.apply a b) :=
    fun op a b ha hb => Measurement.yields_apply ha hb.1 hb.2
  obtain ⟨hm, hms⟩ := List.forall_mem_cons.mp hunits
  have hbehind : ∀ p ∈ ops.zip ms, p.2.unit.IsProperOr reason ∧
      (p.1 = .div → reason ∨ ¬ p.2.unit.Vanishes) := fun p hp =>
    ⟨hms p.2 (List.of_mem_zip hp).2, hdiv p hp⟩
  rw [evaluate_eq_resume (mapM_ofValue_operator ops) hl, Pending.resume_ofFirst, Terms.value]
  have hfactors : ∀ p ∈ factorsBehind (ops.zip ms), p ∈ ops.zip ms := fun p hp =>
    (factorsBehind_sublist _).mem hp
  refine (Term.yields_value happly hm fun p hp => hbehind p (hfactors p hp)).bind fun x _ hx => ?_
  refine yields_addTerms (P := fun c : Measurement Float => c.unit.IsProperOr reason) ?_ hx
    (fun p hp => isAdditive_of_mem_termsBehind hp) fun p hp => ?_
  · rintro op a b hop ha hb
    refine happly ha ⟨hb, ?_⟩
    rintro rfl
    cases hop
  · obtain ⟨hfirst, hrest⟩ := mem_of_mem_termsBehind hp
    exact Term.yields_value happly (hbehind _ hfirst).1 fun q hq => hbehind q (hrest q hq)

end Metrology.Expression
