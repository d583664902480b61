import Mathlib.Data.List.Forall2
import Metrology.Expression.Evaluation
import Metrology.Proofs.Fault

/-!
# Two evaluations side by side

The same operators are evaluated on two lists of operands that are related one by one. If each
operation keeps the relation, or fails on both sides in the same way, then so do the reductions of
the two stacks, step by step, and so does the whole evaluation.
-/

namespace Metrology

variable {α : Type} [Magnitude α] {R : Measurement α → Measurement α → Prop}

namespace Stacks

/-- The stacks hold the same operators and operands that are related one by one. -/
structure Related (R : Measurement α → Measurement α → Prop) (s t : Stacks α) : Prop where
  operands : List.Forall₂ R s.operands t.operands
  operators : s.operators = t.operators

variable (hR : ∀ ⦃op a a' b b'⦄, R a a' → R b b' →
  Agree R (Operator.apply op a b) (Operator.apply op a' b'))

include hR

lemma reduce_agree {op : Operator} {xs ys : List (Measurement α)} (h : List.Forall₂ R xs ys) :
    Agree (List.Forall₂ R) (reduce op xs) (reduce op ys) := by
  match h with
  | .nil => exact agree_error.mpr rfl
  | .cons _ .nil => exact agree_error.mpr rfl
  | .cons hright (.cons hleft hrest) =>
    exact (hR hleft hright).bind fun c c' hc => agree_ok.mpr (.cons hc hrest)

lemma reduceDownTo_agree {level : Nat} {ops : List Operator} {xs ys : List (Measurement α)}
    (h : List.Forall₂ R xs ys) :
    Agree (Related R) (reduceDownTo level xs ops) (reduceDownTo level ys ops) := by
  induction ops generalizing xs ys with
  | nil => exact agree_ok.mpr ⟨h, rfl⟩
  | cons op ops ih =>
    rw [reduceDownTo, reduceDownTo]
    split
    · exact (reduce_agree hR h).bind fun xs' ys' h' => ih h'
    · exact agree_ok.mpr ⟨h, rfl⟩

lemma push_agree {s t : Stacks α} {v : Value α} {m n : Option (Measurement α)}
    (h : Related R s t) (hmn : List.Forall₂ R m.toList n.toList) :
    Agree (Related R) (s.push v m) (t.push v n) := by
  refine (agree_refl (Operator.ofValue v) fun op _ => rfl).bind ?_
  rintro op _ rfl
  rw [h.operators]
  refine (reduceDownTo_agree hR h.operands).bind fun s' t' h' => agree_ok.mpr ⟨?_, ?_⟩
  · exact List.rel_append hmn h'.operands
  · exact congrArg (op :: ·) h'.operators

/-- A pass keeps the stacks related, whether operands are left over or missing. -/
lemma pushAll_agree {s t : Stacks α} {vs : List (Value α)} {ms ns : List (Measurement α)}
    (h : Related R s t) (hms : List.Forall₂ R ms ns) :
    Agree (Related R) (s.pushAll vs ms) (t.pushAll vs ns) := by
  induction vs generalizing s t ms ns with
  | nil => exact agree_ok.mpr h
  | cons v vs ih =>
    match ms, ns, hms with
    | [], [], .nil => exact (push_agree hR h .nil).bind fun s' t' h' => ih h' .nil
    | m :: ms, n :: ns, .cons hm hms =>
      have hmn : List.Forall₂ R (some m).toList (some n).toList := .cons hm .nil
      exact (push_agree hR h hmn).bind fun s' t' h' => ih h' hms

end Stacks

/-- What the four operations respect, an evaluation respects. -/
lemma Expression.evaluate_agree
    (hR : ∀ ⦃op a a' b b'⦄, R a a' → R b b' →
      Agree R (Operator.apply op a b) (Operator.apply op a' b'))
    {ms ns : List (Measurement α)} (h : List.Forall₂ R ms ns) (vs : List (Value α)) :
    Agree R (evaluate ms vs) (evaluate ns vs) := by
  match ms, ns, h with
  | [], [], .nil => exact agree_error.mpr rfl
  | m :: ms, n :: ns, .cons hm hms =>
    have hstart : Stacks.Related R ⟨[m], []⟩ ⟨[n], []⟩ := ⟨.cons hm .nil, rfl⟩
    refine (Stacks.pushAll_agree hR hstart hms).bind fun s t hst => ?_
    rw [hst.operators, hms.length_eq]
    refine (Stacks.reduceDownTo_agree hR hst.operands).bind fun s' t' hst' => ?_
    obtain ⟨xs, ops⟩ := s'
    obtain ⟨ys, ops'⟩ := t'
    -- the evaluations end alike, as the stacks are of one height
    match xs, ys, hst'.operands with
    | [], [], _ => exact agree_error.mpr rfl
    | [r], [r'], .cons hr .nil =>
      dsimp only
      split
      · exact agree_error.mpr rfl
      · exact agree_ok.mpr hr
    | _ :: _ :: _, _ :: _ :: _, _ => exact agree_error.mpr rfl

end Metrology
