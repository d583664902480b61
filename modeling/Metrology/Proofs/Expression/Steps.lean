import Mathlib.Logic.Relation
import Metrology.Expression.Evaluation
import Metrology.Proofs.Result

/-!
# Evaluation step by step

The evaluation as a machine that takes one step after the other: it combines the two topmost
operands, or it takes in the next operator with the operand behind it. It stops with a result, at a
defect of the expression, at an operation that fails, or at a value that is no operator and that no
message can show. Wherever it stops, that is what the evaluation comes to.
-/

namespace Metrology.Expression

variable {α : Type} [Magnitude α]

/-- How far an evaluation has come: the two stacks, their topmost elements first, and what is still
to be read. -/
structure Stage (α : Type) [Magnitude α] where
  operands : List (Measurement α)
  operators : List Operator
  /-- Operators that have not been looked at. -/
  values : List (Value α)
  /-- Operands that are not on the stack yet. -/
  rest : List (Measurement α)

namespace Stage

/-- Is it time to reduce the operator on the top of the stack? The next operator must not bind more
tightly, if there is one. -/
inductive Due (op : Operator) : List (Value α) → Prop where
  | last : Due op []
  | next {v : Value α} {vs : List (Value α)} {next : Operator} (hv : Operator.ofValue v = .ok next)
      (hle : next.precedence ≤ op.precedence) : Due op (v :: vs)

/-- One step: two operands are taken from the stack and their combination is put there, or an
operator and the operand behind it are put on the stacks. -/
inductive Step : Stage α → Stage α → Prop where
  | reduce {op : Operator} {right left c : Measurement α} {xs ms : List (Measurement α)}
      {ops : List Operator} {vs : List (Value α)} (hdue : Due op vs)
      (hc : op.apply left right = .ok c) :
      Step ⟨right :: left :: xs, op :: ops, vs, ms⟩ ⟨c :: xs, ops, vs, ms⟩
  | shift {op : Operator} {v : Value α} {xs ms : List (Measurement α)} {ops : List Operator}
      {vs : List (Value α)} (hv : Operator.ofValue v = .ok op)
      (hweak : ∀ top ∈ ops.head?, top.precedence < op.precedence) :
      Step ⟨xs, ops, v :: vs, ms⟩ ⟨ms.head?.toList ++ xs, op :: ops, vs, ms.tail⟩

/-- The expression turns out to be malformed, of which these are the numbers of operands and of
operators: the next value is no operator, an operator finds fewer than two operands on the stack,
or something else than one operand is left at the end. -/
inductive Defect (operands operators : Nat) : Stage α → Malformation α → Prop where
  | value {v : Value α} {xs ms : List (Measurement α)} {ops : List Operator}
      {vs : List (Value α)} (hv : Operator.ofValue v = .error (.malformed (.notAnOperator v))) :
      Defect operands operators ⟨xs, ops, v :: vs, ms⟩ (.notAnOperator v)
  | operands {op : Operator} {xs ms : List (Measurement α)} {ops : List Operator}
      {vs : List (Value α)} (hdue : Due op vs) (hxs : xs.length < 2) :
      Defect operands operators ⟨xs, op :: ops, vs, ms⟩ (.tooFewOperands op)
  | balance {xs ms : List (Measurement α)} (h : ¬ (xs.length = 1 ∧ ms = [])) :
      Defect operands operators ⟨xs, [], [], ms⟩ (.unbalanced operands operators)

/-- The next value is no operator, and it is a number with too many digits to be shown. -/
inductive Unshown : Stage α → Prop where
  | value {v : Value α} {xs ms : List (Measurement α)} {ops : List Operator} {vs : List (Value α)}
      (hlong : v.isShowable = false) (hv : Operator.ofValue v = .error .tooManyDigits) :
      Unshown ⟨xs, ops, v :: vs, ms⟩

/-- The operation that is to be performed next fails. -/
inductive Fails : Stage α → Fault α → Prop where
  | reduce {op : Operator} {right left : Measurement α} {xs ms : List (Measurement α)}
      {ops : List Operator} {vs : List (Value α)} {f : Fault α} (hdue : Due op vs)
      (hf : op.apply left right = .error f) :
      Fails ⟨right :: left :: xs, op :: ops, vs, ms⟩ f

/-- All operators are reduced, all operands are used, and this one is left. -/
inductive Ends : Stage α → Measurement α → Prop where
  | result (r : Measurement α) : Ends ⟨[r], [], [], []⟩ r

/-- The evaluation of an expression that begins with the given operand. -/
def start (m : Measurement α) (ms : List (Measurement α)) (vs : List (Value α)) : Stage α :=
  ⟨[m], [], vs, ms⟩

/-- What the evaluation comes to from here. The numbers are those of the whole expression. -/
def finish (operands operators : Nat) (s : Stage α) : Result α (Measurement α) := do
  let t ← (Stacks.mk s.operands s.operators).pushAll s.values s.rest
  let t ← Stacks.reduceDownTo 0 t.operands t.operators
  match t.operands with
  | [r] =>
    if s.values.length < s.rest.length then throw (.malformed (.unbalanced operands operators))
    else pure r
  | _ => throw (.malformed (.unbalanced operands operators))

lemma evaluate_cons (m : Measurement α) (ms : List (Measurement α)) (vs : List (Value α)) :
    evaluate (m :: ms) vs = (start m ms vs).finish (m :: ms).length vs.length := by
  rw [evaluate, finish]
  simp only [start, List.length_cons]
  rfl

/-! ### One step -/

section Step

variable {operands operators : Nat} {op : Operator} {xs ms : List (Measurement α)}
  {ops : List Operator} {vs : List (Value α)}

/-- Where a reduction is due, it is what the evaluation does next. -/
lemma finish_of_due (h : Due op vs) :
    finish operands operators ⟨xs, op :: ops, vs, ms⟩ =
      Stacks.reduce op xs >>= fun ys => finish operands operators ⟨ys, ops, vs, ms⟩ := by
  cases h with
  | last => simp [finish, Stacks.pushAll, Stacks.reduceDownTo]
  | next hv hle =>
    simp [finish, Stacks.pushAll, Stacks.push, hv, Stacks.reduceDownTo, hle]

lemma finish_of_shift {v : Value α} (hv : Operator.ofValue v = .ok op)
    (hweak : ∀ top ∈ ops.head?, top.precedence < op.precedence) :
    finish operands operators ⟨xs, ops, v :: vs, ms⟩ =
      finish operands operators ⟨ms.head?.toList ++ xs, op :: ops, vs, ms.tail⟩ := by
  have hkeep : Stacks.reduceDownTo op.precedence xs ops = .ok ⟨xs, ops⟩ := by
    cases ops with
    | nil => rfl
    | cons top ops => simp [Stacks.reduceDownTo, Nat.not_le.mpr (hweak top rfl)]
  cases ms with
  | nil => simp [finish, Stacks.pushAll, Stacks.push, hv, hkeep]
  | cons m ms =>
    simp [finish, Stacks.pushAll, Stacks.push, hv, hkeep]
    rfl

lemma finish_of_step {s t : Stage α} (h : Step s t) :
    finish operands operators s = finish operands operators t := by
  cases h with
  | reduce hdue hc => simp [finish_of_due hdue, Stacks.reduce, hc]
  | shift hv hweak => exact finish_of_shift hv hweak

lemma finish_of_steps {s t : Stage α} (h : Relation.ReflTransGen Step s t) :
    finish operands operators s = finish operands operators t := by
  induction h with
  | refl => rfl
  | tail _ h ih => rw [ih, finish_of_step h]

/-! ### Where it stops -/

lemma finish_of_defect {s : Stage α} {why : Malformation α}
    (h : Defect operands operators s why) :
    finish operands operators s = .error (.malformed why) := by
  cases h with
  | value hv => simp [finish, Stacks.pushAll, Stacks.push, hv]
  | @operands op xs ms ops vs hdue hxs =>
    rw [finish_of_due hdue]
    match xs with
    | [] => rfl
    | [x] => rfl
  | @balance xs ms hne =>
    match xs, ms with
    | [], _ => simp [finish, Stacks.pushAll, Stacks.reduceDownTo]
    | [x], [] => exact absurd ⟨rfl, rfl⟩ hne
    | [x], m :: ms => simp [finish, Stacks.pushAll, Stacks.reduceDownTo]
    | x :: y :: xs, _ => simp [finish, Stacks.pushAll, Stacks.reduceDownTo]

lemma finish_of_unshown {s : Stage α} (h : Unshown s) :
    finish operands operators s = .error .tooManyDigits := by
  cases h with
  | value hlong hv => simp [finish, Stacks.pushAll, Stacks.push, hv]

lemma finish_of_fails {s : Stage α} {f : Fault α} (h : Fails s f) :
    finish operands operators s = .error f := by
  cases h with
  | reduce hdue hf => simp [finish_of_due hdue, Stacks.reduce, hf]

lemma finish_of_ends {s : Stage α} {r : Measurement α} (h : Ends s r) :
    finish operands operators s = .ok r := by
  cases h with
  | result => simp [finish, Stacks.pushAll, Stacks.reduceDownTo]

end Step

/-! ### Progress -/

/-- A value that cannot be shown is replaced as a fault. -/
lemma showing_cases (v : Value α) (f : Fault α) :
    v.isShowable = true ∧ Fault.showing v f = f ∨
      v.isShowable = false ∧ Fault.showing v f = .tooManyDigits := by
  unfold Fault.showing
  cases v.isShowable with
  | true => exact .inl ⟨rfl, rfl⟩
  | false => exact .inr ⟨rfl, rfl⟩

/-- A value other than a measurement is an operator or it is refused. -/
lemma ofValue_of_ne_measurement {v : Value α} (hv : ∀ m, v ≠ .measurement m) :
    (∃ op, Operator.ofValue v = .ok op) ∨
      Operator.ofValue v = .error (.showing v (.malformed (.notAnOperator v))) := by
  have hlookup : v.lookup = .ok ⟨⟩ := by
    cases v with
    | measurement m => exact absurd rfl (hv m)
    | _ => rfl
  unfold Operator.ofValue
  rw [hlookup]
  cases v.asText?.bind Operator.ofSymbol? with
  | none => exact .inr rfl
  | some op => exact .inl ⟨op, rfl⟩

/-- What an evaluation may come to at a stage: it stops there. -/
inductive IsLast (operands operators : Nat) (s : Stage α) : Prop where
  | defect {why : Malformation α} (h : Defect operands operators s why)
  | unshown (h : Unshown s)
  | fails {f : Fault α} (h : Fails s f)
  | ends {r : Measurement α} (h : Ends s r)

/-- Where it does not stop, the evaluation goes on. -/
lemma exists_step_or_isLast (operands operators : Nat) (s : Stage α)
    (hs : ∀ m, .measurement m ∉ s.values) :
    (∃ t, Step s t) ∨ IsLast operands operators s := by
  -- a reduction that is due is performed, or there are too few operands for it, or it fails
  have hreduce : ∀ {op xs ops vs ms}, Due op vs → s = ⟨xs, op :: ops, vs, ms⟩ →
      (∃ t, Step s t) ∨ IsLast operands operators s := by
    rintro op xs ops vs ms hdue rfl
    match xs with
    | [] => exact .inr (.defect (.operands hdue (by simp)))
    | [x] => exact .inr (.defect (.operands hdue (by simp)))
    | right :: left :: xs =>
      cases hc : op.apply left right with
      | ok c => exact .inl ⟨_, .reduce hdue hc⟩
      | error f => exact .inr (.fails (.reduce hdue hc))
  obtain ⟨xs, ops, vs, ms⟩ := s
  cases vs with
  | nil =>
    cases ops with
    | nil =>
      by_cases h : xs.length = 1 ∧ ms = []
      · obtain ⟨hx, rfl⟩ := h
        obtain ⟨r, rfl⟩ := List.length_eq_one_iff.mp hx
        exact .inr (.ends (.result r))
      · exact .inr (.defect (.balance h))
    | cons op ops => exact hreduce .last rfl
  | cons v vs =>
    have hv : ∀ m, v ≠ .measurement m := by
      rintro m rfl
      exact hs m (by simp)
    rcases ofValue_of_ne_measurement hv with ⟨op, hop⟩ | hv
    · cases ops with
      | nil => exact .inl ⟨_, .shift hop (by simp)⟩
      | cons top ops =>
        by_cases hle : op.precedence ≤ top.precedence
        · exact hreduce (.next hop hle) rfl
        · exact .inl ⟨_, .shift hop (by simpa using hle)⟩
    · rcases showing_cases v (.malformed (.notAnOperator v)) with ⟨-, hshown⟩ | ⟨hlong, hshown⟩
      · exact .inr (.defect (.value (hv.trans (congrArg Except.error hshown))))
      · exact .inr (.unshown (.value hlong (hv.trans (congrArg Except.error hshown))))

lemma values_sublist_of_step {s t : Stage α} (h : Step s t) : List.Sublist t.values s.values := by
  cases h with
  | reduce => exact List.Sublist.refl _
  | shift => exact List.sublist_cons_self _ _

lemma values_sublist_of_steps {s t : Stage α} (h : Relation.ReflTransGen Step s t) :
    List.Sublist t.values s.values := by
  induction h with
  | refl => exact List.Sublist.refl _
  | tail _ h ih => exact (values_sublist_of_step h).trans ih

/-- The evaluation stops somewhere: every operator is taken in once and reduced once. -/
lemma exists_steps_to_last (operands operators : Nat) (s : Stage α)
    (hs : ∀ m, .measurement m ∉ s.values) :
    ∃ t, Relation.ReflTransGen Step s t ∧ IsLast operands operators t := by
  induction hk : 2 * s.values.length + s.operators.length using Nat.strongRecOn generalizing s with
  | ind k ih =>
    rcases exists_step_or_isLast operands operators s hs with ⟨t, hst⟩ | hlast
    · have hless : 2 * t.values.length + t.operators.length < k := by
        cases hst with
        | reduce =>
          simp only [List.length_cons] at hk ⊢
          omega
        | shift =>
          simp only [List.length_cons] at hk ⊢
          omega
      have ht : ∀ m, .measurement m ∉ t.values := fun m hm =>
        hs m ((values_sublist_of_step hst).mem hm)
      obtain ⟨u, hu, hlast⟩ := ih _ hless t ht rfl
      exact ⟨u, hu.head hst, hlast⟩
    · exact ⟨s, .refl, hlast⟩

end Stage

end Metrology.Expression
