import Metrology.Proofs.Expression.Runs
import Metrology.Proofs.Expression.Steps
import Metrology.Proofs.Expression.TwoStacks

/-!
# Malformed expressions

The operators of an expression are looked at one after another, while their number is still
unknown. Every step keeps the difference between the numbers of operands and of operators, read or
not, and so only an expression with one operator between each two operands can come to an end. All
others stop at a defect, unless an operation fails before that. A defect that is a number with too
many digits has no message and ends in another fault.
-/

namespace Metrology.Expression

variable {α : Type} [Magnitude α]

/-- There is one operator fewer than operands, and each of them is one of the four. -/
structure IsWellFormed (operands : List (Measurement α)) (vs : List (Value α)) : Prop where
  operators : ∀ v ∈ vs, ∃ op, Operator.ofValue v = .ok op
  length : operands.length = vs.length + 1

/-- What the steps of an evaluation lead to: the defect, the value that cannot be shown or the
failing operation at which they stop, or the result at their end. -/
inductive Stops : List (Measurement α) → List (Value α) → Result α (Measurement α) → Prop where
  | empty (vs : List (Value α)) : Stops [] vs (.error (.malformed .noOperands))
  | defect {m : Measurement α} {ms : List (Measurement α)} {vs : List (Value α)} {t : Stage α}
      {why : Malformation α} (ht : Relation.ReflTransGen Stage.Step (.start m ms vs) t)
      (h : t.Defect (m :: ms).length vs.length why) :
      Stops (m :: ms) vs (.error (.malformed why))
  | unshown {m : Measurement α} {ms : List (Measurement α)} {vs : List (Value α)} {t : Stage α}
      (ht : Relation.ReflTransGen Stage.Step (.start m ms vs) t) (h : t.Unshown) :
      Stops (m :: ms) vs (.error .tooManyDigits)
  | operation {m : Measurement α} {ms : List (Measurement α)} {vs : List (Value α)} {t : Stage α}
      {f : Fault α} (ht : Relation.ReflTransGen Stage.Step (.start m ms vs) t) (h : t.Fails f) :
      Stops (m :: ms) vs (.error f)
  | result {m r : Measurement α} {ms : List (Measurement α)} {vs : List (Value α)} {t : Stage α}
      (ht : Relation.ReflTransGen Stage.Step (.start m ms vs) t) (h : t.Ends r) :
      Stops (m :: ms) vs (.ok r)

/-! ### Counting -/

namespace Stage

/-- The operands are one more than the operators, on the stacks and before them, and all values
that are still to be read are operators. -/
structure IsBalanced (s : Stage α) : Prop where
  stacked : s.operands.length = s.operators.length + 1
  rest : s.rest.length = s.values.length
  values : ∀ v ∈ s.values, ∃ op, Operator.ofValue v = .ok op

lemma IsBalanced.step {s t : Stage α} (hs : s.IsBalanced) (h : Step s t) : t.IsBalanced := by
  obtain ⟨hstacks, hrest, hvalues⟩ := hs
  cases h with
  | reduce hdue hc =>
    refine ⟨?_, hrest, hvalues⟩
    simp only [List.length_cons] at hstacks ⊢
    omega
  | @shift op v xs ms ops vs hv hweak =>
    obtain ⟨m, ms, rfl⟩ := List.exists_cons_of_length_eq_add_one hrest
    refine ⟨?_, by simpa using hrest, fun v hv => hvalues v (List.mem_cons_of_mem _ hv)⟩
    simpa using hstacks

lemma IsBalanced.steps {s t : Stage α} (hs : s.IsBalanced)
    (h : Relation.ReflTransGen Step s t) : t.IsBalanced := by
  induction h with
  | refl => exact hs
  | tail _ h ih => exact ih.step h

/-- With the right number of operands there is no defect to be met. -/
lemma IsBalanced.not_defect {s : Stage α} {operands operators : Nat} {why : Malformation α}
    (hs : s.IsBalanced) : ¬ Defect operands operators s why := by
  obtain ⟨hstacks, hrest, hvalues⟩ := hs
  intro h
  cases h with
  | value hv =>
    obtain ⟨op, hop⟩ := hvalues _ List.mem_cons_self
    rw [hv] at hop
    cases hop
  | operands _ hxs =>
    simp only [List.length_cons] at hstacks
    omega
  | balance hne => exact hne ⟨hstacks, List.length_eq_zero_iff.mp hrest⟩

end Stage

lemma IsWellFormed.isBalanced {m : Measurement α} {ms : List (Measurement α)}
    {vs : List (Value α)} (h : IsWellFormed (m :: ms) vs) : (Stage.start m ms vs).IsBalanced :=
  ⟨rfl, by simpa [Stage.start] using h.length, h.operators⟩

lemma forall_of_mapM_eq_ok {vs : List (Value α)} {ops : List Operator}
    (h : vs.mapM Operator.ofValue = .ok ops) : ∀ v ∈ vs, ∃ op, Operator.ofValue v = .ok op := by
  induction vs generalizing ops with
  | nil => simp
  | cons v vs ih =>
    rw [List.mapM_cons, bind_eq_ok] at h
    obtain ⟨op, hop, h⟩ := h
    obtain ⟨rest, hrest, -⟩ := bind_eq_ok.mp h
    exact List.forall_mem_cons.mpr ⟨⟨op, hop⟩, ih hrest⟩

/-! ### Where an evaluation stops -/

lemma Stops.evaluate_eq {operands : List (Measurement α)} {vs : List (Value α)}
    {x : Result α (Measurement α)} (h : Stops operands vs x) : evaluate operands vs = x := by
  cases h with
  | empty => rfl
  | defect ht h => rw [Stage.evaluate_cons, Stage.finish_of_steps ht, Stage.finish_of_defect h]
  | unshown ht h => rw [Stage.evaluate_cons, Stage.finish_of_steps ht, Stage.finish_of_unshown h]
  | operation ht h => rw [Stage.evaluate_cons, Stage.finish_of_steps ht, Stage.finish_of_fails h]
  | result ht h => rw [Stage.evaluate_cons, Stage.finish_of_steps ht, Stage.finish_of_ends h]

lemma exists_stops (operands : List (Measurement α)) {vs : List (Value α)}
    (hvs : ∀ m, .measurement m ∉ vs) : ∃ x, Stops operands vs x := by
  cases operands with
  | nil => exact ⟨_, .empty vs⟩
  | cons m ms =>
    obtain ⟨t, ht, hlast⟩ :=
      Stage.exists_steps_to_last (m :: ms).length vs.length (.start m ms vs) hvs
    cases hlast with
    | defect h => exact ⟨_, .defect ht h⟩
    | unshown h => exact ⟨_, .unshown ht h⟩
    | fails h => exact ⟨_, .operation ht h⟩
    | ends h => exact ⟨_, .result ht h⟩

/-- The value at which an evaluation stops because it cannot be shown is one of the operators. -/
lemma exists_of_unshown {m : Measurement α} {ms : List (Measurement α)} {vs : List (Value α)}
    {t : Stage α} (ht : Relation.ReflTransGen Stage.Step (.start m ms vs) t) (h : t.Unshown) :
    ∃ v ∈ vs, v.isShowable = false := by
  have hsub := Stage.values_sublist_of_steps ht
  cases h with
  | @value v xs ms ops ws hlong hv => exact ⟨v, hsub.mem List.mem_cons_self, hlong⟩

/-! ### Operands and operators in one list -/

/-- The tokens are these operands at the even positions and these values, none of which is a
measurement, at the odd ones. -/
structure Alternates (tokens : List (Value α)) (ms : List (Measurement α))
    (vs : List (Value α)) : Prop where
  even : ∀ i, tokens[2 * i]? = ms[i]?.map .measurement
  odd : ∀ i, tokens[2 * i + 1]? = vs[i]?
  values : ∀ m, .measurement m ∉ vs

/-- The tokens, of which the first is at the given position, hold something else than a measurement
at an even position or a measurement at an odd one. -/
inductive Misplaced (position : Nat) (tokens : List (Value α)) : Malformation α → Prop where
  | operand {i : Nat} {v : Value α} (h : tokens[2 * i]? = some v) (hv : ∀ m, v ≠ .measurement m) :
      Misplaced position tokens (.operandExpected (position + 2 * i) v)
  | operator {i : Nat} {m : Measurement α} (h : tokens[2 * i + 1]? = some (.measurement m)) :
      Misplaced position tokens (.operatorExpected (position + (2 * i + 1)) m)

lemma alternates_nil : Alternates ([] : List (Value α)) [] [] := ⟨by simp, by simp, by simp⟩

lemma alternates_singleton (m : Measurement α) : Alternates [.measurement m] [m] [] := by
  refine ⟨fun i => ?_, by simp, by simp⟩
  cases i <;> simp

lemma Alternates.cons {tokens vs : List (Value α)} {ms : List (Measurement α)} {v : Value α}
    (h : Alternates tokens ms vs) (hv : ∀ m, v ≠ .measurement m) (m : Measurement α) :
    Alternates (.measurement m :: v :: tokens) (m :: ms) (v :: vs) := by
  refine ⟨fun i => ?_, fun i => ?_, fun n hn => ?_⟩
  · cases i with
    | zero => rfl
    | succ i => simpa [Nat.mul_add] using h.even i
  · cases i with
    | zero => rfl
    | succ i => simpa [Nat.mul_add] using h.odd i
  · rcases List.mem_cons.mp hn with hn | hn
    · exact hv n hn.symm
    · exact h.values n hn

lemma Misplaced.cons {position : Nat} {tokens : List (Value α)} {why : Malformation α}
    (h : Misplaced (position + 2) tokens why) (v w : Value α) :
    Misplaced position (v :: w :: tokens) why := by
  cases h with
  | @operand i v h hv =>
    rw [show position + 2 + 2 * i = position + 2 * (i + 1) by omega]
    exact .operand (by simpa [Nat.mul_add] using h) hv
  | @operator i m h =>
    rw [show position + 2 + (2 * i + 1) = position + (2 * (i + 1) + 1) by omega]
    exact .operator (by simpa [Nat.mul_add] using h)

lemma Misplaced.not_alternates {position : Nat} {tokens vs : List (Value α)}
    {ms : List (Measurement α)} {why : Malformation α} (h : Misplaced position tokens why) :
    ¬ Alternates tokens ms vs := by
  intro halt
  cases h with
  | @operand i v h hv =>
    rw [halt.even, Option.map_eq_some_iff] at h
    obtain ⟨m, -, hm⟩ := h
    exact hv m hm.symm
  | @operator i m h =>
    rw [halt.odd] at h
    exact halt.values m (List.mem_of_getElem? h)

lemma Alternates.unique {tokens vs vs' : List (Value α)} {ms ms' : List (Measurement α)}
    (h : Alternates tokens ms vs) (h' : Alternates tokens ms' vs') : ms = ms' ∧ vs = vs' := by
  constructor
  · refine List.ext_getElem? fun i => Option.map_injective ?_ ((h.even i).symm.trans (h'.even i))
    intro a b hab
    cases hab
    rfl
  · exact List.ext_getElem? fun i => (h.odd i).symm.trans (h'.odd i)

section Separate

variable {position : Nat} {v : Value α} {rest : List (Value α)}

lemma separate_of_ne_measurement (hv : ∀ m, v ≠ .measurement m) :
    separate position (v :: rest) =
      .error (.showing v (.malformed (.operandExpected position v))) := by
  cases v with
  | measurement m => exact absurd rfl (hv m)
  | _ => rfl

lemma separate_pair (m : Measurement α) (hv : ∀ n, v ≠ .measurement n) :
    separate position (.measurement m :: v :: rest) =
      separate (position + 2) rest >>= fun p => .ok (m :: p.1, v :: p.2) := by
  cases v with
  | measurement n => exact absurd rfl (hv n)
  | _ => rfl

end Separate

/-- The fault for a token in the wrong place: that it is there, or, if it is a number with too many
digits for the message, that. -/
inductive Misread : Malformation α → Fault α → Prop where
  | operand {position : Nat} {v : Value α} (hshown : v.isShowable = true) :
      Misread (.operandExpected position v) (.malformed (.operandExpected position v))
  | unshown {position : Nat} {v : Value α} (hlong : v.isShowable = false) :
      Misread (.operandExpected position v) .tooManyDigits
  | operator {position : Nat} {m : Measurement α} :
      Misread (.operatorExpected position m) (.malformed (.operatorExpected position m))

lemma misread_operand (position : Nat) (v : Value α) :
    Misread (.operandExpected position v)
      (.showing v (.malformed (.operandExpected position v))) := by
  rcases Stage.showing_cases v (.malformed (.operandExpected position v)) with
    ⟨hshown, h⟩ | ⟨hlong, h⟩
  · rw [h]
    exact .operand hshown
  · rw [h]
    exact .unshown hlong

/-- Tokens are separated, or one of them is in the wrong place. -/
lemma separate_cases (position : Nat) (tokens : List (Value α)) :
    (∃ ms vs, Alternates tokens ms vs ∧ separate position tokens = .ok (ms, vs)) ∨
      ∃ why f, Misplaced position tokens why ∧ Misread why f ∧
        separate position tokens = .error f := by
  match tokens with
  | [] => exact .inl ⟨[], [], alternates_nil, rfl⟩
  | v :: rest =>
    by_cases hv : ∃ m, v = .measurement m
    · obtain ⟨m, rfl⟩ := hv
      match rest with
      | [] => exact .inl ⟨[m], [], alternates_singleton m, rfl⟩
      | w :: rest =>
        by_cases hw : ∃ n, w = .measurement n
        · obtain ⟨n, rfl⟩ := hw
          exact .inr ⟨_, _, .operator (i := 0) rfl, .operator, rfl⟩
        · have hw := not_exists.mp hw
          rw [separate_pair m hw]
          rcases separate_cases (position + 2) rest with
            ⟨ms, vs, halt, hrest⟩ | ⟨why, f, hwhy, hf, hrest⟩
          · rw [hrest]
            exact .inl ⟨_, _, halt.cons hw m, rfl⟩
          · rw [hrest]
            exact .inr ⟨why, f, hwhy.cons _ _, hf, rfl⟩
    · have hv := not_exists.mp hv
      exact .inr ⟨_, _, .operand (i := 0) rfl hv, misread_operand position v,
        separate_of_ne_measurement hv⟩

lemma evaluateTokens_of_alternates {tokens vs : List (Value α)} {ms : List (Measurement α)}
    (h : Alternates tokens ms vs) : evaluateTokens tokens = evaluate ms vs := by
  rcases separate_cases 0 tokens with ⟨ms', vs', halt, hsep⟩ | ⟨why, f, hwhy, -⟩
  · obtain ⟨rfl, rfl⟩ := h.unique halt
    simp [evaluateTokens, hsep]
  · exact absurd h hwhy.not_alternates

lemma exists_misplaced {tokens : List (Value α)} (h : ∀ ms vs, ¬ Alternates tokens ms vs) :
    ∃ why f, Misplaced 0 tokens why ∧ Misread why f ∧ evaluateTokens tokens = .error f := by
  rcases separate_cases 0 tokens with ⟨ms, vs, halt, -⟩ | ⟨why, f, hwhy, hf, hsep⟩
  · exact absurd halt (h ms vs)
  · exact ⟨why, f, hwhy, hf, by simp [evaluateTokens, hsep]⟩

/-! ### All expressions -/

/-- What has a value has one valid operator between each two operands. -/
lemma isWellFormed_of_evaluate {operands : List (Measurement α)} {vs : List (Value α)}
    {r : Measurement α} (h : evaluate operands vs = .ok r) :
    IsWellFormed operands vs ∧ ∃ m ms ops, vs.mapM Operator.ofValue = .ok ops ∧
      (Terms.split m (ops.zip ms)).operands = operands ∧
      (Terms.split m (ops.zip ms)).value Operator.apply = .ok r := by
  obtain ⟨m, ms, ops, rfl, hops, hl⟩ := exists_operators_of_evaluate h
  have hlength : (m :: ms).length = vs.length + 1 := by
    rw [List.length_cons, length_eq_of_mapM_eq_ok hops, hl]
  refine ⟨⟨forall_of_mapM_eq_ok hops, hlength⟩, m, ms, ops, hops, ?_, ?_⟩
  · rw [Terms.operands_split, List.map_snd_zip (Nat.le_of_eq hl.symm)]
  · rwa [evaluate_eq_resume hops hl, Pending.resume_ofFirst] at h

/-- What is not well-formed is malformed, unless an operation before the defect fails, or the defect
is a number with too many digits. -/
lemma outcome_of_not_isWellFormed {operands : List (Measurement α)} {vs : List (Value α)}
    (hvs : ∀ m, .measurement m ∉ vs) (hill : ¬ IsWellFormed operands vs) :
    (∃ why, evaluate operands vs = .error (.malformed why)) ∨
      (∃ m ms t f, operands = m :: ms ∧ Relation.ReflTransGen Stage.Step (.start m ms vs) t ∧
        t.Fails f ∧ evaluate operands vs = .error f) ∨
      ((∃ v ∈ vs, v.isShowable = false) ∧ evaluate operands vs = .error .tooManyDigits) := by
  obtain ⟨x, hx⟩ := exists_stops operands hvs
  rw [hx.evaluate_eq]
  cases hx with
  | empty => exact .inl ⟨_, rfl⟩
  | defect => exact .inl ⟨_, rfl⟩
  | unshown ht h => exact .inr (.inr ⟨exists_of_unshown ht h, rfl⟩)
  | operation ht hf => exact .inr (.inl ⟨_, _, _, _, rfl, ht, hf, rfl⟩)
  | result ht hr => exact absurd (isWellFormed_of_evaluate (Stops.result ht hr).evaluate_eq).1 hill

/-- An evaluation comes to what its steps lead to, and it has a value only if there is one valid
operator between each two operands; the value is then that of all operands along the grammar. Any
other expression is malformed, unless an operation that is performed before its defect is met
fails, or the defect is a number with too many digits to be shown. Tokens are evaluated like the
measurements and the operators among them if these take turns. If they do not, they are malformed,
unless the token that is out of place is such a number. -/
theorem evaluate_eq_iff_stops {operands : List (Measurement α)} {vs : List (Value α)}
    (hvs : ∀ m, .measurement m ∉ vs) (tokens : List (Value α)) :
    (∀ x, evaluate operands vs = x ↔ Stops operands vs x) ∧
      (∀ r, evaluate operands vs = .ok r → IsWellFormed operands vs ∧
        ∃ m ms ops, vs.mapM Operator.ofValue = .ok ops ∧
          (Terms.split m (ops.zip ms)).operands = operands ∧
          (Terms.split m (ops.zip ms)).value Operator.apply = .ok r) ∧
      (¬ IsWellFormed operands vs → (∃ why, evaluate operands vs = .error (.malformed why)) ∨
        (∃ m ms t f, operands = m :: ms ∧ Relation.ReflTransGen Stage.Step (.start m ms vs) t ∧
          t.Fails f ∧ evaluate operands vs = .error f) ∨
        ((∃ v ∈ vs, v.isShowable = false) ∧ evaluate operands vs = .error .tooManyDigits)) ∧
      (IsWellFormed operands vs → ∃ m ms, operands = m :: ms ∧
        ∀ t, Relation.ReflTransGen Stage.Step (.start m ms vs) t →
          ∀ why, ¬ t.Defect operands.length vs.length why) ∧
      (∀ ms ws, Alternates tokens ms ws → evaluateTokens tokens = evaluate ms ws) ∧
      ((∀ ms ws, ¬ Alternates tokens ms ws) →
        ∃ why f, Misplaced 0 tokens why ∧ Misread why f ∧ evaluateTokens tokens = .error f) := by
  refine ⟨?_, fun r => isWellFormed_of_evaluate, outcome_of_not_isWellFormed hvs, ?_,
    fun ms ws => evaluateTokens_of_alternates, exists_misplaced⟩
  · intro x
    constructor
    · rintro rfl
      obtain ⟨x, hx⟩ := exists_stops operands hvs
      rw [hx.evaluate_eq]
      exact hx
    · exact Stops.evaluate_eq
  · intro hwell
    obtain ⟨m, ms, rfl⟩ := List.exists_cons_of_length_eq_add_one hwell.length
    exact ⟨m, ms, rfl, fun t ht why => (hwell.isBalanced.steps ht).not_defect⟩

/-- In `1 km + 5 m None` the value behind the sum is refused, before the sum is computed. -/
theorem stops_at_nothing :
    Stops [⟨1, .simple .kilometer, rfl⟩, ⟨5, .simple .meter, rfl⟩] [.text "+", .nothing]
        (.error (.malformed (.notAnOperator .nothing)) : Result Rat (Measurement Rat)) ∧
      ∃ why f, Misplaced 0 [.text "+"] why ∧ Misread why f ∧
        evaluateTokens [.text "+"] = (.error f : Result Rat (Measurement Rat)) := by
  have hvs : ∀ m, .measurement m ∉ ([.text "+", .nothing] : List (Value Rat)) := by simp
  have h := @evaluate_eq_iff_stops Rat _
    [⟨1, .simple .kilometer, rfl⟩, ⟨5, .simple .meter, rfl⟩] _ hvs [.text "+"]
  refine ⟨(h.1 _).mp rfl, h.2.2.2.2.2 ?_⟩
  intro ms ws halt
  have hfirst := halt.even 0
  cases ms <;> simp at hfirst

/-- A whole number that is too long for a message is not refused as an operator: neither where the
operator of `1 g` and `1 g` should be, although no operation is performed before it, nor as the only
token. -/
theorem evaluate_long_number :
    ¬ IsWellFormed [⟨1, .simple .gram, rfl⟩, ⟨1, .simple .gram, rfl⟩]
        [(.int (Nat.pow 10 Decimal.maxIntDigits) : Value Float)] ∧
      evaluate [⟨1, .simple .gram, rfl⟩, ⟨1, .simple .gram, rfl⟩]
        [(.int (Nat.pow 10 Decimal.maxIntDigits) : Value Float)] = .error .tooManyDigits ∧
      evaluateTokens [(.int (Nat.pow 10 Decimal.maxIntDigits) : Value Float)] =
        .error .tooManyDigits := by
  have hlong : (Value.int (Nat.pow 10 Decimal.maxIntDigits) : Value Float).isShowable = false := by
    rw [Value.isShowable, Decimal.isWritable, Int.natAbs_natCast]
    exact decide_eq_false (Nat.lt_irrefl _)
  have hv : Operator.ofValue (.int (Nat.pow 10 Decimal.maxIntDigits) : Value Float) =
      .error .tooManyDigits := by
    change Except.error (Fault.showing _ _) = _
    rw [Fault.showing, hlong]
    rfl
  refine ⟨fun h => ?_, ?_, ?_⟩
  · obtain ⟨op, hop⟩ := h.operators _ List.mem_cons_self
    rw [hv] at hop
    cases hop
  · rw [Stage.evaluate_cons, Stage.start, Stage.finish_of_unshown (.value hlong hv)]
  · change (Except.error (Fault.showing _ _) >>= _) = _
    rw [Fault.showing, hlong]
    rfl

end Metrology.Expression
