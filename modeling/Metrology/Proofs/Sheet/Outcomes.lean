import Metrology.Proofs.Result
import Metrology.Sheet.Reader

/-!
# Outcomes of lines

What becomes of a line is settled by its text and its number alone. A reading comes to the records
of all its lines in order, or to the fault of the first line that ends it. A reader remembers the
one and forgets the other.
-/

namespace Metrology

/-! ### One line -/

/-- Does anything but blanks and remarks stand on the line? -/
def HoldsExpression (raw : String) : Prop :=
  ∃ c r, (Text.strip raw).toList = c :: r ∧ c ≠ '#'

lemma isPassedOver_eq_false_iff {raw : String} :
    isPassedOver (Text.strip raw) = false ↔ HoldsExpression raw := by
  have hremark : "#".toList = ['#'] := rfl
  rw [isPassedOver, Bool.or_eq_false_iff, String.startsWith_string_eq_false_iff, hremark,
    HoldsExpression]
  constructor
  · rintro ⟨hempty, hprefix⟩
    cases hs : (Text.strip raw).toList with
    | nil => simp [String.toList_eq_nil_iff.mp hs] at hempty
    | cons c r =>
      refine ⟨c, r, rfl, ?_⟩
      rintro rfl
      exact hprefix (by simp [hs])
  · rintro ⟨c, r, hs, hc⟩
    refine ⟨?_, ?_⟩
    · rw [← Bool.not_eq_true, String.isEmpty_iff]
      intro h
      simp [h] at hs
    · rw [hs, List.cons_prefix_cons]
      exact fun h => hc h.1.symm

namespace LineOutcome

def evaluated? : LineOutcome → Option Evaluated
  | .evaluated e => some e
  | _ => none

def skipped? : LineOutcome → Option Skipped
  | .skipped k => some k
  | _ => none

def failure? : LineOutcome → Option (Fault Float)
  | .failed f => some f
  | _ => none

lemma evaluated?_eq_some_iff {o : LineOutcome} {e : Evaluated} :
    o.evaluated? = some e ↔ o = .evaluated e := by
  cases o <;> simp [evaluated?]

lemma skipped?_eq_some_iff {o : LineOutcome} {k : Skipped} :
    o.skipped? = some k ↔ o = .skipped k := by
  cases o <;> simp [skipped?]

lemma failure?_eq_some_iff {o : LineOutcome} {f : Fault Float} :
    o.failure? = some f ↔ o = .failed f := by
  cases o <;> simp [failure?]

variable {strict : Bool} {number : Nat} {raw : String}

lemma of_isPassedOver (h : isPassedOver (Text.strip raw) = true) :
    of strict number raw = .passed := by
  rw [of, if_pos h]

lemma of_evaluate_eq_ok {operands : List (Measurement Float)} {operators : List Operator}
    {result : Measurement Float} (h : isPassedOver (Text.strip raw) = false)
    (hline : Line.evaluate (Text.strip raw) = .ok ((operands, operators), result)) :
    of strict number raw =
      .evaluated ⟨number, Text.strip raw, operands, operators, result⟩ := by
  rw [of, if_neg (by simp [h]), hline]

lemma of_evaluate_eq_error {f : Fault Float} (h : isPassedOver (Text.strip raw) = false)
    (hline : Line.evaluate (Text.strip raw) = .error f) :
    of strict number raw =
      if f.isMeasuring && !strict then .skipped ⟨number, Text.strip raw, f⟩ else .failed f := by
  rw [of, if_neg (by simp [h]), hline]

lemma of_eq_passed_iff :
    of strict number raw = .passed ↔ isPassedOver (Text.strip raw) = true := by
  refine ⟨fun h => ?_, of_isPassedOver⟩
  cases hpass : isPassedOver (Text.strip raw) with
  | true => rfl
  | false =>
    cases hline : Line.evaluate (Text.strip raw) with
    | ok r =>
      rw [of_evaluate_eq_ok hpass hline] at h
      cases h
    | error f =>
      rw [of_evaluate_eq_error hpass hline] at h
      split at h <;> cases h

lemma of_eq_evaluated_iff {e : Evaluated} :
    of strict number raw = .evaluated e ↔ isPassedOver (Text.strip raw) = false ∧
      e.line = number ∧ e.text = Text.strip raw ∧
      Line.evaluate e.text = .ok ((e.operands, e.operators), e.result) := by
  cases hpass : isPassedOver (Text.strip raw) with
  | true => simp [of_isPassedOver hpass]
  | false =>
    obtain ⟨line, text, operands, operators, result⟩ := e
    cases hline : Line.evaluate (Text.strip raw) with
    | ok r =>
      obtain ⟨⟨ms, ops⟩, m⟩ := r
      rw [of_evaluate_eq_ok hpass hline]
      constructor
      · rintro ⟨⟩
        exact ⟨rfl, rfl, rfl, hline⟩
      · rintro ⟨-, rfl, rfl, h⟩
        cases hline.symm.trans h
        rfl
    | error f =>
      rw [of_evaluate_eq_error hpass hline]
      constructor
      · intro h
        split at h <;> cases h
      · rintro ⟨-, rfl, rfl, h⟩
        cases hline.symm.trans h

/-- A line is skipped for its fault if that is a fault of measuring and skipping is allowed. -/
lemma of_eq_skipped_iff {k : Skipped} :
    of strict number raw = .skipped k ↔ isPassedOver (Text.strip raw) = false ∧
      k.line = number ∧ k.text = Text.strip raw ∧ Line.evaluate k.text = .error k.reason ∧
      (k.reason.isMeasuring && !strict) = true := by
  cases hpass : isPassedOver (Text.strip raw) with
  | true => simp [of_isPassedOver hpass]
  | false =>
    obtain ⟨line, text, reason⟩ := k
    cases hline : Line.evaluate (Text.strip raw) with
    | ok r =>
      obtain ⟨⟨ms, ops⟩, m⟩ := r
      rw [of_evaluate_eq_ok hpass hline]
      constructor
      · rintro ⟨⟩
      · rintro ⟨-, rfl, rfl, h, -⟩
        cases hline.symm.trans h
    | error f =>
      rw [of_evaluate_eq_error hpass hline]
      constructor
      · intro h
        split at h
        · next hskip =>
          cases h
          exact ⟨rfl, rfl, rfl, hline, hskip⟩
        · cases h
      · rintro ⟨-, rfl, rfl, h, hskip⟩
        cases hline.symm.trans h
        exact if_pos hskip

/-- A line ends a reading with its fault if it holds an expression and must not be skipped. -/
lemma of_eq_failed_iff {f : Fault Float} :
    of strict number raw = .failed f ↔ isPassedOver (Text.strip raw) = false ∧
      Line.evaluate (Text.strip raw) = .error f ∧ (f.isMeasuring && !strict) = false := by
  cases hpass : isPassedOver (Text.strip raw) with
  | true => simp [of_isPassedOver hpass]
  | false =>
    cases hline : Line.evaluate (Text.strip raw) with
    | ok r =>
      obtain ⟨⟨ms, ops⟩, m⟩ := r
      simp [of_evaluate_eq_ok hpass hline]
    | error e =>
      rw [of_evaluate_eq_error hpass hline]
      constructor
      · intro h
        split at h
        · cases h
        · next hskip =>
          cases h
          exact ⟨rfl, rfl, Bool.not_eq_true _ ▸ hskip⟩
      · rintro ⟨-, ⟨⟩, hskip⟩
        exact if_neg (by simp [hskip])

end LineOutcome

/-! ### All lines -/

namespace Sheet

/-- What becomes of each line, the first of which has the given number. -/
def outcomes (strict : Bool) (number : Nat) (ls : List String) : List LineOutcome :=
  (ls.zipIdx number).map fun p => LineOutcome.of strict p.2 p.1

/-- The records of lines that do not end the reading. -/
def collect (os : List LineOutcome) : Sheet :=
  ⟨os.filterMap LineOutcome.evaluated?, os.filterMap LineOutcome.skipped?⟩

/-- The fault of the first line that ends the reading, or else all records. -/
def ofOutcomes (os : List LineOutcome) : Result Float Sheet :=
  match os.findSome? LineOutcome.failure? with
  | some f => .error f
  | none => .ok (collect os)

@[simp] lemma outcomes_nil (strict : Bool) (number : Nat) : outcomes strict number [] = [] := rfl

@[simp] lemma outcomes_cons (strict : Bool) (number : Nat) (raw : String) (ls : List String) :
    outcomes strict number (raw :: ls) =
      LineOutcome.of strict number raw :: outcomes strict (number + 1) ls := rfl

@[simp] lemma collect_nil : collect [] = ⟨[], []⟩ := rfl

@[simp] lemma collect_cons (o : LineOutcome) (os : List LineOutcome) :
    collect (o :: os) = cons o (collect os) := by
  cases o <;> rfl

@[simp] lemma collect_append (os ps : List LineOutcome) :
    collect (os ++ ps) =
      ⟨(collect os).results ++ (collect ps).results,
        (collect os).skipped ++ (collect ps).skipped⟩ := by
  simp [collect]

lemma ofOutcomes_eq_ok_iff {os : List LineOutcome} {s : Sheet} :
    ofOutcomes os = .ok s ↔ (∀ o ∈ os, o.failure? = none) ∧ collect os = s := by
  rw [← List.findSome?_eq_none_iff, ofOutcomes]
  cases os.findSome? LineOutcome.failure? with
  | none => simp
  | some f => simp

lemma ofOutcomes_eq_error_iff {os : List LineOutcome} {f : Fault Float} :
    ofOutcomes os = .error f ↔ os.findSome? LineOutcome.failure? = some f := by
  rw [ofOutcomes]
  cases os.findSome? LineOutcome.failure? with
  | none => simp
  | some f => simp

lemma ofOutcomes_cons {o : LineOutcome} (h : o.failure? = none) (os : List LineOutcome) :
    ofOutcomes (o :: os) = (ofOutcomes os).map (cons o) := by
  rw [ofOutcomes, ofOutcomes, List.findSome?_cons, h, collect_cons]
  cases os.findSome? LineOutcome.failure? with
  | none => rfl
  | some f => rfl

/-- A reading settles one line after the other and looks at no line twice. -/
lemma outcome_ofLines (strict : Bool) (path : String) (number : Nat) (ls : List String) :
    (ofLines strict path number ls).outcome = ofOutcomes (outcomes strict number ls) := by
  induction ls generalizing number with
  | nil => rfl
  | cons raw ls ih =>
    rw [outcomes_cons, ofLines]
    split
    · next f hof =>
      rw [hof]
      rfl
    · next hof =>
      have hnone : (LineOutcome.of strict number raw).failure? = none := by
        cases h : LineOutcome.of strict number raw with
        | failed f => exact absurd h (hof f)
        | passed | evaluated e | skipped k => rfl
      rw [ofOutcomes_cons hnone, ← ih]

lemma outcome_ofText (strict : Bool) (path text : String) :
    (ofText strict path text).outcome = (ofLines strict path 1 (Text.lines text)).outcome := by
  unfold ofText
  dsimp only
  split
  · next s h => rw [h, pure_eq_ok]
  · next f h => rw [h, throw_eq_error]

/-! ### Membership -/

variable {strict : Bool} {number : Nat} {ls : List String}

lemma mem_results_collect {os : List LineOutcome} {e : Evaluated} :
    e ∈ (collect os).results ↔ .evaluated e ∈ os := by
  simp [collect, LineOutcome.evaluated?_eq_some_iff]

lemma mem_skipped_collect {os : List LineOutcome} {k : Skipped} :
    k ∈ (collect os).skipped ↔ .skipped k ∈ os := by
  simp [collect, LineOutcome.skipped?_eq_some_iff]

lemma mem_outcomes {o : LineOutcome} :
    o ∈ outcomes strict number ls ↔
      ∃ raw n, (raw, n) ∈ ls.zipIdx number ∧ LineOutcome.of strict n raw = o := by
  simp [outcomes]

end Sheet

/-! ### Readings -/

namespace Reader

variable {r : Reader} {files : Storage} {text : String} {s : Sheet}

lemma outcome_read (h : files.readText r.path = .ok text) :
    (r.read files).1.outcome = (Sheet.ofText r.strict r.path text).outcome := by
  unfold read
  rw [h]
  dsimp only
  split <;> rfl

/-- A file without a text has no more than the lines in front of its fault. -/
lemma outcome_read_of_error {f : Fault Float} (h : files.readText r.path = .error f) :
    (r.read files).1.outcome =
      (Sheet.ofLines r.strict r.path 1 (files.linesBeforeFault r.path)).outcome >>=
        fun _ => .error f := by
  rw [read, h]
  rfl

/-- If there are no lines in front of the fault, nothing is read. -/
lemma read_of_error {f : Fault Float} (h : files.readText r.path = .error f)
    (hlines : files.linesBeforeFault r.path = []) : r.read files = (⟨[], .error f⟩, r) := by
  rw [read, h]
  dsimp only
  rw [hlines]
  rfl

/-- Of a file that cannot be opened nothing is read. -/
lemma read_of_read_error {f : FileFault} (h : files.read r.path = .error f) :
    r.read files = (⟨[], .error (.file f)⟩, r) := by
  refine read_of_error ?_ ?_
  · rw [Storage.readText, h]
    rfl
  · rw [Storage.linesBeforeFault, h]

lemma outcome_read_ne_ok_of_error {f : Fault Float} (h : files.readText r.path = .error f) :
    (r.read files).1.outcome ≠ .ok s := by
  rw [outcome_read_of_error h, Ne, bind_eq_ok]
  rintro ⟨_, -, ⟨⟩⟩

lemma outcome_read_eq (h : files.readText r.path = .ok text) :
    (r.read files).1.outcome = Sheet.ofOutcomes (Sheet.outcomes r.strict 1 (Text.lines text)) := by
  rw [outcome_read h, Sheet.outcome_ofText, Sheet.outcome_ofLines]

/-- A reading that comes to a sheet is remembered. -/
lemma read_snd_of_ok (h : (r.read files).1.outcome = .ok s) :
    (r.read files).2 = { r with sheet? := some s } := by
  cases htext : files.readText r.path with
  | error f => exact absurd h (outcome_read_ne_ok_of_error htext)
  | ok text =>
    rw [outcome_read htext] at h
    simp only [read, htext, h]

/-- A reading that fails changes nothing. -/
lemma read_snd_of_error {f : Fault Float} (h : (r.read files).1.outcome = .error f) :
    (r.read files).2 = r := by
  cases htext : files.readText r.path with
  | error f => simp only [read, htext]
  | ok text =>
    rw [outcome_read htext] at h
    simp only [read, htext, h]

end Reader

end Metrology
