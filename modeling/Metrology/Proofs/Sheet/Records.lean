import Metrology.Proofs.Sheet.Grammar
import Metrology.Proofs.Sheet.Outcomes
import Metrology.Proofs.Storage.Faults
import Metrology.Proofs.Text.Lines

/-!
# Records of lines

A sheet that is read without strictness records every line that holds an expression once, by its
number: among the results if the line has a value, and otherwise among the skipped lines. What is
recorded of a line depends on its text and its number alone, so the sheet of a text that is put
behind another one has the same records with other numbers.
-/

namespace Metrology

/-! ### Lines with a value -/

lemma Decimal.literal?_remark (s : List Char) : literal? ('#' :: s) = none := by
  have hsign : takeSign ('#' :: s) = (false, '#' :: s) := rfl
  have hdigits : takeDigits 0 0 ('#' :: s) = (0, 0, '#' :: s) := by
    have hdigit : digit? '#' = none := by decide
    rw [takeDigits]
    · rw [hdigit]
    · rintro c r ⟨⟩
  have hlower : lower ('#' :: s) = '#' :: lower s := rfl
  rw [literal?, hsign]
  simp [hlower, unsigned?, hdigits]

namespace Line

lemma evaluate_eq_ok_iff {line : String} {parts : LineParts} {m : Measurement Float} :
    evaluate line = .ok (parts, m) ↔
      read line = .ok parts ∧ Expression.evaluate parts.1 (parts.2.map .operator) = .ok m := by
  simp only [evaluate, bind_eq_ok]
  constructor
  · rintro ⟨parts', hread, m', hm, ⟨⟩⟩
    exact ⟨hread, hm⟩
  · rintro ⟨hread, hm⟩
    exact ⟨parts, hread, m, hm, rfl⟩

lemma words_remark {line : String} {s : List Char} (h : line.toList = '#' :: s) :
    ∃ (w : List Char) (ws : List String), Text.words line = String.ofList ('#' :: w) :: ws := by
  obtain ⟨p, ps, hs⟩ :=
    List.exists_cons_of_ne_nil (Text.pieces_ne_nil s : Text.pieces Text.isBlank s ≠ [])
  have hremark : Text.isBlank '#' = false := by decide
  refine ⟨p, (ps.filter fun q => !q.isEmpty).map String.ofList, ?_⟩
  simp [Text.words, Text.wordsOf, Text.fullPieces, h, Text.pieces, hremark, hs]

/-- A remark and a blank line are no expressions. -/
lemma holdsExpression_of_read {raw : String} {parts : LineParts}
    (h : read (Text.strip raw) = .ok parts) : HoldsExpression raw := by
  have hexpression :=
    ((read_eq_ok_iff_and_read_eq_error_iff (Text.strip raw)).1 parts).mp h
  cases hs : (Text.strip raw).toList with
  | nil =>
    have hwords : Text.words (Text.strip raw) = [] := by rw [Text.words, hs]; rfl
    rw [hwords] at hexpression
    cases hexpression
  | cons c s =>
    refine ⟨c, s, hs, ?_⟩
    rintro rfl
    -- the first word begins with the sign of a remark, as no number does
    obtain ⟨w, ws, hwords⟩ := words_remark hs
    have hword : Text.IsWord ('#' :: w) := by
      have := Text.isWord_of_mem_words (s := Text.strip raw) (w := String.ofList ('#' :: w))
        (by simp [hwords])
      rwa [String.toList_ofList] at this
    have hnone : Decimal.readFloat? (String.ofList ('#' :: w)) = none := by
      rw [Decimal.readFloat?, String.toList_ofList, Decimal.dropPadding_eq_self hword.2,
        Decimal.literal?_remark]
      rfl
    rw [hwords] at hexpression
    cases hexpression with
    | operand hoperand | joined hoperand =>
      have := hoperand.magnitude
      rw [hnone] at this
      cases this

end Line

/-! ### Membership -/

namespace Sheet

variable {strict : Bool} {number : Nat} {ls : List String}

/-- A line has a value if it is read and evaluated, and is recorded with all of that. -/
lemma mem_results_iff {e : Evaluated} :
    e ∈ (collect (outcomes strict number ls)).results ↔
      ∃ raw, (raw, e.line) ∈ ls.zipIdx number ∧ e.text = Text.strip raw ∧
        Line.read e.text = .ok (e.operands, e.operators) ∧
        Expression.evaluate e.operands (e.operators.map .operator) = .ok e.result := by
  rw [mem_results_collect, mem_outcomes]
  constructor
  · rintro ⟨raw, n, hraw, hof⟩
    obtain ⟨-, rfl, htext, hline⟩ := LineOutcome.of_eq_evaluated_iff.mp hof
    exact ⟨raw, hraw, htext, Line.evaluate_eq_ok_iff.mp hline⟩
  · rintro ⟨raw, hraw, htext, hline⟩
    have hholds : HoldsExpression raw := Line.holdsExpression_of_read (htext ▸ hline.1)
    exact ⟨raw, e.line, hraw, LineOutcome.of_eq_evaluated_iff.mpr
      ⟨isPassedOver_eq_false_iff.mpr hholds, rfl, htext, Line.evaluate_eq_ok_iff.mpr hline⟩⟩

lemma mem_skipped_iff {k : Skipped} :
    k ∈ (collect (outcomes strict number ls)).skipped ↔
      ∃ raw, (raw, k.line) ∈ ls.zipIdx number ∧ HoldsExpression raw ∧ k.text = Text.strip raw ∧
        Line.evaluate k.text = .error k.reason ∧ (k.reason.isMeasuring && !strict) = true := by
  rw [mem_skipped_collect, mem_outcomes]
  constructor
  · rintro ⟨raw, n, hraw, hof⟩
    obtain ⟨hpass, rfl, hline⟩ := LineOutcome.of_eq_skipped_iff.mp hof
    exact ⟨raw, hraw, isPassedOver_eq_false_iff.mp hpass, hline⟩
  · rintro ⟨raw, hraw, hholds, hline⟩
    exact ⟨raw, k.line, hraw, LineOutcome.of_eq_skipped_iff.mpr
      ⟨isPassedOver_eq_false_iff.mpr hholds, rfl, hline⟩⟩

/-! ### Numbers -/

/-- The numbers of all lines that are recorded. -/
def numbers (s : Sheet) : List Nat := s.results.map Evaluated.line ++ s.skipped.map Skipped.line

lemma eq_of_mem_zipIdx {raw raw' : String} {n : Nat} (h : (raw, n) ∈ ls.zipIdx number)
    (h' : (raw', n) ∈ ls.zipIdx number) : raw = raw' := by
  rw [List.mk_mem_zipIdx_iff_le_and_getElem?_sub] at h h'
  exact Option.some.inj (h.2.symm.trans h'.2)

/-- Records of one kind that have the numbers of their lines are in the order of the lines. -/
lemma pairwise_filterMap_outcomes {β : Type} {record : LineOutcome → Option β} {line : β → Nat}
    (h : ∀ n raw b, record (LineOutcome.of strict n raw) = some b → line b = n) :
    (((outcomes strict number ls).filterMap record).map line).Pairwise (· < ·) := by
  have hnumbers : (ls.zipIdx number).Pairwise fun p q => p.2 < q.2 := by
    rw [← List.pairwise_map, List.zipIdx_map_snd]
    exact List.pairwise_lt_range'
  rw [List.pairwise_map, List.pairwise_filterMap, outcomes, List.pairwise_map]
  refine hnumbers.imp ?_
  intro p q hpq b hb c hc
  rw [h _ _ _ hb, h _ _ _ hc]
  exact hpq

lemma pairwise_results :
    ((collect (outcomes strict number ls)).results.map Evaluated.line).Pairwise (· < ·) := by
  apply pairwise_filterMap_outcomes
  intro n raw e he
  exact (LineOutcome.of_eq_evaluated_iff.mp (LineOutcome.evaluated?_eq_some_iff.mp he)).2.1

lemma pairwise_skipped :
    ((collect (outcomes strict number ls)).skipped.map Skipped.line).Pairwise (· < ·) := by
  apply pairwise_filterMap_outcomes
  intro n raw k hk
  exact (LineOutcome.of_eq_skipped_iff.mp (LineOutcome.skipped?_eq_some_iff.mp hk)).2.1

/-- No line has both a value and a reason to be skipped. -/
lemma nodup_numbers : (collect (outcomes strict number ls)).numbers.Nodup := by
  refine List.nodup_append.mpr ⟨pairwise_results.imp Nat.ne_of_lt,
    pairwise_skipped.imp Nat.ne_of_lt, ?_⟩
  intro n hn m hm hnm
  obtain ⟨e, he, rfl⟩ := List.mem_map.mp hn
  obtain ⟨k, hk, rfl⟩ := List.mem_map.mp hm
  -- one number is that of one line, which would have both a value and a fault
  obtain ⟨raw, hraw, hetext, hvalue⟩ := mem_results_iff.mp he
  obtain ⟨raw', hraw', -, hktext, hfault, -⟩ := mem_skipped_iff.mp hk
  obtain rfl := eq_of_mem_zipIdx hraw (hnm ▸ hraw')
  have hevaluate := Line.evaluate_eq_ok_iff.mpr hvalue
  rw [hetext, ← hktext, hfault] at hevaluate
  cases hevaluate

/-- If no line ends the reading, those that hold an expression are the ones that are recorded. -/
lemma mem_numbers_iff (h : ∀ o ∈ outcomes strict number ls, o.failure? = none) {n : Nat} :
    n ∈ (collect (outcomes strict number ls)).numbers ↔
      ∃ raw, (raw, n) ∈ ls.zipIdx number ∧ HoldsExpression raw := by
  rw [numbers, List.mem_append, List.mem_map, List.mem_map]
  constructor
  · rintro (⟨e, he, rfl⟩ | ⟨k, hk, rfl⟩)
    · obtain ⟨raw, hraw, htext, hread, -⟩ := mem_results_iff.mp he
      exact ⟨raw, hraw, Line.holdsExpression_of_read (htext ▸ hread)⟩
    · obtain ⟨raw, hraw, hholds, -⟩ := mem_skipped_iff.mp hk
      exact ⟨raw, hraw, hholds⟩
  · rintro ⟨raw, hraw, hholds⟩
    have hmem : LineOutcome.of strict n raw ∈ outcomes strict number ls :=
      mem_outcomes.mpr ⟨raw, n, hraw, rfl⟩
    cases hof : LineOutcome.of strict n raw with
    | evaluated e =>
      rw [hof] at hmem
      exact .inl ⟨e, mem_results_collect.mpr hmem, (LineOutcome.of_eq_evaluated_iff.mp hof).2.1⟩
    | skipped k =>
      rw [hof] at hmem
      exact .inr ⟨k, mem_skipped_collect.mpr hmem, (LineOutcome.of_eq_skipped_iff.mp hof).2.1⟩
    | failed f =>
      rw [hof] at hmem
      cases h _ hmem
    | passed =>
      have hpass := LineOutcome.of_eq_passed_iff.mp hof
      rw [isPassedOver_eq_false_iff.mpr hholds] at hpass
      cases hpass

/-- The sheet is the record of these lines, which are numbered from one. -/
structure Records (s : Sheet) (ls : List String) : Prop where
  /-- The lines with a record are those that hold an expression. -/
  mem_numbers : ∀ n, n ∈ s.numbers ↔ ∃ raw, (raw, n) ∈ ls.zipIdx 1 ∧ HoldsExpression raw
  /-- No line has two records, in one list or in both. -/
  nodup : s.numbers.Nodup
  results_ascend : (s.results.map Evaluated.line).Pairwise (· < ·)
  skipped_ascend : (s.skipped.map Skipped.line).Pairwise (· < ·)
  mem_results : ∀ e, e ∈ s.results ↔
    ∃ raw, (raw, e.line) ∈ ls.zipIdx 1 ∧ e.text = Text.strip raw ∧
      Line.read e.text = .ok (e.operands, e.operators) ∧
      Expression.evaluate e.operands (e.operators.map .operator) = .ok e.result
  mem_skipped : ∀ k, k ∈ s.skipped ↔
    ∃ raw, (raw, k.line) ∈ ls.zipIdx 1 ∧ HoldsExpression raw ∧ k.text = Text.strip raw ∧
      Line.evaluate k.text = .error k.reason

lemma records_of_ofOutcomes {s : Sheet} (h : ofOutcomes (outcomes false 1 ls) = .ok s) :
    s.Records ls := by
  obtain ⟨hnone, rfl⟩ := ofOutcomes_eq_ok_iff.mp h
  refine ⟨fun n => mem_numbers_iff hnone, nodup_numbers, pairwise_results, pairwise_skipped,
    fun e => mem_results_iff, fun k => ?_⟩
  rw [mem_skipped_iff]
  constructor
  · rintro ⟨raw, hraw, hholds, htext, hfault, -⟩
    exact ⟨raw, hraw, hholds, htext, hfault⟩
  · rintro ⟨raw, hraw, hholds, htext, hfault⟩
    refine ⟨raw, hraw, hholds, htext, hfault, ?_⟩
    by_contra hskip
    have hof : LineOutcome.of false k.line raw = .failed k.reason :=
      LineOutcome.of_eq_failed_iff.mpr
        ⟨isPassedOver_eq_false_iff.mpr hholds, htext ▸ hfault, by simpa using hskip⟩
    cases hnone _ (mem_outcomes.mpr ⟨raw, k.line, hraw, hof⟩)

end Sheet

/-! ### Texts one behind the other -/

/-- The record of the same line, this many lines further down. -/
def Evaluated.shift (n : Nat) (e : Evaluated) : Evaluated := { e with line := e.line + n }

/-- The record of the same line, this many lines further down. -/
def Skipped.shift (n : Nat) (k : Skipped) : Skipped := { k with line := k.line + n }

namespace LineOutcome

def shift (n : Nat) : LineOutcome → LineOutcome
  | .evaluated e => .evaluated (e.shift n)
  | .skipped k => .skipped (k.shift n)
  | o => o

lemma of_add (strict : Bool) (number n : Nat) (raw : String) :
    of strict (number + n) raw = (of strict number raw).shift n := by
  cases hpass : isPassedOver (Text.strip raw) with
  | true =>
    rw [of_isPassedOver hpass, of_isPassedOver hpass]
    rfl
  | false =>
    cases hline : Line.evaluate (Text.strip raw) with
    | ok r =>
      rw [of_evaluate_eq_ok hpass hline, of_evaluate_eq_ok hpass hline]
      rfl
    | error f =>
      rw [of_evaluate_eq_error hpass hline, of_evaluate_eq_error hpass hline]
      split <;> rfl

lemma failure?_shift (n : Nat) (o : LineOutcome) : (o.shift n).failure? = o.failure? := by
  cases o <;> rfl

lemma evaluated?_shift (n : Nat) (o : LineOutcome) :
    (o.shift n).evaluated? = o.evaluated?.map (Evaluated.shift n) := by
  cases o <;> rfl

lemma skipped?_shift (n : Nat) (o : LineOutcome) :
    (o.shift n).skipped? = o.skipped?.map (Skipped.shift n) := by
  cases o <;> rfl

end LineOutcome

namespace Sheet

/-- The records of the same lines, this many lines further down. -/
def shift (n : Nat) (s : Sheet) : Sheet :=
  ⟨s.results.map (Evaluated.shift n), s.skipped.map (Skipped.shift n)⟩

/-- The records of one sheet followed by those of another. -/
def append (s t : Sheet) : Sheet := ⟨s.results ++ t.results, s.skipped ++ t.skipped⟩

lemma outcomes_add (strict : Bool) (number n : Nat) (ls : List String) :
    outcomes strict (number + n) ls = (outcomes strict number ls).map (LineOutcome.shift n) := by
  induction ls generalizing number with
  | nil => rfl
  | cons raw ls ih =>
    rw [outcomes_cons, outcomes_cons, List.map_cons, LineOutcome.of_add, Nat.add_right_comm, ih]

lemma outcomes_append (strict : Bool) (number : Nat) (ls ls' : List String) :
    outcomes strict number (ls ++ ls') =
      outcomes strict number ls ++ outcomes strict (number + ls.length) ls' := by
  rw [outcomes, List.zipIdx_append, List.map_append, ← outcomes, ← outcomes]

lemma collect_map_shift (n : Nat) (os : List LineOutcome) :
    collect (os.map (LineOutcome.shift n)) = (collect os).shift n := by
  simp [collect, shift, List.filterMap_map, List.map_filterMap,
    LineOutcome.evaluated?_shift, LineOutcome.skipped?_shift]

lemma ofOutcomes_append {strict : Bool} {number : Nat} {ls ls' : List String} {s s' : Sheet}
    (h : ofOutcomes (outcomes strict number ls) = .ok s)
    (h' : ofOutcomes (outcomes strict number ls') = .ok s') :
    ofOutcomes (outcomes strict number (ls ++ ls')) = .ok (s.append (s'.shift ls.length)) := by
  obtain ⟨hnone, rfl⟩ := ofOutcomes_eq_ok_iff.mp h
  obtain ⟨hnone', rfl⟩ := ofOutcomes_eq_ok_iff.mp h'
  rw [outcomes_append, outcomes_add, ofOutcomes_eq_ok_iff]
  constructor
  · rw [List.forall_mem_append, List.forall_mem_map]
    refine ⟨hnone, ?_⟩
    intro o ho
    rw [LineOutcome.failure?_shift]
    exact hnone' o ho
  · rw [collect_append, collect_map_shift, append]

end Sheet

/-! ### Readings -/

namespace Reader

variable {r : Reader} {files : Storage} {text : String} {s : Sheet}

/-- A sheet that is read without strictness is the record of its lines. If another text stands
behind a closed last line, its records follow with their numbers shifted. -/
theorem records_of_read (hstrict : r.strict = false) (htext : files.readText r.path = .ok text)
    (hread : (r.read files).1.outcome = .ok s) :
    (r.read files).2.sheet = .ok s ∧
      (∀ ls, Text.HasLines text.toList ls ↔ (Text.lines text).map String.toList = ls) ∧
      s.Records (Text.lines text) ∧
      ∀ (files₁ files₂ : Storage) (text₁ : String) (s₁ : Sheet),
        text.toList.getLast? = some '\n' → files₁.readText r.path = .ok text₁ →
        (r.read files₁).1.outcome = .ok s₁ → files₂.readText r.path = .ok (text ++ text₁) →
        (r.read files₂).1.outcome = .ok (s.append (s₁.shift (Text.lines text).length)) := by
  have hsheet : (r.read files).2.sheet = .ok s := by
    rw [read_snd_of_ok hread]
    rfl
  rw [outcome_read_eq htext, hstrict] at hread
  refine ⟨hsheet, fun ls => Text.hasLines_iff_map_lines, Sheet.records_of_ofOutcomes hread, ?_⟩
  intro files₁ files₂ text₁ s₁ hend htext₁ hread₁ htext₂
  rw [outcome_read_eq htext₁, hstrict] at hread₁
  rw [outcome_read_eq htext₂, hstrict, Text.lines_append text₁ hend]
  exact Sheet.ofOutcomes_append hread hread₁

section OneFile

variable (strict : Bool) (text : String)

lemma readText_new_oneFile :
    (Storage.oneFile text).readText (new "a.txt" strict).path = .ok text := by
  have hpath : (new "a.txt" strict).path = "a.txt" := by
    change Path.shown "a.txt" = "a.txt"
    decide +kernel
  rw [hpath, Storage.readText_oneFile]

lemma outcome_read_new_oneFile
    (h : ((Sheet.outcomes strict 1 (Text.lines text)).findSome?
      LineOutcome.failure?).isNone = true) :
    ((new "a.txt" strict).read (.oneFile text)).1.outcome =
      .ok (Sheet.collect (Sheet.outcomes strict 1 (Text.lines text))) := by
  rw [outcome_read_eq (readText_new_oneFile strict text), Sheet.ofOutcomes_eq_ok_iff,
    ← List.findSome?_eq_none_iff]
  exact ⟨Option.isNone_iff_eq_none.mp h, rfl⟩

end OneFile

/-- The second of two texts stands from the fifth line on. -/
theorem records_of_read_of_two_texts :
    ∃ s s₁ : Sheet, s.results.map Evaluated.line = [1] ∧ s.skipped.map Skipped.line = [4] ∧
      s.Records ["1 kg", "# x", "", "2 m + 3 s"] ∧
      ((new "a.txt" false).read (.oneFile ("1 kg\r# x\n\n2 m + 3 s\n" ++ "\n 1 m"))).1.outcome =
        .ok (s.append (s₁.shift 4)) ∧
      (s.append (s₁.shift 4)).results.map Evaluated.line = [1, 6] := by
  have hlines : Text.lines "1 kg\r# x\n\n2 m + 3 s\n" = ["1 kg", "# x", "", "2 m + 3 s"] := by
    decide +kernel
  have htext := readText_new_oneFile false
  have hread := outcome_read_new_oneFile false "1 kg\r# x\n\n2 m + 3 s\n" (by decide +kernel)
  have hread₁ := outcome_read_new_oneFile false "\n 1 m" (by decide +kernel)
  obtain ⟨-, -, hrecords, happend⟩ := records_of_read rfl (htext _) hread
  rw [hlines] at hrecords happend
  have hread₂ := happend _ _ _ _ (by decide +kernel) (htext _) hread₁ (htext _)
  refine ⟨_, _, ?_, ?_, hrecords, hread₂, ?_⟩
  · decide +kernel
  · decide +kernel
  · decide +kernel

end Reader

end Metrology
