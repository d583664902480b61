import Metrology.Proofs.Sheet.Records

/-!
# Strict readings

A strict reading fails where another one skips a line for the first time, with the reason for which
that line is skipped. If no line is skipped, the two come to the same sheet.
-/

namespace Metrology

/-! ### Outcomes -/

/-- What becomes of the line in a strict reading. -/
def LineOutcome.harden : LineOutcome → LineOutcome
  | .skipped k => .failed k.reason
  | o => o

lemma LineOutcome.of_true (number : Nat) (raw : String) :
    of true number raw = (of false number raw).harden := by
  cases hpass : isPassedOver (Text.strip raw) with
  | true =>
    rw [of_isPassedOver hpass, of_isPassedOver hpass]
    rfl
  | false =>
    cases hline : Line.evaluate (Text.strip raw) with
    | ok r =>
      rw [of_evaluate_eq_ok hpass hline, of_evaluate_eq_ok hpass hline]
      rfl
    | error f =>
      rw [of_evaluate_eq_error hpass hline, of_evaluate_eq_error hpass hline]
      cases f.isMeasuring <;> rfl

namespace Sheet

lemma outcomes_true (number : Nat) (ls : List String) :
    outcomes true number ls = (outcomes false number ls).map LineOutcome.harden := by
  induction ls generalizing number with
  | nil => rfl
  | cons raw ls ih => rw [outcomes_cons, outcomes_cons, List.map_cons, LineOutcome.of_true, ih]

lemma collect_map_harden (os : List LineOutcome) :
    collect (os.map LineOutcome.harden) = ⟨(collect os).results, []⟩ := by
  induction os with
  | nil => rfl
  | cons o os ih => cases o <;> simp [LineOutcome.harden, cons, ih]

/-- The first skipped line ends a strict reading. -/
lemma findSome?_map_harden {os : List LineOutcome} (h : ∀ o ∈ os, o.failure? = none) :
    (os.map LineOutcome.harden).findSome? LineOutcome.failure? =
      (collect os).skipped.head?.map Skipped.reason := by
  induction os with
  | nil => rfl
  | cons o os ih =>
    obtain ⟨ho, hos⟩ := List.forall_mem_cons.mp h
    -- up to the first skipped line nothing ends either reading
    cases o with
    | failed f => cases ho
    | skipped k => rfl
    | passed | evaluated e => exact ih hos

/-- A strict reading of lines comes to the same records as long as there are none of skipped
lines. -/
lemma ofOutcomes_true {number : Nat} {ls : List String} {s : Sheet}
    (h : ofOutcomes (outcomes false number ls) = .ok s) :
    ofOutcomes (outcomes true number ls) =
      match s.skipped with
      | [] => .ok s
      | k :: _ => .error k.reason := by
  obtain ⟨hnone, rfl⟩ := ofOutcomes_eq_ok_iff.mp h
  rw [outcomes_true, ofOutcomes, findSome?_map_harden hnone]
  cases hskipped : (collect (outcomes false number ls)).skipped with
  | cons k rest => rfl
  | nil =>
    have hresults : collect (outcomes false number ls) =
        ⟨(collect (outcomes false number ls)).results, []⟩ := by rw [← hskipped]
    change Except.ok (collect ((outcomes false number ls).map LineOutcome.harden)) = _
    rw [collect_map_harden, ← hresults]

end Sheet

/-! ### Readings -/

namespace Reader

/-- A strict reading of a text comes to the sheet of the other readings if that has no skipped line.
Otherwise it fails with the reason for the first of them, and what was read before stays. -/
theorem read_strict {r r' : Reader} {files files' : Storage} {text : String} {s : Sheet}
    (hstrict : r.strict = false) (hstrict' : r'.strict = true)
    (htext : files.readText r.path = .ok text) (htext' : files'.readText r'.path = .ok text)
    (hread : (r.read files).1.outcome = .ok s) :
    (s.skipped = [] → (r'.read files').1.outcome = .ok s ∧ (r'.read files').2.sheet = .ok s) ∧
      ∀ k rest, s.skipped = k :: rest →
        (r'.read files').1.outcome = .error k.reason ∧ (r'.read files').2 = r' ∧
          ∀ l ∈ rest, k.line < l.line := by
  rw [outcome_read_eq htext, hstrict] at hread
  have hread' := Sheet.ofOutcomes_true hread
  rw [← hstrict', ← outcome_read_eq htext'] at hread'
  constructor
  · intro hnil
    rw [hnil] at hread'
    refine ⟨hread', ?_⟩
    rw [read_snd_of_ok hread']
    rfl
  · intro k rest hcons
    rw [hcons] at hread'
    refine ⟨hread', read_snd_of_error hread', ?_⟩
    have hascend := (Sheet.records_of_ofOutcomes hread).skipped_ascend
    rw [hcons, List.map_cons, List.pairwise_cons, List.forall_mem_map] at hascend
    exact hascend.1

/-- Of two bad lines the first one ends a strict reading; without them it has the same results. -/
theorem read_strict_of_two_skipped :
    ∃ (s s₁ : Sheet) (k l : Skipped), s.skipped = [k, l] ∧ k.line = 2 ∧ l.line = 3 ∧
      k.reason.message = "Incompatible units: 'm' and 's' (Length vs Time)" ∧
      ((new "a.txt" false).read (.oneFile "1 kg\n2 m + 3 s\n3 x\n")).1.outcome = .ok s ∧
      ((new "a.txt" true).read (.oneFile "1 kg\n2 m + 3 s\n3 x\n")).1.outcome =
        .error k.reason ∧
      ((new "a.txt" false).read (.oneFile "1 kg\n")).1.outcome = .ok s₁ ∧
      ((new "a.txt" true).read (.oneFile "1 kg\n")).1.outcome = .ok s₁ := by
  have htext := fun strict => readText_new_oneFile strict "1 kg\n2 m + 3 s\n3 x\n"
  have hread := outcome_read_new_oneFile false "1 kg\n2 m + 3 s\n3 x\n" (by decide +kernel)
  have htext₁ := fun strict => readText_new_oneFile strict "1 kg\n"
  have hread₁ := outcome_read_new_oneFile false "1 kg\n" (by decide +kernel)
  have hlength : (Sheet.collect
      (Sheet.outcomes false 1 (Text.lines "1 kg\n2 m + 3 s\n3 x\n"))).skipped.length = 2 := by
    decide +kernel
  obtain ⟨k, l, hskipped⟩ := List.length_eq_two.mp hlength
  have hshown : [k, l].map (fun k => (k.line, k.reason.message)) =
      [(2, "Incompatible units: 'm' and 's' (Length vs Time)"),
        (3, "Cannot parse '3 x': unknown unit 'x' at token 2")] := by
    rw [← hskipped]
    decide +kernel
  simp only [List.map_cons, List.map_nil, List.cons.injEq, Prod.mk.injEq, and_true] at hshown
  obtain ⟨⟨hk, hmessage⟩, hl, -⟩ := hshown
  refine ⟨_, _, k, l, hskipped, hk, hl, hmessage, hread, ?_, hread₁, ?_⟩
  · exact ((read_strict rfl rfl (htext false) (htext true) hread).2 k [l] hskipped).1
  · refine ((read_strict rfl rfl (htext₁ false) (htext₁ true) hread₁).1 ?_).1
    exact List.isEmpty_iff.mp (by decide +kernel)

end Reader

end Metrology
