import Metrology.Proofs.Expression.Faults
import Metrology.Proofs.Sheet.Grammar
import Metrology.Proofs.Sheet.Outcomes
import Metrology.Proofs.Sorting.Faults
import Metrology.Proofs.Storage.Faults

/-!
# What can go wrong with sheets

A line has a value or a fault of measuring, unless it divides by an operand whose unit vanishes in
the base unit. Such a line may end in a division by zero, which is no fault of measuring; it is the
only one that a reading does not skip when it may skip bad lines.
-/

namespace Metrology

/-! ### Lines -/

namespace Line

/-- There is an operator between each two operands, and no operand's unit is nested. -/
structure IsWellFormed (parts : LineParts) : Prop where
  operators : parts.1.length = parts.2.length + 1
  units : ∀ m ∈ parts.1, m.unit.IsBuiltIn ∧ m.unit.IsFlat

lemma yields_readOperand (line : String) (token : Nat) (magnitude unit : String) :
    Yields (fun f => f.isMeasuring = true) (fun m => m.unit.IsBuiltIn ∧ m.unit.IsFlat)
      (readOperand line token magnitude unit) := by
  unfold readOperand
  split
  · exact Measurement.yields_read _
  · exact yields_error.mpr rfl

lemma yields_readWords (line : String) (token : Nat) (words : List String) :
    Yields (fun f => f.isMeasuring = true) IsWellFormed (readWords line token words) := by
  match words with
  | [] => exact yields_error.mpr rfl
  | [_] => exact yields_error.mpr rfl
  | [x, u] =>
    rw [readWords]
    refine (yields_readOperand line token x u).bind fun m _ hm => yields_ok.mpr ⟨rfl, ?_⟩
    exact List.forall_mem_singleton.mpr hm
  | x :: u :: s :: rest =>
    rw [readWords]
    refine (yields_readOperand line token x u).bind fun m _ hm => ?_
    split
    · exact yields_error.mpr rfl
    · refine (yields_readWords line (token + 3) rest).bind fun parts _ hparts => ?_
      refine yields_ok.mpr ⟨?_, List.forall_mem_cons.mpr ⟨hm, hparts.units⟩⟩
      simp [hparts.operators]

lemma yields_read (line : String) :
    Yields (fun f => f.isMeasuring = true) IsWellFormed (read line) := by
  unfold read
  split
  · exact yields_error.mpr rfl
  · exact yields_readWords _ _ _

/-- Does the line divide by an operand whose unit vanishes? -/
def DividesByVanishing (line : String) : Prop :=
  ∃ parts, read line = .ok parts ∧
    ∃ m, (.div, m) ∈ parts.2.zip parts.1.tail ∧ m.unit.Vanishes

lemma not_dividesByVanishing {line : String} {parts : LineParts} (h : read line = .ok parts)
    (hdiv : .div ∉ parts.2) : ¬ DividesByVanishing line := by
  rintro ⟨parts', h', m, hm, -⟩
  rw [h] at h'
  cases h'
  exact hdiv (List.of_mem_zip hm).1

/-- A line that has no value has a fault of measuring, or it divides by a unit that vanishes. -/
lemma yields_evaluate (line : String) :
    Yields (Fault.IsMeasuringOr (DividesByVanishing line))
      (fun r => r.2.unit.IsProperOr (DividesByVanishing line)) (evaluate line) := by
  unfold evaluate
  refine ((yields_read line).mono (fun f hf => .inl hf) fun _ h => h).bind fun parts hread h => ?_
  obtain ⟨ms, ops⟩ := parts
  obtain ⟨m, ms, rfl⟩ := List.exists_cons_of_length_eq_add_one h.operators
  have hl : ops.length = ms.length := by simpa using h.operators.symm
  have hunits : ∀ x ∈ m :: ms, x.unit.IsProperOr (DividesByVanishing line) := fun x hx =>
    ⟨(h.units x hx).1, .inr (Unit.isProper_of_isFlat (h.units x hx).1 (h.units x hx).2)⟩
  have hdiv : ∀ p ∈ ops.zip ms, p.1 = .div →
      DividesByVanishing line ∨ ¬ p.2.unit.Vanishes := by
    rintro ⟨op, x⟩ hp rfl
    by_cases hx : x.unit.Vanishes
    · exact .inl ⟨(m :: ms, ops), hread, x, hp, hx⟩
    · exact .inr hx
  exact (Expression.yields_evaluate hl hunits hdiv).bind fun c _ hc => yields_ok.mpr hc

end Line

/-! ### Lines that divide by zero -/

/-- One of a unit. -/
def Measurement.one (u : Unit Float) : Measurement Float := ⟨1.0, u, by decide +kernel⟩

/-- A second divided by a unit whose base form is zero has no base form. -/
lemma Measurement.inBase_one_per {u : Unit Float} {b : Measurement Float}
    (hb : u.measureInBase 1.0 = .ok b) (hzero : (b.magnitude == 0.0) = true) :
    (one (.per (.simple .second) u)).inBase = .error .zeroDivision := by
  have hsecond : (Compound.single (.simple .second)).measureInBase 1.0 = .ok (1.0 : Float) := by
    have hbuiltIn : (Unit.simple .second : Unit Float).IsBuiltIn := by simp [SimpleUnit.builtIn]
    have hroot : (Unit.simple .second : Unit Float).root = .simple .second := rfl
    have hone := Unit.measureInBase_root hbuiltIn Binary64.isFinite_one
    rw [hroot] at hone
    rw [Compound.measureInBase, hone]
    rfl
  rw [inBase, one, Unit.per, Unit.measureInBase, Compound.measureInBase, hsecond, ok_bind, hb,
    ok_bind, Join.apply, divide, if_pos hzero]
  rfl

namespace Line

lemma isOperand_one {name : String} {u : Unit Float} (hname : Text.IsWord name.toList)
    (hu : Unit.read name = .ok u) : IsOperand "1" name (.one u) := by
  have hvalue : Decimal.readFloat? "1" = some 1.0 := by decide +kernel
  exact ⟨hvalue, (Unit.read_eq_ok_iff hname).mp hu⟩

lemma readOperand_one {name : String} {u : Unit Float} (line : String) (token : Nat)
    (hname : Text.IsWord name.toList) (hu : Unit.read name = .ok u) :
    readOperand line token "1" name = .ok (.one u) :=
  readOperand_eq_ok_of_isOperand (by decide) hname (isOperand_one hname hu)

/-- The line `1 s / 1 u + 1 m/s`, with the name of a unit in place of `u`, is read word by word. -/
lemma read_quotient_and_sum {name : String} {u : Unit Float} (hname : Text.IsWord name.toList)
    (hu : Unit.read name = .ok u) :
    read (" ".intercalate ["1", "s", "/", "1", name, "+", "1", "m/s"]) =
      .ok ([.one (.simple .second), .one u, .one (.per (.simple .meter) (.simple .second))],
        [.div, .add]) := by
  have hwords : Text.words (" ".intercalate ["1", "s", "/", "1", name, "+", "1", "m/s"]) =
      ["1", "s", "/", "1", name, "+", "1", "m/s"] := by
    refine Text.words_intercalate ?_
    simp only [List.forall_mem_cons, List.not_mem_nil, false_imp_iff, implies_true, and_true]
    exact ⟨by decide, by decide, by decide, by decide, hname, by decide, by decide, by decide⟩
  have hsecond : Unit.read "s" = .ok (.simple .second : Unit Float) := rfl
  have hspeed : Unit.read "m/s" = .ok (.per (.simple .meter) (.simple .second) : Unit Float) := rfl
  apply read_eq_ok_of_isExpression
  rw [hwords]
  change IsExpression ["1", "s", Operator.div.symbol, "1", name, Operator.add.symbol, "1", "m/s"] _
  exact .joined (isOperand_one (by decide) hsecond)
    (.joined (isOperand_one hname hu) (.operand (isOperand_one (by decide) hspeed)))

/-- Every compound whose base form is zero makes a line end in a division by zero. -/
lemma evaluate_quotient_and_sum {name : String} {c : Compound Float} {b : Measurement Float}
    (hname : Text.IsWord name.toList) (hc : Unit.read name = .ok (.compound c))
    (hb : (Unit.compound c).measureInBase 1.0 = .ok b) (hzero : (b.magnitude == 0.0) = true) :
    evaluate (" ".intercalate ["1", "s", "/", "1", name, "+", "1", "m/s"]) =
      .error .zeroDivision := by
  have hquotient : (Measurement.one (.simple .second)).div (.one (.compound c)) =
      .ok (.one (.per (.simple .second) (.compound c))) := by
    have hd : (Measurement.one (.simple .second)).unit.dimension ≠
        (Measurement.one (.compound c)).unit.dimension := nofun
    have hne : ((1.0 : Float) == 0.0) = false := by decide +kernel
    have hone : (1.0 : Float) = 1.0 / 1.0 := by decide +kernel
    exact (Measurement.div_eq_ok_of_ne hd).mpr ⟨hne, hone, rfl⟩
  have hsum : (Measurement.one (.per (.simple .second) (.compound c))).add
      (.one (.per (.simple .meter) (.simple .second))) = .error .zeroDivision := by
    have hd : (Measurement.one (.per (.simple .second) (.compound c))).unit.dimension =
        (Measurement.one (.per (.simple .meter) (.simple .second))).unit.dimension := rfl
    rw [Measurement.add, Measurement.inCommonBase, if_pos hd, Measurement.inBase_one_per hb hzero]
    rfl
  rw [evaluate, read_quotient_and_sum hname hc, ok_bind]
  dsimp only
  rw [Expression.evaluate_eq_value_split (Expression.mapM_ofValue_operator _) rfl]
  simp [Expression.Terms.value, Expression.Terms.split, Operator.isAdditive, Operator.apply,
    hquotient, hsum]

end Line

lemma Compound.compactName_tiny :
    tiny.compactName = "mg" ++ String.join (List.replicate 109 "*mg") := by
  rw [tiny, compactName_append_replicate]
  rfl

/-! ### Sheets -/

namespace Sheet

variable {strict : Bool} {path : String} {number : Nat} {ls : List String}

/-- A reading ends with the fault of one of its lines. -/
lemma exists_failed_of_ofLines {f : Fault Float}
    (h : (ofLines strict path number ls).outcome = .error f) :
    ∃ raw ∈ ls, ∃ k, LineOutcome.of strict k raw = .failed f := by
  rw [outcome_ofLines, ofOutcomes_eq_error_iff] at h
  obtain ⟨o, ho, hf⟩ := List.exists_of_findSome?_eq_some h
  obtain ⟨raw, k, hraw, rfl⟩ := mem_outcomes.mp ho
  exact ⟨raw, List.fst_mem_of_mem_zipIdx hraw, k, LineOutcome.failure?_eq_some_iff.mp hf⟩

/-- A reading that comes to an end has no line that ends it. -/
lemma of_ne_failed_of_ofLines {s : Sheet} (h : (ofLines strict path number ls).outcome = .ok s) :
    ∀ raw ∈ ls, ∀ k f, LineOutcome.of strict k raw ≠ .failed f := by
  rw [outcome_ofLines, ofOutcomes_eq_ok_iff] at h
  intro raw hraw k f hf
  obtain ⟨i, hi⟩ := List.mem_iff_getElem?.mp hraw
  have hmem : LineOutcome.of strict (number + i) raw ∈ outcomes strict number ls :=
    mem_outcomes.mpr ⟨raw, number + i, List.mk_add_mem_zipIdx_iff_getElem?.mpr hi, rfl⟩
  have hfailed : LineOutcome.of strict (number + i) raw = .failed f :=
    LineOutcome.of_eq_failed_iff.mpr (LineOutcome.of_eq_failed_iff.mp hf)
  have hnone := h.1 _ hmem
  rw [hfailed] at hnone
  cases hnone

/-- Does one of the lines divide by an operand whose unit vanishes? -/
def DividesByVanishing (ls : List String) : Prop :=
  ∃ raw ∈ ls, isPassedOver (Text.strip raw) = false ∧ Line.DividesByVanishing (Text.strip raw)

lemma isProperOr_of_mem_values {s : Sheet}
    (h : (ofLines strict path number ls).outcome = .ok s) :
    ∀ m ∈ s.values, m.unit.IsProperOr (DividesByVanishing ls) := by
  rw [outcome_ofLines, ofOutcomes_eq_ok_iff] at h
  obtain ⟨-, rfl⟩ := h
  intro m hm
  obtain ⟨e, he, rfl⟩ := List.mem_map.mp hm
  obtain ⟨raw, n, hraw, hof⟩ := mem_outcomes.mp (mem_results_collect.mp he)
  obtain ⟨hpass, -, htext, hline⟩ := LineOutcome.of_eq_evaluated_iff.mp hof
  have he : e.result.unit.IsProperOr (Line.DividesByVanishing (Text.strip raw)) :=
    (Line.yields_evaluate _).value _ (htext ▸ hline)
  exact he.mono fun hdiv => ⟨raw, List.fst_mem_of_mem_zipIdx hraw, hpass, hdiv⟩

/-- A reading fails with a fault of measuring, unless a line divides by a unit that vanishes. -/
lemma yields_ofLines (strict : Bool) (path : String) (number : Nat) (ls : List String) :
    Yields (Fault.IsMeasuringOr (DividesByVanishing ls))
      (fun s => ∀ m ∈ s.values, m.unit.IsProperOr (DividesByVanishing ls))
      (ofLines strict path number ls).outcome := by
  refine ⟨fun s hs => isProperOr_of_mem_values hs, fun f hf => ?_⟩
  obtain ⟨raw, hraw, k, hfailed⟩ := exists_failed_of_ofLines hf
  obtain ⟨hpass, hline, -⟩ := LineOutcome.of_eq_failed_iff.mp hfailed
  rcases (Line.yields_evaluate _).fault f hline with hmeasuring | ⟨hdiv, hzero⟩
  · exact .inl hmeasuring
  · exact .inr ⟨⟨raw, hraw, hpass, hdiv⟩, hzero⟩

end Sheet

/-! ### Views -/

/-- The order of results is found unless there is a reason for divisions by zero. -/
lemma Sheet.yields_sortedValues {reason : Prop} {s : Sheet}
    (h : ∀ m ∈ s.values, m.unit.IsProperOr reason) :
    Yields (fun f => reason ∧ f = .zeroDivision) (fun _ => True) s.sortedValues := by
  have hkey : ∀ m ∈ s.values, Yields (fun f => reason ∧ f = .zeroDivision) (fun _ => True)
      (do return (← OrderKey.of m, m) : Result Float (OrderKey × Measurement Float)) := by
    intro m hm
    obtain ⟨hbuiltIn, hproper⟩ := h m hm
    have hof : Yields (fun f => reason ∧ f = .zeroDivision) (fun _ => True) (OrderKey.of m) := by
      rw [OrderKey.of, Unit.base_eq_root hbuiltIn, ok_bind]
      exact (Unit.yields_toBase hproper _).bind fun x _ _ => yields_ok.mpr trivial
    exact hof.bind fun k _ _ => yields_ok.mpr trivial
  refine (yields_mapM hkey).bind fun keyed _ _ => ?_
  exact (Sorting.yields_sort (fun a b => yields_ok.mpr trivial) keyed).bind fun _ _ _ =>
    yields_ok.mpr trivial

section Statistics

open Statistics

variable {lib : Numerics Float} {s : Sheet}

lemma Sheet.statistics_of_isEmpty (h : s.values.isEmpty = true) :
    s.statistics lib = .error .noMeasurements := by
  rw [statistics, summarize, magnitudes, h]
  rfl

end Statistics

/-! ### Whole readings -/

/-- A line without a value has a fault of measuring, unless it divides by an operand whose unit
vanishes. A reading that skips bad lines comes to an end, unless one of them is such a line and does
end in a division by zero. -/
theorem Reader.exists_sheet_iff {r : Reader} {files : Storage} {text : String}
    (hstrict : r.strict = false) (htext : files.readText r.path = .ok text) :
    (∀ line f, Line.evaluate line = .error f →
      f.isMeasuring = true ∨ Line.DividesByVanishing line ∧ f = .zeroDivision) ∧
    ((∃ s, (r.read files).1.outcome = .ok s) ↔
      ∀ raw ∈ Text.lines text, isPassedOver (Text.strip raw) = false →
        Line.evaluate (Text.strip raw) ≠ .error .zeroDivision) := by
  refine ⟨fun line => (Line.yields_evaluate line).fault, ?_⟩
  rw [outcome_read htext, hstrict, Sheet.outcome_ofText]
  constructor
  · rintro ⟨s, hs⟩ raw hraw hpass hzero
    exact Sheet.of_ne_failed_of_ofLines hs raw hraw 1 .zeroDivision
      (LineOutcome.of_eq_failed_iff.mpr ⟨hpass, hzero, rfl⟩)
  · intro hall
    cases hread : (Sheet.ofLines false r.path 1 (Text.lines text)).outcome with
    | ok s => exact ⟨s, rfl⟩
    | error f =>
      obtain ⟨raw, hraw, k, hfailed⟩ := Sheet.exists_failed_of_ofLines hread
      obtain ⟨hpass, hline, hskip⟩ := LineOutcome.of_eq_failed_iff.mp hfailed
      rcases (Line.yields_evaluate _).fault f hline with hf | ⟨-, rfl⟩
      · rw [hf] at hskip
        cases hskip
      · exact absurd hline (hall raw hraw hpass)

/-- A line that ends with an operator does not end the reading. -/
theorem Reader.exists_sheet_open_ended :
    ∃ (files : Storage) (text : String), text = "1 kg +\n" ∧
      files.readText (new "a.txt" false).path = .ok text ∧
      ∃ s, ((new "a.txt" false).read files).1.outcome = .ok s := by
  have hpath : (new "a.txt" false).path = "a.txt" := by decide +kernel
  have hopen : Path.toOpen "a.txt" = ["a.txt"] := by decide +kernel
  have hbytes : (Storage.mk [(["a.txt"], .file "1 kg +\n".toUTF8)]).read "a.txt" =
      .ok "1 kg +\n".toUTF8 := Storage.read_eq_ok ["a.txt"] (by rw [hopen]; rfl) rfl rfl
  have htext : (Storage.mk [(["a.txt"], .file "1 kg +\n".toUTF8)]).readText
      (new "a.txt" false).path = .ok "1 kg +\n" := by
    rw [hpath]
    exact Storage.readText_eq_ok hbytes
  have hlines : (Text.lines "1 kg +\n").map Text.strip = ["1 kg +"] := by decide +kernel
  have hread : Line.read "1 kg +" = .error (.unreadable "1 kg +" (.pairExpectedAt 4)) := by
    have hwords : Text.words "1 kg +" = ["1", "kg", "+"] := by decide +kernel
    have hoperand : Line.readOperand "1 kg +" 1 "1" "kg" = .ok (.one (.simple .kilogram)) :=
      Line.readOperand_one _ _ (by decide) rfl
    rw [Line.read, hwords]
    simp [Line.readWords, hoperand, Operator.ofSymbol?]
  refine ⟨_, _, rfl, htext, (exists_sheet_iff rfl htext).2.mpr ?_⟩
  intro raw hraw _
  have hline : Text.strip raw = "1 kg +" := by
    have := List.mem_map_of_mem (f := Text.strip) hraw
    rwa [hlines, List.mem_singleton] at this
  rw [hline, Line.evaluate, hread]
  rintro ⟨⟩

/-- The line `1 s / 1 mg*…*mg + 1 m/s` with 110 milligrams ends in a division by zero. -/
theorem Line.evaluate_eq_zeroDivision :
    Line.evaluate (" ".intercalate ["1", "s", "/", "1",
      "mg" ++ String.join (List.replicate 109 "*mg"), "+", "1", "m/s"]) = .error .zeroDivision := by
  have hflat : ∀ u ∈ Compound.tiny.units, u.isCompound = false := fun u hu =>
    Compound.isCompound_of_mem_units_tiny hu
  obtain ⟨b, hb, hzero⟩ := Compound.measureInBase_tiny
  rw [← Compound.compactName_tiny]
  exact evaluate_quotient_and_sum (Compound.isWord_compactName Compound.isBuiltIn_tiny hflat)
    (Unit.read_compactName Compound.isBuiltIn_tiny hflat
      (Compound.isJoined_of_units_eq Compound.units_tiny)) hb hzero

end Metrology
