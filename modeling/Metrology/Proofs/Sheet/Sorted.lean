import Metrology.Proofs.Measurement.Sorted
import Metrology.Proofs.Measurement.Reachable
import Metrology.Proofs.Sheet.Records
import Metrology.Proofs.Sheet.Session

/-!
# The sorted results of a sheet

Results are sorted by the names of their base units, and within one name by their base magnitudes.
The units of results can be told by their names, so that results with one base name fit together,
and magnitudes of different dimensions are never compared.
-/

namespace Metrology

open Sorting

/-! ### Units of results -/

lemma Line.IsOperand.isLayered {word name : String} {m : Measurement Float}
    (h : IsOperand word name m) : m.unit.IsLayered :=
  Unit.isLayered_of_read ((Unit.read_eq_ok_iff h.unit.isWord).mpr h.unit)

lemma Line.IsExpression.isLayered {ws : List String} {parts : LineParts}
    (h : IsExpression ws parts) : ∀ m ∈ parts.1, m.unit.IsLayered := by
  induction h with
  | operand h => exact List.forall_mem_singleton.mpr h.isLayered
  | joined h _ ih => exact List.forall_mem_cons.mpr ⟨h.isLayered, ih⟩

lemma Line.isLayered_of_evaluate {line : String} {parts : LineParts} {r : Measurement Float}
    (h : evaluate line = .ok (parts, r)) : r.unit.IsLayered := by
  obtain ⟨hread, heval⟩ := Line.evaluate_eq_ok_iff.mp h
  have hparts := (read_eq_ok_iff_and_read_eq_error_iff line).1 parts |>.mp hread
  exact Expression.evaluate_preserves Unit.isLayered_of_apply heval hparts.isLayered

namespace Sheet

lemma isLayered_of_mem_values {strict : Bool} {path text : String} {s : Sheet}
    (h : (ofText strict path text).outcome = .ok s) : ∀ m ∈ s.values, m.unit.IsLayered := by
  rw [outcome_ofText, outcome_ofLines, ofOutcomes_eq_ok_iff] at h
  obtain ⟨-, rfl⟩ := h
  intro m hm
  obtain ⟨e, he, rfl⟩ := List.mem_map.mp hm
  obtain ⟨raw, n, -, hof⟩ := mem_outcomes.mp (mem_results_collect.mp he)
  obtain ⟨-, -, -, hline⟩ := LineOutcome.of_eq_evaluated_iff.mp hof
  exact Line.isLayered_of_evaluate hline

end Sheet

/-! ### Keys -/

namespace OrderKey

variable {k l : OrderKey} {a b x : Measurement Float}

/-- Where a key stands: first the name decides, then the magnitude. -/
def rank (k : OrderKey) : String ×ₗ WithBot (WithTop ℚ) := toLex (k.base, Binary64.rank k.magnitude)

lemma lt_iff_rank_lt (hk : k.magnitude.isNaN = false) (hl : l.magnitude.isNaN = false) :
    lt k l = true ↔ k.rank < l.rank := by
  rw [rank, rank, Prod.Lex.toLex_lt_toLex, lt]
  split
  · next h =>
    rw [decide_eq_true_iff, Binary64.lt_iff_rank_lt hk hl, h]
    simp
  · next h =>
    rw [decide_eq_true_iff]
    simp [h]

lemma of_eq_ok_iff : of a = .ok k ↔
    (∃ b, a.unit.base = .ok b ∧ b.name = k.base) ∧ a.baseMagnitude = .ok k.magnitude := by
  obtain ⟨name, x⟩ := k
  simp only [of, bind_eq_ok, pure_eq_ok, Except.ok.injEq, mk.injEq]
  constructor
  · rintro ⟨b, hb, y, hy, rfl, rfl⟩
    exact ⟨⟨b, hb, rfl⟩, hy⟩
  · rintro ⟨⟨b, hb, rfl⟩, hx⟩
    exact ⟨b, hb, x, hx, rfl, rfl⟩

lemma of_eq_ok_of_inBase (hx : a.inBase = .ok x) : of a = .ok ⟨x.unit.name, x.magnitude⟩ := by
  obtain ⟨hbase, hmag⟩ := Unit.base_and_toBase_of_measureInBase hx
  exact of_eq_ok_iff.mpr ⟨⟨x.unit, hbase, rfl⟩, hmag⟩

/-- Is this the key of the measurement? -/
def isOf (k : OrderKey) (m : Measurement Float) : Bool :=
  match of m with
  | .ok l => l.base == k.base && l.magnitude == k.magnitude
  | .error _ => false

end OrderKey

/-- Where a measurement stands by its key. -/
def Measurement.orderRank (m : Measurement Float) : String ×ₗ WithBot (WithTop ℚ) :=
  match OrderKey.of m with
  | .ok k => k.rank
  | .error _ => toLex ("", ⊥)

namespace OrderKey

variable {k l : OrderKey} {a b : Measurement Float}

lemma orderRank_of_eq_ok (hk : of a = .ok k) : a.orderRank = k.rank := by
  rw [Measurement.orderRank, hk]

lemma isOf_iff (hk : of a = .ok k) (hnumber : k.magnitude.isNaN = false) :
    l.isOf a = true ↔ l.magnitude.isNaN = false ∧ a.orderRank = l.rank := by
  rw [isOf, hk, orderRank_of_eq_ok hk, rank, rank, toLex_inj, Prod.mk.injEq, Bool.and_eq_true,
    beq_iff_eq]
  constructor
  · rintro ⟨hbase, hmag⟩
    obtain ⟨-, hl⟩ := Binary64.isNaN_eq_false_of_beq hmag
    exact ⟨hl, hbase, (Binary64.beq_iff_rank_eq hnumber hl).mp hmag⟩
  · rintro ⟨hl, hbase, hrank⟩
    exact ⟨hbase, (Binary64.beq_iff_rank_eq hnumber hl).mpr hrank⟩

lemma le_of_orderRank_le (hk : of a = .ok k) (hl : of b = .ok l)
    (hka : k.magnitude.isNaN = false) (hlb : l.magnitude.isNaN = false)
    (h : a.orderRank ≤ b.orderRank) :
    k.base < l.base ∨ k.base = l.base ∧ k.magnitude ≤ l.magnitude := by
  rw [orderRank_of_eq_ok hk, orderRank_of_eq_ok hl, rank, rank, Prod.Lex.toLex_le_toLex] at h
  rwa [Binary64.le_iff_rank_le hka hlb]

/-- Results with one base name fit together, as their base units are the same. -/
lemma base_eq_iff_isCompatible (ha : a.unit.IsLayered) (hb : b.unit.IsLayered) (hk : of a = .ok k)
    (hl : of b = .ok l) : k.base = l.base ↔ a.unit.isCompatible b.unit = .ok true := by
  obtain ⟨⟨u, hu, hku⟩, -⟩ := of_eq_ok_iff.mp hk
  obtain ⟨⟨v, hv, hlv⟩, -⟩ := of_eq_ok_iff.mp hl
  rw [Unit.isCompatible_eq hu hv, ← hku, ← hlv, Except.ok.injEq, Bool.and_eq_true,
    decide_eq_true_iff, beq_iff_eq]
  refine ⟨fun hname => ⟨?_, hname⟩, And.right⟩
  obtain rfl : a.unit.root = u := Except.ok.inj (ha.base_eq_root.symm.trans hu)
  obtain rfl : b.unit.root = v := Except.ok.inj (hb.base_eq_root.symm.trans hv)
  rw [← Unit.dimension_root ha.isBuiltIn, ha.root.name_inj hb.root hname,
    Unit.dimension_root hb.isBuiltIn]

end OrderKey

/-! ### Sorting by keys -/

namespace Sheet

/-- A measurement has a key to be sorted by. -/
def HasKey (m : Measurement Float) : Prop :=
  ∃ k, OrderKey.of m = .ok k ∧ k.magnitude.isNaN = false

lemma exists_keyed {ms : List (Measurement Float)} (hms : ∀ m ∈ ms, HasKey m) :
    ∃ keyed, (ms.mapM fun m => OrderKey.of m >>= fun k => pure (k, m)) = .ok keyed ∧
      keyed.map Prod.snd = ms ∧
      ∀ p ∈ keyed, OrderKey.of p.2 = .ok p.1 ∧ p.1.magnitude.isNaN = false := by
  induction ms with
  | nil => exact ⟨[], rfl, rfl, by simp⟩
  | cons m ms ih =>
    obtain ⟨⟨k, hk, hnumber⟩, hms⟩ := List.forall_mem_cons.mp hms
    obtain ⟨keyed, hkeyed, hmap, hkeys⟩ := ih hms
    refine ⟨(k, m) :: keyed, ?_, ?_, List.forall_mem_cons.mpr ⟨⟨hk, hnumber⟩, hkeys⟩⟩
    · rw [List.mapM_cons, hk, hkeyed]
      rfl
    · rw [List.map_cons, hmap]

/-- Results with keys are sorted by them. -/
lemma sorts_sortedValues {s : Sheet} (hs : ∀ m ∈ s.values, HasKey m) :
    ∃ sorted, s.sortedValues = .ok sorted ∧ Sorts Measurement.orderRank s.values sorted := by
  obtain ⟨keyed, hkeyed, hmap, hkeys⟩ := exists_keyed hs
  have hcompares : Compares (fun _ : Fault Float => False) (· ∈ keyed) (fun _ => ())
      (OrderKey.rank ∘ Prod.fst) fun a b => pure (OrderKey.lt a.1 b.1) := fun p q hp hq =>
    yields_ok.mpr ⟨rfl, OrderKey.lt_iff_rank_lt (hkeys p hp).2 (hkeys q hq).2⟩
  have hyields := sort_sorts hcompares fun _ h => h
  rw [sortedValues, hkeyed, ok_bind]
  cases hsort : sort (fun a b => pure (OrderKey.lt a.1 b.1)) keyed with
  | error f => exact (hyields.fault f hsort).elim
  | ok sorted =>
    refine ⟨sorted.map Prod.snd, rfl, ?_⟩
    rw [← hmap]
    exact (hyields.value sorted hsort).1.map fun p hp => OrderKey.orderRank_of_eq_ok (hkeys p hp).1

/-- The second list is the first one in the order of the base units' names and, within one name, of
the base magnitudes. -/
structure IsSorted (values sorted : List (Measurement Float)) : Prop where
  perm : sorted.Perm values
  ascending : sorted.Pairwise fun a b => ∃ k l, OrderKey.of a = .ok k ∧ OrderKey.of b = .ok l ∧
    (k.base < l.base ∨ k.base = l.base ∧ k.magnitude ≤ l.magnitude)
  /-- What stands between two results with one base name has this name, too. -/
  grouped : ∀ front a between b behind, sorted = front ++ a :: between ++ b :: behind →
    ∀ k l, OrderKey.of a = .ok k → OrderKey.of b = .ok l → k.base = l.base →
      ∀ m ∈ between, ∃ j, OrderKey.of m = .ok j ∧ j.base = k.base
  /-- Results with equal keys stand as they stood. -/
  stable : ∀ k : OrderKey, sorted.filter k.isOf = values.filter k.isOf
  /-- Where two results can be compared, the later one is not the smaller one. -/
  notLess : sorted.Pairwise fun a b => ∀ c, b.lt a = .ok c → c = false

lemma notLess_of_le {a b : Measurement Float} {k l : OrderKey} {c : Bool}
    (hk : OrderKey.of a = .ok k) (hl : OrderKey.of b = .ok l)
    (hle : k.base < l.base ∨ k.base = l.base ∧ k.magnitude ≤ l.magnitude) (h : b.lt a = .ok c) :
    c = false := by
  obtain ⟨⟨y, x⟩, hyx, h⟩ := bind_eq_ok.mp h
  obtain ⟨-, hy, hx, hname⟩ := Measurement.inCommonBase_eq_ok.mp hyx
  cases h
  obtain rfl := Except.ok.inj ((OrderKey.of_eq_ok_of_inBase hx).symm.trans hk)
  obtain rfl := Except.ok.inj ((OrderKey.of_eq_ok_of_inBase hy).symm.trans hl)
  rcases hle with hlt | ⟨-, hle⟩
  · exact absurd hlt (hname ▸ lt_irrefl _)
  · refine decide_eq_false ?_
    rwa [Binary64.lt_iff_not_le y.finite x.finite, not_not]

/-- What stands between two elements with one base name in ascending order has this name. -/
lemma base_eq_of_between {a m b : Measurement Float}
    (ham : ∃ k j, OrderKey.of a = .ok k ∧ OrderKey.of m = .ok j ∧
      (k.base < j.base ∨ k.base = j.base ∧ k.magnitude ≤ j.magnitude))
    (hmb : ∃ j l, OrderKey.of m = .ok j ∧ OrderKey.of b = .ok l ∧
      (j.base < l.base ∨ j.base = l.base ∧ j.magnitude ≤ l.magnitude))
    {k l : OrderKey} (hk : OrderKey.of a = .ok k) (hl : OrderKey.of b = .ok l)
    (hkl : k.base = l.base) : ∃ j, OrderKey.of m = .ok j ∧ j.base = k.base := by
  obtain ⟨k', j, hk', hj, hkj⟩ := ham
  obtain ⟨j', l', hj', hl', hjl⟩ := hmb
  obtain rfl : k = k' := Except.ok.inj (hk.symm.trans hk')
  obtain rfl : j = j' := Except.ok.inj (hj.symm.trans hj')
  obtain rfl : l = l' := Except.ok.inj (hl.symm.trans hl')
  have hlower : k.base ≤ j.base := hkj.elim le_of_lt fun h => h.1.le
  have hupper : j.base ≤ k.base := hkl ▸ hjl.elim le_of_lt fun h => h.1.le
  exact ⟨j, hj, le_antisymm hupper hlower⟩

lemma isSorted_of_sorts {values sorted : List (Measurement Float)} (hs : ∀ m ∈ values, HasKey m)
    (h : Sorts Measurement.orderRank values sorted) : IsSorted values sorted := by
  have hsorted := h.keepsTies.forall_mem hs
  have hascending : sorted.Pairwise fun a b => ∃ k l, OrderKey.of a = .ok k ∧
      OrderKey.of b = .ok l ∧ (k.base < l.base ∨ k.base = l.base ∧ k.magnitude ≤ l.magnitude) := by
    refine h.ascends.imp_of_mem fun {a b} ha hb hab => ?_
    obtain ⟨k, hk, hka⟩ := hsorted a ha
    obtain ⟨l, hl, hlb⟩ := hsorted b hb
    exact ⟨k, l, hk, hl, OrderKey.le_of_orderRank_le hk hl hka hlb hab⟩
  refine ⟨h.keepsTies.perm, hascending, ?_, ?_, ?_⟩
  · rintro front a between b behind rfl k l hk hl hkl m hm
    obtain ⟨hleft, -, hcross⟩ := List.pairwise_append.mp hascending
    have ham := (List.pairwise_cons.mp (List.pairwise_append.mp hleft).2.1).1 m hm
    have hmb := hcross m (by simp [hm]) b List.mem_cons_self
    exact base_eq_of_between ham hmb hk hl hkl
  · intro k
    have hk : ∀ m ∈ values, k.isOf m = true ↔
        k.magnitude.isNaN = false ∧ m.orderRank = k.rank := by
      intro m hm
      obtain ⟨l, hl, hnumber⟩ := hs m hm
      exact OrderKey.isOf_iff hl hnumber
    exact h.keepsTies.filter_eq hk
  · exact hascending.imp fun ⟨k, l, hk, hl, hle⟩ c hc => notLess_of_le hk hl hle hc

end Sheet

/-! ### What a reader shows -/

namespace Session

/-- What a reader has read is the sheet of some text. -/
lemma exists_ofText_of_sheet {strict : Bool} {path : String} {files : Storage} {steps : List Step}
    {sheet : Sheet}
    (h : ((Session.mk files (.new path strict)).run steps).reader.sheet = .ok sheet) :
    ∃ text, (Sheet.ofText strict (Reader.new path strict).path text).outcome = .ok sheet := by
  have hlast : (sheetsRead strict (Reader.new path strict).path files steps).getLast? =
      some sheet := by
    rw [reader_run, Reader.sheet] at h
    split at h
    · next s hs =>
      obtain rfl : s = sheet := Except.ok.inj h
      rwa [show (Reader.new path strict).sheet? = none from rfl, Option.or_none] at hs
    · cases h
  exact exists_ofText_of_mem_sheetsRead (List.mem_of_getLast? hlast)

/-- Whatever a reader has read, if all results have base magnitudes that are numbers, then it shows
them sorted. Results have one base name exactly if their units are compatible, and for those that
are not the names alone decide, whatever the magnitudes. -/
theorem view_sortedValues (lib : Statistics.Numerics Float) (strict : Bool) (path : String)
    (files : Storage) (steps : List Step) (sheet : Sheet)
    (hsheet : ((Session.mk files (.new path strict)).run steps).reader.sheet = .ok sheet)
    (hvalues : ∀ m ∈ sheet.values, ∃ x, m.baseMagnitude = .ok x ∧ x.isNaN = false) :
    (∃ sorted, ((Session.mk files (.new path strict)).run steps).reader.view lib .sortedValues =
        .ok (.measurements sorted) ∧ Sheet.IsSorted sheet.values sorted) ∧
      ∀ a ∈ sheet.values, ∀ b ∈ sheet.values, ∃ k l, OrderKey.of a = .ok k ∧
        OrderKey.of b = .ok l ∧ (k.base = l.base ↔ a.unit.isCompatible b.unit = .ok true) ∧
        (a.unit.isCompatible b.unit ≠ .ok true → ∀ x y,
          OrderKey.lt ⟨k.base, x⟩ ⟨l.base, y⟩ = decide (k.base < l.base)) := by
  obtain ⟨text, htext⟩ := exists_ofText_of_sheet hsheet
  have hlayered := Sheet.isLayered_of_mem_values htext
  have hkeys : ∀ m ∈ sheet.values, Sheet.HasKey m := by
    intro m hm
    obtain ⟨x, hx, hnumber⟩ := hvalues m hm
    exact ⟨⟨m.unit.root.name, x⟩,
      OrderKey.of_eq_ok_iff.mpr ⟨⟨_, (hlayered m hm).base_eq_root, rfl⟩, hx⟩, hnumber⟩
  refine ⟨?_, fun a ha b hb => ?_⟩
  · obtain ⟨sorted, hsorted, hsorts⟩ := Sheet.sorts_sortedValues hkeys
    refine ⟨sorted, ?_, Sheet.isSorted_of_sorts hkeys hsorts⟩
    rw [Reader.view, hsheet, ok_bind, View.ofSheet, hsorted]
    rfl
  · obtain ⟨k, hk, -⟩ := hkeys a ha
    obtain ⟨l, hl, -⟩ := hkeys b hb
    have hiff := OrderKey.base_eq_iff_isCompatible (hlayered a ha) (hlayered b hb) hk hl
    refine ⟨k, l, hk, hl, hiff, fun hne x y => ?_⟩
    rw [OrderKey.lt, if_neg (mt hiff.mp hne)]

/-- A length, a time and another length are shown with the two lengths first. -/
theorem view_sortedValues_of_three_lines :
    ∃ sheet sorted,
      ((Session.mk (.oneFile "2 km\n1 s\n500 m\n") (.new "a.txt" false)).run [.read]).reader.sheet =
        .ok sheet ∧
      (∀ m ∈ sheet.values, ∃ x, m.baseMagnitude = .ok x ∧ x.isNaN = false) ∧
      ((Session.mk (.oneFile "2 km\n1 s\n500 m\n") (.new "a.txt" false)).run [.read]).reader.view
        .plain .sortedValues = .ok (.measurements sorted) ∧
      Sheet.IsSorted sheet.values sorted ∧
      sorted.map Measurement.text = ["500.0 m", "2.0 km", "1.0 s"] := by
  have hread : (sheetOf? false (Reader.new "a.txt" false).path
      (.oneFile "2 km\n1 s\n500 m\n")).map (fun s =>
        (s.values.all fun m => m.baseMagnitude.toOption.any fun x => !x.isNaN,
          s.sortedValues.toOption.map (List.map Measurement.text))) =
      some (true, some ["500.0 m", "2.0 km", "1.0 s"]) := by decide +kernel
  obtain ⟨sheet, hsheetOf, hfacts⟩ := Option.map_eq_some_iff.mp hread
  obtain ⟨hall, htexts⟩ := Prod.mk.inj hfacts
  have hsheet : ((Session.mk (.oneFile "2 km\n1 s\n500 m\n") (.new "a.txt" false)).run
      [.read]).reader.sheet = .ok sheet := by
    rw [reader_run]
    dsimp only [sheetsRead]
    have hstrict : (Reader.new "a.txt" false).strict = false := rfl
    rw [hstrict, hsheetOf]
    rfl
  have hvalues : ∀ m ∈ sheet.values, ∃ x, m.baseMagnitude = .ok x ∧ x.isNaN = false := by
    intro m hm
    have hm := List.all_eq_true.mp hall m hm
    cases hx : m.baseMagnitude with
    | error f =>
      rw [hx] at hm
      cases hm
    | ok x =>
      rw [hx] at hm
      have hnumber : (!x.isNaN) = true := hm
      exact ⟨x, rfl, by rwa [Bool.not_eq_true'] at hnumber⟩
  obtain ⟨⟨sorted, hview, hsorted⟩, -⟩ := view_sortedValues .plain _ _ _ _ sheet hsheet hvalues
  refine ⟨sheet, sorted, hsheet, hvalues, hview, hsorted, ?_⟩
  rw [Reader.view, hsheet, ok_bind, View.ofSheet, bind_eq_ok] at hview
  obtain ⟨sorted', hsorted', heq⟩ := hview
  rw [hsorted'] at htexts
  cases heq
  exact Option.some.inj htexts

end Session

end Metrology
