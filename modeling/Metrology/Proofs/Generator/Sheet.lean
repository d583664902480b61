import Metrology.Proofs.Generator.Line
import Metrology.Proofs.Storage.Path

/-!
# Sheets that are drawn

A file of random lines is read back line by line. Each line is an expression of three operands. It
has a value exactly if everything in its draft can be combined, and is skipped otherwise for two
units that do not fit together.
-/

namespace Metrology

/-- Lines that are written one after the other, each with a line feed, are read back. -/
lemma Text.lines_join {ls : List String} (h : ∀ l ∈ ls, IsUnbroken l.toList) :
    lines (String.join (ls.map (· ++ "\n"))) = ls := by
  have hlines : HasLines (String.join (ls.map (· ++ "\n"))).toList (ls.map String.toList) := by
    induction ls with
    | nil => exact .nil
    | cons l ls ih =>
      obtain ⟨hl, hls⟩ := List.forall_mem_cons.mp h
      have hchars : (String.join ((l :: ls).map (· ++ "\n"))).toList =
          l.toList ++ '\n' :: (String.join (ls.map (· ++ "\n"))).toList := by
        rw [List.map_cons, String.join_cons, String.toList_append, String.toList_append,
          List.append_assoc]
        rfl
      rw [hchars]
      exact .feed hl (ih hls)
  exact List.map_injective_iff.mpr (fun _ _ => String.toList_inj.mp)
    (hasLines_iff_map_lines.mp hlines)

lemma Fault.IsIncompatible.isMeasuring {f : Fault Float} (h : f.IsIncompatible) :
    f.isMeasuring = true := by
  obtain ⟨left, right, why, rfl⟩ := h
  rfl

namespace Generator

variable {d : Draft} {ds : List Draft}

/-! ### Reading -/

/-- No line ends the reading. -/
lemma Draft.IsDrawn.failure?_eq_none (hd : d.IsDrawn) (n : Nat) :
    (LineOutcome.of false n d.line).failure? = none := by
  obtain ⟨m₁, m₂, m₃, h⟩ := hd.exists_reads
  have hpass : isPassedOver (Text.strip d.line) = false :=
    isPassedOver_eq_false_iff.mpr (Line.holdsExpression_of_read (h.strip_eq.symm ▸ h.read_eq))
  obtain ⟨hvalue, hfault⟩ := h.evaluate
  rw [← h.strip_eq] at hvalue hfault
  by_cases hcombines : d.Combines
  · obtain ⟨r, hr⟩ := hvalue hcombines
    rw [LineOutcome.of_evaluate_eq_ok hpass hr]
    rfl
  · obtain ⟨f, hf, hincompatible⟩ := hfault hcombines
    rw [LineOutcome.of_evaluate_eq_error hpass hf, hincompatible.isMeasuring]
    rfl

/-- The lines of drafts are read to a sheet, on which a line has a value if everything in its draft
can be combined, and is skipped for two incompatible units otherwise. -/
lemma exists_sheet (hds : ∀ d ∈ ds, d.IsDrawn) :
    ∃ s, Sheet.ofOutcomes (Sheet.outcomes false 1 (ds.map Draft.line)) = .ok s ∧
      ∀ d n, (d, n) ∈ ds.zipIdx 1 →
        (n ∈ s.results.map Evaluated.line ↔ d.Combines) ∧
          (¬ d.Combines →
            ∃ k ∈ s.skipped, k.line = n ∧ k.text = d.line ∧ k.reason.IsIncompatible) := by
  have hnone : ∀ o ∈ Sheet.outcomes false 1 (ds.map Draft.line), o.failure? = none := by
    intro o ho
    obtain ⟨raw, n, hraw, rfl⟩ := Sheet.mem_outcomes.mp ho
    obtain ⟨d, hd, rfl⟩ := List.mem_map.mp (List.fst_mem_of_mem_zipIdx hraw)
    exact (hds d hd).failure?_eq_none n
  have hsheet := Sheet.ofOutcomes_eq_ok_iff.mpr ⟨hnone, rfl⟩
  have hrecords := Sheet.records_of_ofOutcomes hsheet
  refine ⟨_, hsheet, fun d n hmem => ?_⟩
  have hline : (d.line, n) ∈ (ds.map Draft.line).zipIdx 1 := by
    rw [List.zipIdx_map]
    exact List.mem_map.mpr ⟨(d, n), hmem, rfl⟩
  obtain ⟨m₁, m₂, m₃, h⟩ := (hds d (List.fst_mem_of_mem_zipIdx hmem)).exists_reads
  obtain ⟨hvalue, hfault⟩ := h.evaluate
  refine ⟨⟨fun hn => ?_, fun hcombines => ?_⟩, fun hcombines => ?_⟩
  · -- the record of line `n` is that of this line, which would have a fault
    obtain ⟨e, he, rfl⟩ := List.mem_map.mp hn
    obtain ⟨raw, hraw, htext, hread, heval⟩ := (hrecords.mem_results e).mp he
    obtain rfl := Sheet.eq_of_mem_zipIdx hraw hline
    by_contra hcombines
    obtain ⟨f, hf, -⟩ := hfault hcombines
    rw [htext, h.strip_eq] at hread
    rw [Line.evaluate_eq_ok_iff.mpr ⟨hread, heval⟩] at hf
    cases hf
  · obtain ⟨r, hr⟩ := hvalue hcombines
    obtain ⟨hread, heval⟩ := Line.evaluate_eq_ok_iff.mp hr
    refine List.mem_map.mpr ⟨⟨n, d.line, [m₁, m₂, m₃], [d.op₁, d.op₂], r⟩, ?_, rfl⟩
    exact (hrecords.mem_results _).mpr ⟨d.line, hline, h.strip_eq.symm, hread, heval⟩
  · obtain ⟨f, hf, hincompatible⟩ := hfault hcombines
    refine ⟨⟨n, d.line, f⟩, (hrecords.mem_skipped _).mpr ?_, rfl, rfl, hincompatible⟩
    exact ⟨d.line, hline, Line.holdsExpression_of_read (h.strip_eq.symm ▸ h.read_eq),
      h.strip_eq.symm, hf⟩

/-! ### Writing -/

/-- A sheet that is drawn from any source is written with as many lines as asked for, which are read
back as three operands with two operators. Without strictness a line has a value exactly if it is a
sum with three lengths or multiplies all operands; any other line is skipped for two units that do
not fit together. -/
theorem read_written {files : Storage} {path : String} {place : List String} {count : Int}
    {source : RandomSource} (hpath : files.IsWritable path place) (hcount : 0 ≤ count)
    (hsource : HasReadable source) :
    ∃ (full : Storage) (text : String) (ds : List Draft) (s : Sheet),
      write files path count source = (.ok count.toNat, full) ∧
      full.readText path = .ok text ∧
      ds = ((drafts count.toNat).run source).1 ∧ ds.length = count.toNat ∧
      Text.lines text = ds.map Draft.line ∧
      (∀ d ∈ ds, ∃ m₁ m₂ m₃, Line.read d.line = .ok ([m₁, m₂, m₃], [d.op₁, d.op₂]) ∧
        HasDimensions d.op₁ d.dimension? m₁.unit.dimension m₂.unit.dimension ∧
        m₃.unit.dimension = .length) ∧
      ((Reader.new path false).read full).1.outcome = .ok s ∧
      ∀ d n, (d, n) ∈ ds.zipIdx 1 →
        (n ∈ s.results.map Evaluated.line ↔ d.Combines) ∧
          (¬ d.Combines →
            ∃ k ∈ s.skipped, k.line = n ∧ k.text = d.line ∧ k.reason.IsIncompatible) := by
  obtain ⟨⟨hlength, hdrawn⟩, -⟩ := gives_drafts count.toNat source hsource
  obtain ⟨s, hsheet, hrecords⟩ := exists_sheet hdrawn
  set ds := ((drafts count.toNat).run source).1 with hds
  set text := String.join ((ds.map Draft.line).map (· ++ "\n")) with htext
  have hopened := hpath.put hpath "".toUTF8
  set full := (files.put place (.file "".toUTF8)).put place (.file text.toUTF8) with hfull
  have hlookup : full.entries.lookup place = some (.file text.toUTF8) := Storage.lookup_put_self _ _
  have hwritable : full.IsWritable path place := hopened.put hopened text.toUTF8
  have hlines : Text.lines text = ds.map Draft.line := by
    refine Text.lines_join fun l hl => ?_
    obtain ⟨d, hd, rfl⟩ := List.mem_map.mp hl
    obtain ⟨m₁, m₂, m₃, h⟩ := (hdrawn d hd).exists_reads
    exact h.isUnbroken
  refine ⟨full, text, ds, s, ?_, hwritable.readText_eq_ok hlookup, rfl, hlength, hlines, ?_, ?_,
    hrecords⟩
  · rw [write, hpath.write_eq_ok, lines_eq_ok hcount]
    dsimp only
    rw [hopened.write_eq_ok, ← hds, ← htext, List.length_map, hlength]
    rfl
  · intro d hd
    obtain ⟨m₁, m₂, m₃, h⟩ := (hdrawn d hd).exists_reads
    exact ⟨m₁, m₂, m₃, h.read_eq, h.dimensions, h.length⟩
  · have hread : full.readText (Reader.new path false).path = .ok text :=
      hwritable.shown.readText_eq_ok hlookup
    rw [Reader.outcome_read_eq hread, hlines]
    exact hsheet

/-- The first of three lines adds lengths, the second divides, and the third mixes times with
lengths. -/
theorem read_written_of_three_lines :
    ∃ (full : Storage) (text : String) (s : Sheet),
      write .empty "a.txt" 3 ⟨fun k => k / 2, fun _ => 0.5, 0, 0⟩ = (.ok 3, full) ∧
      full.readText "a.txt" = .ok text ∧
      Text.lines text = ["500.5 centimeters + 500.5 meters + 500.5 meters",
        "500.5 millimeters / 500.5 milligrams / 500.5 centimeters",
        "500.5 minutes - 500.5 minutes * 500.5 millimeters"] ∧
      ((Reader.new "a.txt" false).read full).1.outcome = .ok s ∧
      1 ∈ s.results.map Evaluated.line ∧ 2 ∈ s.results.map Evaluated.line ∧
      ∃ k ∈ s.skipped, k.line = 3 ∧ k.reason.IsIncompatible := by
  have hcreate : Path.toCreate "a.txt" = ["a.txt"] := by decide +kernel
  have hpath : Storage.empty.IsWritable "a.txt" ["a.txt"] := ⟨by rw [hcreate]; rfl, rfl⟩
  have hmagnitude : Decimal.readFloat? (Decimal.briefText (1.0 + (1000.0 - 1.0) * 0.5)) =
      some 500.5 := by decide +kernel
  have hsource : HasReadable ⟨fun k => k / 2, fun _ => 0.5, 0, 0⟩ := fun _ =>
    ⟨500.5, hmagnitude, by decide +kernel, by decide +kernel⟩
  obtain ⟨full, text, ds, s, hwrite, htext, hds, hlength, hlines, -, hread, hrecords⟩ :=
    read_written hpath (by decide : (0 : Int) ≤ 3) hsource
  have hdrafts : ds.map (fun d => (d.op₁.isAdditive, d.op₂.isAdditive, d.dimension?)) =
      [(true, true, some .length), (false, false, none), (true, false, some .time)] := by
    rw [hds]
    decide +kernel
  obtain ⟨d₁, d₂, d₃, rfl⟩ := List.length_eq_three.mp hlength
  simp only [List.map_cons, List.map_nil, List.cons.injEq, Prod.mk.injEq, and_true] at hdrafts
  obtain ⟨⟨hop₁, -, hlengths⟩, ⟨hop₂, hop₂', -⟩, ⟨hop₃, -, htimes⟩⟩ := hdrafts
  have hmixes : ¬ d₃.Combines := by simp [Draft.Combines, hop₃, htimes]
  obtain ⟨k, hk, hline, -, hincompatible⟩ := (hrecords d₃ 3 (by simp [List.zipIdx])).2 hmixes
  refine ⟨full, text, s, hwrite, htext, ?_, hread, ?_, ?_, k, hk, hline, hincompatible⟩
  · rw [hlines, hds]
    decide +kernel
  · exact (hrecords d₁ 1 (by simp [List.zipIdx])).1.mpr (.inl ⟨hop₁, hlengths⟩)
  · exact (hrecords d₂ 2 (by simp [List.zipIdx])).1.mpr (.inr ⟨hop₂, hop₂'⟩)

end Generator

end Metrology
