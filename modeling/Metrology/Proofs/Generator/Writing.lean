import Metrology.Proofs.Generator.Sheet

/-!
# Files of drawn lines

A file is opened before the number of lines is looked at: a negative number is refused when the file
has been emptied. Any other number of lines is written as it is drawn, whatever the source is, and
read back line by line.
-/

namespace Metrology.Generator

/-! ### What every source draws -/

/-- What is chosen has the property, whatever the random numbers are. -/
def Draws {β : Type} (P : β → Prop) (r : Random β) : Prop := ∀ s, P (r.run s).1

section Draws

variable {β γ : Type} {P : β → Prop} {Q : γ → Prop}

lemma draws_pure {b : β} (h : P b) : Draws P (pure b) := fun _ => h

lemma draws_any (r : Random β) : Draws (fun _ => True) r := fun _ => trivial

lemma Draws.bind {r : Random β} {f : β → Random γ} (h : Draws P r) (hf : ∀ b, P b → Draws Q (f b)) :
    Draws Q (r >>= f) := fun s => hf _ (h s) _

lemma draws_pick [Inhabited β] {bs : List β} (hdefault : P default) (h : ∀ b ∈ bs, P b) :
    Draws P (pick bs) := by
  intro s
  change P (bs[(s.integers s.usedIntegers % bs.length).toNat]?.getD default)
  cases hget : bs[(s.integers s.usedIntegers % bs.length).toNat]? with
  | none => exact hdefault
  | some b => exact h b (List.mem_of_getElem? hget)

end Draws

/-! ### Lines -/

/-- A name that is drawn contains no ending of a line. -/
lemma draws_unitName (e : Dimension) :
    Draws (fun u => Text.IsUnbroken u.toList) (pick (unitNames e)) := by
  refine draws_pick Text.isUnbroken_nil fun u hu => ?_
  obtain ⟨v, hv, -⟩ := exists_unit hu
  exact Text.isUnbroken_of_isBlank hv.isWord.2

lemma draws_firstUnits (op : Operator) :
    Draws (fun p => Text.IsUnbroken p.1.toList ∧ Text.IsUnbroken p.2.toList) (firstUnits op) := by
  cases op with
  | add | sub =>
    refine (draws_any _).bind fun e _ => (draws_unitName e).bind fun u hu => ?_
    exact (draws_unitName e).bind fun v hv => draws_pure ⟨hu, hv⟩
  | mul | div =>
    refine (draws_unitName .length).bind fun u hu => ?_
    exact (draws_unitName .mass).bind fun v hv => draws_pure ⟨hu, hv⟩

lemma isUnbroken_operandText (x : Float) {u : String} (hu : Text.IsUnbroken u.toList) :
    Text.IsUnbroken (operandText x u).toList := by
  have hnumber : Text.IsUnbroken (Decimal.briefText x).toList :=
    Text.isUnbroken_of_isBlank fun c hc => Decimal.isBlank_of_mem_briefText hc
  rw [operandText, String.toList_append, String.toList_append]
  exact (hnumber.append (by simp [Text.IsUnbroken])).append hu

lemma isUnbroken_symbol (op : Operator) : Text.IsUnbroken op.symbol.toList :=
  Text.isUnbroken_of_isBlank (isWord_symbol op).2

/-- No line ends inside a line that is drawn. -/
lemma draws_line : Draws (fun l => Text.IsUnbroken l.toList) line := by
  refine (draws_any _).bind fun op₁ _ => (draws_any _).bind fun op₂ _ => ?_
  refine (draws_firstUnits op₁).bind fun p hp => (draws_unitName .length).bind fun u₃ hu₃ => ?_
  refine (draws_any _).bind fun x₁ _ => (draws_any _).bind fun x₂ _ => ?_
  refine (draws_any _).bind fun x₃ _ => draws_pure (Text.isUnbroken_intercalate ?_)
  simp only [List.forall_mem_cons, List.not_mem_nil, false_implies, implies_true, and_true]
  exact ⟨isUnbroken_operandText x₁ hp.1, isUnbroken_symbol op₁, isUnbroken_operandText x₂ hp.2,
    isUnbroken_symbol op₂, isUnbroken_operandText x₃ hu₃⟩

lemma draws_replicate (n : Nat) :
    Draws (fun ls => ls.length = n ∧ ∀ l ∈ ls, Text.IsUnbroken l.toList) (replicate n) := by
  induction n with
  | zero => exact draws_pure ⟨rfl, by simp⟩
  | succ n ih =>
    refine draws_line.bind fun l hl => ih.bind fun ls hls => ?_
    exact draws_pure ⟨by simp [hls.1], List.forall_mem_cons.mpr ⟨hl, hls.2⟩⟩

/-- A number of lines that is not negative is drawn. -/
lemma exists_lines {count : Int} (hcount : 0 ≤ count) (source : RandomSource) :
    ∃ ls, lines count source = .ok ls ∧ (ls.length : Int) = count ∧
      ∀ l ∈ ls, Text.IsUnbroken l.toList := by
  obtain ⟨hlength, hls⟩ := draws_replicate count.toNat source
  refine ⟨_, by rw [lines, if_neg (Int.not_lt.mpr hcount)]; rfl, ?_, hls⟩
  rw [hlength, Int.toNat_of_nonneg hcount]

/-! ### Files that are opened -/

variable {files : Storage} {path : String} {place : List String} {count : Int}
  {source : RandomSource}

lemma write_of_negative (hpath : files.IsWritable path place) (hcount : count < 0) :
    write files path count source =
      (.error (.negativeCount count), files.put place (.file "".toUTF8)) := by
  rw [write, hpath.write_eq_ok, lines, if_pos hcount]
  rfl

lemma write_of_lines {ls : List String} (hpath : files.IsWritable path place)
    (hlines : lines count source = .ok ls) :
    write files path count source = (.ok ls.length,
      (files.put place (.file "".toUTF8)).put place
        (.file (String.join (ls.map (· ++ "\n"))).toUTF8)) := by
  rw [write, hpath.write_eq_ok, hlines]
  dsimp only
  rw [(hpath.put hpath _).write_eq_ok]
  rfl

/-- Where a file can be written, a negative number of lines is refused, but the file is emptied
before: the storage stays as it was only if there was an empty file. Any other number of lines is
written, and the file then has exactly the lines that the source gives, which are as many as the
number that is returned. Where no file can be written, the storage stays as it was for all
numbers. -/
theorem write_empties_or_fills (files : Storage) (path : String) (count : Int)
    (source : RandomSource) :
    (∀ place, files.IsWritable path place →
      (count < 0 →
        write files path count source =
          (.error (.negativeCount count), files.put place (.file "".toUTF8)) ∧
        ((∀ q, (files.put place (.file "".toUTF8)).node? q = files.node? q) ↔
          files.node? place = some (.file "".toUTF8))) ∧
      (0 ≤ count →
        ∃ ls full text, lines count source = .ok ls ∧ (ls.length : Int) = count ∧
          write files path count source = (.ok ls.length, full) ∧
          full.readText path = .ok text ∧ Text.lines text = ls)) ∧
    ((∀ place, ¬ files.IsWritable path place) →
      ∃ f, write files path count source = (.error (.file f), files)) := by
  refine ⟨fun place hpath => ⟨fun hcount => ?_, fun hcount => ?_⟩, fun hpath => ?_⟩
  · exact ⟨write_of_negative hpath hcount, Storage.node?_put_eq_iff⟩
  · obtain ⟨ls, hlines, hlength, hunbroken⟩ := exists_lines hcount source
    have hopened := hpath.put hpath "".toUTF8
    exact ⟨ls, _, _, hlines, hlength, write_of_lines hpath hlines,
      (hopened.put hopened _).readText_eq_ok (Storage.lookup_put_self _ _),
      Text.lines_join hunbroken⟩
  · obtain ⟨f, hf⟩ := Storage.exists_write_eq_error hpath ""
    exact ⟨f, by rw [write, hf]; rfl⟩

/-- A source that draws nothing but zeros. -/
def zeros : RandomSource := ⟨fun _ => 0, fun _ => 0.0, 0, 0⟩

lemma isWritable_a {files : Storage} (hnot : files.isDirectory ["a.txt"] = false) :
    files.IsWritable "a.txt" ["a.txt"] := by
  have hcreate : Path.toCreate "a.txt" = ["a.txt"] := by decide +kernel
  exact ⟨by rw [hcreate]; rfl, hnot⟩

theorem write_two_lines :
    ∃ full text, write .empty "a.txt" 2 zeros = (.ok 2, full) ∧
      full.readText "a.txt" = .ok text ∧ (Text.lines text).length = 2 ∧
      (write (.oneFile "") "a.txt" (-1) zeros).1 = .error (.negativeCount (-1)) ∧
      ∀ q, (write (.oneFile "") "a.txt" (-1) zeros).2.node? q = (Storage.oneFile "").node? q := by
  obtain ⟨hwritable, -⟩ := write_empties_or_fills .empty "a.txt" 2 zeros
  obtain ⟨ls, full, text, -, hlength, hwrite, htext, hlines⟩ :=
    (hwritable _ (isWritable_a rfl)).2 (by decide)
  have htwo : ls.length = 2 := by exact_mod_cast hlength
  obtain ⟨hwritable, -⟩ := write_empties_or_fills (.oneFile "") "a.txt" (-1) zeros
  obtain ⟨hrefused, hsame⟩ := (hwritable _ (isWritable_a rfl)).1 (by decide)
  refine ⟨full, text, by rw [hwrite, htwo], htext, by rw [hlines, htwo], by rw [hrefused], ?_⟩
  rw [hrefused]
  exact hsame.mpr rfl

/-- A sheet is lost when a negative number of lines is refused. Where no file can be made, the
number is not even looked at. -/
theorem write_of_negative_empties :
    ∃ emptied, write (.oneFile "1 g\n") "a.txt" (-1) zeros =
        (.error (.negativeCount (-1)), emptied) ∧
      (Storage.oneFile "1 g\n").readText "a.txt" = .ok "1 g\n" ∧
      emptied.readText "a.txt" = .ok "" ∧
      write .empty "nodir/x.txt" (-1) zeros =
        (.error (.file (.notFound "nodir/x.txt")), .empty) := by
  have hwritable : (Storage.oneFile "1 g\n").IsWritable "a.txt" ["a.txt"] := isWritable_a rfl
  have hcreate : Path.toCreate "nodir/x.txt" = ["nodir", "x.txt"] := by decide +kernel
  have hmissing : Storage.empty.write "nodir/x.txt" "" = .error (.notFound "nodir/x.txt") := by
    rw [Storage.write, hcreate]
    rfl
  refine ⟨_, write_of_negative hwritable (by decide), Storage.readText_oneFile _, ?_, ?_⟩
  · exact (hwritable.put hwritable _).readText_eq_ok (Storage.lookup_put_self _ _)
  · rw [write, hmissing]
    rfl

end Metrology.Generator
