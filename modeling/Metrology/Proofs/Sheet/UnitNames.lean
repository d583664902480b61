import Metrology.Proofs.Sheet.Grammar
import Metrology.Proofs.Unit.Grammar

/-!
# Valid names are names that are read

The name of a unit is checked in one way and read in another: the check looks for the name in the
table first, reading strips it and looks for signs first. Both accept the same names but for blanks
at the ends, which the check allows in names of compounds only. So the unit of an operand that has
been checked is read, and only the magnitude can be at fault.
-/

namespace Metrology

/-! ### Both ways to a unit -/

/-- The names in the table have no signs and no blanks. -/
lemma SimpleUnit.HasName.read_eq {α : Type} [Magnitude α] {name : String} {u : SimpleUnit α}
    (hu : u.HasName name.toList) : Unit.read name = .ok (.simple u) :=
  (Unit.read_eq_ok_iff hu.isWord).mpr (.simple hu)

lemma isUnitName_iff {name : String} :
    isUnitName name = true ↔ ∃ u : SimpleUnit Float, u.HasName name.toList := by
  rw [isUnitName, Option.isSome_iff_exists]
  simp only [SimpleUnit.HasName, String.ofList_toList]

/-- Blanks at the ends of a compound's name make no difference. -/
lemma Compound.exists_read_strip_iff {name : String} :
    (∃ c : Compound Float, read (Text.strip name) = .ok c) ↔
      (Compound.read (α := Float) name).toBool = true := by
  constructor
  · rintro ⟨c, hc⟩
    have hread : read name = .ok c :=
      read_eq_ok_iff_hasText.mpr (hasText_of_read hc (nameTokens_strip name).symm)
    rw [hread]
    rfl
  · intro h
    cases hread : (read name : Result Float (Compound Float)) with
    | error f =>
      rw [hread] at h
      cases h
    | ok c =>
      have htext := read_eq_ok_iff_hasText.mp hread
      exact ⟨c, htext.read_of_nameTokens (nameTokens_strip name)⟩

/-- A name with a sign is valid if it is read. -/
lemma isValidUnitName_iff_of_isCompoundName {name : String} (hsign : isCompoundName name = true) :
    isValidUnitName name = true ↔ ∃ u : Unit Float, Unit.read name = .ok u := by
  have hunit : isUnitName name = false := by
    rw [Bool.eq_false_iff, ne_eq, isUnitName_iff]
    rintro ⟨u, hu⟩
    rw [isCompoundName, hu.any_sign_eq] at hsign
    cases hsign
  rw [isValidUnitName, hunit, hsign, Bool.false_or, Bool.true_and, ← Compound.exists_read_strip_iff,
    Unit.read_of_isCompoundName hsign]
  constructor
  · rintro ⟨c, hc⟩
    exact ⟨.compound c, by rw [hc, ok_bind]⟩
  · rintro ⟨u, hu⟩
    obtain ⟨c, hc, -⟩ := bind_eq_ok.mp hu
    exact ⟨c, hc⟩

/-- A name without a sign is valid if it is read and has no blanks at its ends. -/
lemma isValidUnitName_iff_of_not_isCompoundName {name : String}
    (hsign : isCompoundName name = false) :
    isValidUnitName name = true ↔
      (∃ u : Unit Float, Unit.read name = .ok u) ∧ Text.strip name = name := by
  rw [isValidUnitName, hsign, Bool.false_and, Bool.or_false, isUnitName_iff]
  constructor
  · rintro ⟨u, hu⟩
    exact ⟨⟨.simple u, hu.read_eq⟩, Text.strip_of_isWord hu.isWord⟩
  · rintro ⟨⟨u, hu⟩, hstrip⟩
    simp only [Unit.read, hstrip, hsign, Bool.false_eq_true, if_false] at hu
    obtain ⟨v, hv, -⟩ := bind_eq_ok.mp hu
    exact ⟨v, SimpleUnit.hasName_of_resolve hv⟩

/-! ### Operands -/

namespace Line

/-- The result is a measurement in the unit, or the word for the magnitude is no finite number. -/
structure IsDecidedByMagnitude (word name : String) (u : Unit Float)
    (r : Result Float (Measurement Float)) : Prop where
  eq_ok_iff : ∀ m, r = .ok m ↔ Decimal.readFloat? word = some m.magnitude ∧ m.unit = u
  eq_error_iff : ∀ f, r = .error f ↔
    Decimal.readFloat? word = none ∧ f = .unreadable (word ++ " " ++ name) (.notANumber word) ∨
      (∃ x, Decimal.readFloat? word = some x ∧ x.isFinite = false) ∧
        f = .unreadable (word ++ " " ++ name) (.notFinite word)

section

variable {line word name : String} {token : Nat} {u : Unit Float} (hword : Text.IsWord word.toList)
  (hname : Text.IsWord name.toList)

include hword hname

lemma isDecidedByMagnitude_readOperand (hu : Unit.read name = .ok u) :
    IsDecidedByMagnitude word name u (readOperand line token word name) := by
  have hspelling := (Unit.read_eq_ok_iff hname).mp hu
  have hok : ∀ m : Measurement Float, Decimal.readFloat? word = some m.magnitude ∧ m.unit = u →
      readOperand line token word name = .ok m := by
    rintro m ⟨hmag, rfl⟩
    exact readOperand_eq_ok_of_isOperand hword hname ⟨hmag, hspelling⟩
  have herror : ∀ f, Decimal.readFloat? word = none ∧
        f = .unreadable (word ++ " " ++ name) (.notANumber word) ∨
      (∃ x, Decimal.readFloat? word = some x ∧ x.isFinite = false) ∧
        f = .unreadable (word ++ " " ++ name) (.notFinite word) →
      readOperand line token word name = .error f := by
    rintro f (⟨hnone, rfl⟩ | ⟨⟨x, hx, hinfinite⟩, rfl⟩)
    · exact readOperand_eq_error_of_breaksOperand hword hname (.number hspelling hnone)
    · exact readOperand_eq_error_of_breaksOperand hword hname (.infinite hspelling hx hinfinite)
  obtain ⟨hok, herror⟩ := eq_ok_iff_and_eq_error_iff hok herror <| by
    cases hx : Decimal.readFloat? word with
    | none => exact .inr ⟨_, .inl ⟨rfl, rfl⟩⟩
    | some x =>
      cases hfinite : x.isFinite with
      | true => exact .inl ⟨⟨x, u, hfinite⟩, rfl, rfl⟩
      | false => exact .inr ⟨_, .inr ⟨⟨x, rfl, hfinite⟩, rfl⟩⟩
  exact ⟨hok, herror⟩

end

end Line

/-! ### The check and the reading -/

/-- A name without blanks at its ends is valid exactly if it is the name of a unit that is read. So
once the unit of an operand of a line is valid, it is read, the operand is a measurement in it, and
whether there is one depends on the magnitude alone. -/
theorem isValidUnitName_iff_exists_read :
    (∀ name, isValidUnitName name = true ↔ (∃ u : Unit Float, Unit.read name = .ok u) ∧
      (isCompoundName name = true ∨ Text.strip name = name)) ∧
    (∀ name, Text.strip name = name →
      (isValidUnitName name = true ↔ ∃ u : Unit Float, Unit.read name = .ok u)) ∧
    ∀ line token, ∀ word ∈ Text.words line, ∀ name ∈ Text.words line,
      isValidUnitName name = true → ∃ u, Unit.read name = .ok u ∧
        Line.readOperand line token word name = Measurement.read (word ++ " " ++ name) ∧
        Line.IsDecidedByMagnitude word name u (Measurement.read (word ++ " " ++ name)) := by
  have hiff : ∀ name, isValidUnitName name = true ↔ (∃ u : Unit Float, Unit.read name = .ok u) ∧
      (isCompoundName name = true ∨ Text.strip name = name) := by
    intro name
    cases hsign : isCompoundName name with
    | true =>
      rw [isValidUnitName_iff_of_isCompoundName hsign]
      exact (and_iff_left (.inl rfl)).symm
    | false =>
      rw [isValidUnitName_iff_of_not_isCompoundName hsign]
      exact and_congr_right fun _ => (or_iff_right Bool.false_ne_true).symm
  refine ⟨hiff, fun name hstrip => (hiff name).trans (and_iff_left (.inr hstrip)), ?_⟩
  intro line token word hword name hname hvalid
  obtain ⟨⟨u, hu⟩, -⟩ := (hiff name).mp hvalid
  have hread : Line.readOperand line token word name = Measurement.read (word ++ " " ++ name) := by
    rw [Line.readOperand, if_pos hvalid]
  refine ⟨u, hu, hread, ?_⟩
  rw [← hread]
  exact Line.isDecidedByMagnitude_readOperand (Text.isWord_of_mem_words hword)
    (Text.isWord_of_mem_words hname) hu

/-- `km / hr` is valid, and in the line `72 km/hr * inf m` the first operand is read, whereas the
magnitude of the second one is at fault. -/
theorem isValidUnitName_of_speed :
    isValidUnitName "km / hr" = true ∧ Text.strip "km / hr" = "km / hr" ∧
      (∃ u : Unit Float, Unit.read "km / hr" = .ok u) ∧
      (∃ u m, Unit.read "km/hr" = .ok u ∧ Measurement.read ("72" ++ " " ++ "km/hr") = .ok m ∧
        m.unit = u) ∧
      Measurement.read ("inf" ++ " " ++ "m") =
        .error (.unreadable ("inf" ++ " " ++ "m") (.notFinite "inf")) := by
  obtain ⟨-, hstripped, hoperand⟩ := isValidUnitName_iff_exists_read
  have hvalid : isValidUnitName "km / hr" = true := by decide +kernel
  have hstrip : Text.strip "km / hr" = "km / hr" := by decide +kernel
  have hwords : Text.words "72 km/hr * inf m" = ["72", "km/hr", "*", "inf", "m"] := by
    decide +kernel
  have hspeed : isValidUnitName "km/hr" = true := by decide +kernel
  have hmeter : isValidUnitName "m" = true := by decide +kernel
  obtain ⟨u, hu, -, hfirst⟩ := hoperand "72 km/hr * inf m" 1 "72" (by simp [hwords]) "km/hr"
    (by simp [hwords]) hspeed
  obtain ⟨v, -, -, hsecond⟩ := hoperand "72 km/hr * inf m" 4 "inf" (by simp [hwords]) "m"
    (by simp [hwords]) hmeter
  have hnumber : Decimal.readFloat? "72" = some 72.0 := by decide +kernel
  have hinfinite : (Decimal.readFloat? "inf").map Float.isFinite = some false := by decide +kernel
  obtain ⟨x, hx, hfinite⟩ := Option.map_eq_some_iff.mp hinfinite
  refine ⟨hvalid, hstrip, (hstripped _ hstrip).mp hvalid, ?_, ?_⟩
  · exact ⟨u, ⟨72.0, u, by decide +kernel⟩, hu, (hfirst.eq_ok_iff _).mpr ⟨hnumber, rfl⟩, rfl⟩
  · exact (hsecond.eq_error_iff _).mpr (.inr ⟨⟨x, hx, hfinite⟩, rfl⟩)

end Metrology
