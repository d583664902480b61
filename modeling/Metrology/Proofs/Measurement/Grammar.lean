import Metrology.Proofs.Decimal.Grammar
import Metrology.Proofs.Measurement.Operations
import Metrology.Proofs.Unit.Grammar
import Metrology.Measurement.Reading

/-!
# The grammar of measurements

A measurement is written as a literal of a finite number and a text of its unit, with a blank at
least between them. A text is read as the measurement that is written in it; any other text is
refused as unreadable, for the first of its parts that is missing or wrong.
-/

namespace Metrology.Measurement

/-! ### Texts -/

/-- The first word of the text is a literal of the magnitude, and the unit is written in the
rest. -/
inductive HasText : Measurement Float → List Char → Prop where
  | intro {m : Measurement Float} {s word rest : List Char} {l : Decimal.Literal}
      (hs : Text.HasFirst s word rest) (hl : Decimal.HasLiteral word l)
      (hm : l.toFloat = m.magnitude) (hu : m.unit.HasText rest) : HasText m s

/-- No measurement is written in the text for this reason. A compound that cannot be read is
reported by itself, everything else with the whole text. -/
inductive BreaksText (text : String) : Fault Float → Prop where
  | pair {b word b' : List Char} (htext : text.toList = b ++ word ++ b') (hb : Text.IsBlanks b)
      (hword : ∀ c ∈ word, Text.isBlank c = false) (hb' : Text.IsBlanks b') :
      BreaksText text (.unreadable text .pairExpected)
  | number {word rest : List Char} (htext : Text.HasFirst text.toList word rest)
      (hl : ∀ l, ¬ Decimal.HasLiteral word l) :
      BreaksText text (.unreadable text (.notANumber (String.ofList word)))
  | infinite {word rest : List Char} {l : Decimal.Literal}
      (htext : Text.HasFirst text.toList word rest) (hl : Decimal.HasLiteral word l)
      (hx : l.toFloat.isFinite = false) :
      BreaksText text (.unreadable text (.notFinite (String.ofList word)))
  | unknown {word rest : List Char} {l : Decimal.Literal}
      (htext : Text.HasFirst text.toList word rest) (hl : Decimal.HasLiteral word l)
      (hx : l.toFloat.isFinite = true) (hsign : isCompoundName (String.ofList rest) = false)
      (hu : ∀ u : Unit Float, ¬ u.HasText rest) :
      BreaksText text (.unreadable text (.unknownUnit (Text.strip (String.ofList rest))))
  | compound {word rest : List Char} {l : Decimal.Literal} {why : Misreading}
      (htext : Text.HasFirst text.toList word rest) (hl : Decimal.HasLiteral word l)
      (hx : l.toFloat.isFinite = true) (hsign : isCompoundName (String.ofList rest) = true)
      (hc : (Compound.read (Text.strip (String.ofList rest)) : Result Float (Compound Float)) =
        .error (.unreadable (Text.strip (String.ofList rest)) why)) :
      BreaksText text (.unreadable (Text.strip (String.ofList rest)) why)

/-! ### The parts of a text -/

lemma readUnit_stripLeft (text : String) (rest : List Char) :
    readUnit text (Text.stripLeft rest) = readUnit text rest := by
  have hstrip : Text.strip (String.ofList (Text.stripLeft rest)) =
      Text.strip (String.ofList rest) := by
    rw [Text.strip, Text.strip, Text.stripChars, Text.stripChars, String.toList_ofList,
      String.toList_ofList, Text.stripLeft_eq_self (Text.not_isBlank_head?_stripLeft rest)]
  simp only [readUnit, Unit.read, hstrip]

section Parts

variable {text : String} {word rest : List Char} {l : Decimal.Literal}

/-- The number and the unit are read one after the other. -/
lemma read_of_hasFirst (h : Text.HasFirst text.toList word rest) :
    read text = readMagnitude text word >>= fun x => readUnit text rest >>= ofMagnitude x := by
  rw [read, h.splitFirst?_eq, ← readUnit_stripLeft]

lemma readMagnitude_of_hasLiteral (hl : Decimal.HasLiteral word l) :
    readMagnitude text word =
      if l.toFloat.isFinite then .ok l.toFloat
      else .error (.unreadable text (.notFinite (String.ofList word))) := by
  rw [readMagnitude, Decimal.literal?_eq_some_iff.mpr hl]
  rfl

lemma readMagnitude_of_not_hasLiteral (hl : ∀ l, ¬ Decimal.HasLiteral word l) :
    readMagnitude text word = .error (.unreadable text (.notANumber (String.ofList word))) := by
  have hnone : Decimal.literal? word = none :=
    Option.eq_none_iff_forall_ne_some.mpr fun l h => hl l (Decimal.literal?_eq_some_iff.mp h)
  rw [readMagnitude, hnone]
  rfl

/-- Once the number is known, the unit decides. -/
lemma read_of_hasLiteral (h : Text.HasFirst text.toList word rest)
    (hl : Decimal.HasLiteral word l) (hx : l.toFloat.isFinite = true) :
    read text = readUnit text rest >>= ofMagnitude l.toFloat := by
  rw [read_of_hasFirst h, readMagnitude_of_hasLiteral hl, if_pos hx, ok_bind]

/-- The magnitude is the number that the first word stands for, and the unit is read from the
rest. -/
lemma readFloat?_and_read_of_read {m : Measurement Float}
    (h : Text.HasFirst text.toList word rest) (hread : read text = .ok m) :
    Decimal.readFloat? (String.ofList word) = some m.magnitude ∧
      Unit.read (String.ofList rest) = .ok m.unit := by
  rw [read_of_hasFirst h, bind_eq_ok] at hread
  obtain ⟨x, hx, hread⟩ := hread
  obtain ⟨u, hu, hread⟩ := bind_eq_ok.mp hread
  obtain ⟨hm, hunit⟩ := ofMagnitude_eq_ok.mp hread
  constructor
  · have hword : ∀ c ∈ word, Text.isBlank c = false := h.isWord.2
    rw [Decimal.readFloat?, String.toList_ofList, Decimal.dropPadding_eq_self hword, hm]
    unfold readMagnitude at hx
    split at hx
    · cases hx
    · next l hl =>
      rw [hl]
      split_ifs at hx
      cases hx
      rfl
  · rw [hunit]
    unfold readUnit at hu
    split at hu
    · cases hu
    · exact hu

end Parts

/-! ### The whole text -/

lemma read_eq_ok_of_hasText {text : String} {m : Measurement Float} (h : m.HasText text.toList) :
    read text = .ok m := by
  cases h with
  | @intro word rest l htext hl hm hu =>
    have hread : Unit.read (String.ofList rest) = .ok m.unit :=
      Unit.read_eq_ok_iff_hasText.mpr (by rwa [String.toList_ofList])
    rw [read_of_hasLiteral htext hl (hm ▸ m.finite), readUnit, hread]
    exact ofMagnitude_eq_ok.mpr ⟨hm.symm, rfl⟩

lemma read_eq_error_of_breaksText {text : String} {f : Fault Float} (h : BreaksText text f) :
    read text = .error f := by
  cases h with
  | pair htext hb hword hb' =>
    rw [read, Text.splitFirst?_eq_none_iff.mpr ⟨_, _, _, htext, hb, hword, hb'⟩]
    rfl
  | number htext hl => rw [read_of_hasFirst htext, readMagnitude_of_not_hasLiteral hl, error_bind]
  | infinite htext hl hx =>
    rw [read_of_hasFirst htext, readMagnitude_of_hasLiteral hl, hx, if_neg Bool.false_ne_true,
      error_bind]
  | @unknown word rest l htext hl hx hsign hu =>
    have hread : (Unit.read (String.ofList rest) : Result Float (Unit Float)) =
        .error (.unknownUnit (Text.strip (String.ofList rest))) :=
      Unit.read_eq_error_of_unknown hsign (by simpa using hu)
    rw [read_of_hasLiteral htext hl hx, readUnit, hread]
    rfl
  | compound htext hl hx hsign hc =>
    rw [read_of_hasLiteral htext hl hx, readUnit, Unit.read_of_isCompoundName hsign, hc]
    rfl

/-- A measurement is written in the text or there is a reason why not. -/
lemma exists_hasText_or_breaksText (text : String) :
    (∃ m : Measurement Float, m.HasText text.toList) ∨ ∃ f, BreaksText text f := by
  cases hsplit : Text.splitFirst? text.toList with
  | none =>
    obtain ⟨b, word, b', htext, hb, hword, hb'⟩ := Text.splitFirst?_eq_none_iff.mp hsplit
    exact .inr ⟨_, .pair htext hb hword hb'⟩
  | some p =>
    obtain ⟨word, rest⟩ := p
    have htext := Text.hasFirst_of_splitFirst? hsplit
    by_cases hl : ∃ l, Decimal.HasLiteral word l
    · obtain ⟨l, hl⟩ := hl
      cases hx : l.toFloat.isFinite with
      | false => exact .inr ⟨_, .infinite htext hl hx⟩
      | true =>
        by_cases hu : ∃ u : Unit Float, u.HasText rest
        · obtain ⟨u, hu⟩ := hu
          exact .inl ⟨⟨l.toFloat, u, hx⟩, .intro htext hl rfl hu⟩
        · have hname : ∀ u, Unit.read (String.ofList rest) ≠ .ok (u : Unit Float) := by
            intro u hread
            rw [Unit.read_eq_ok_iff_hasText, String.toList_ofList] at hread
            exact hu ⟨u, hread⟩
          cases hsign : isCompoundName (String.ofList rest) with
          | false => exact .inr ⟨_, .unknown htext hl hx hsign (not_exists.mp hu)⟩
          | true =>
            cases hc : (Compound.read (Text.strip (String.ofList rest)) :
                Result Float (Compound Float)) with
            | ok c =>
              have hread := Unit.read_of_isCompoundName (α := Float) hsign
              rw [hc, ok_bind] at hread
              exact absurd hread (hname _)
            | error f =>
              obtain ⟨why, rfl⟩ := (Compound.yields_read _).fault f hc
              exact .inr ⟨_, .compound htext hl hx hsign hc⟩
    · exact .inr ⟨_, .number htext (not_exists.mp hl)⟩

lemma BreaksText.exists_eq_unreadable {text : String} {f : Fault Float} (h : BreaksText text f) :
    ∃ t why, f = .unreadable t why := by
  cases h with
  | pair | number | infinite | unknown | compound => exact ⟨_, _, rfl⟩

/-- What is read is written in the text, and what is refused is not, for the reason given. -/
lemma read_eq_ok_iff_and_read_eq_error_iff (text : String) :
    (∀ m, read text = .ok m ↔ m.HasText text.toList) ∧
      ∀ f, read text = .error f ↔ BreaksText text f :=
  eq_ok_iff_and_eq_error_iff (fun _ => read_eq_ok_of_hasText)
    (fun _ => read_eq_error_of_breaksText) (exists_hasText_or_breaksText text)

/-- A text is read as a measurement exactly if its first word is a literal of the finite magnitude
and the unit is written in the rest, and this unit is read from the rest. Any other text is refused
as unreadable: for the second word that is missing, a word that is no number or no finite one, or a
rest that holds an unknown name or a compound with a mistake. -/
theorem read_eq_ok_iff_and_breaksText (text : String) :
    (∀ m, read text = .ok m ↔ m.HasText text.toList) ∧
      (∀ m word rest, read text = .ok m → Text.HasFirst text.toList word rest →
        Decimal.readFloat? (String.ofList word) = some m.magnitude ∧
          Unit.read (String.ofList rest) = .ok m.unit) ∧
      (∀ f, read text = .error f ↔ BreaksText text f) ∧
      ∀ f, read text = .error f → ∃ t why, f = .unreadable t why := by
  obtain ⟨hok, herror⟩ := read_eq_ok_iff_and_read_eq_error_iff text
  exact ⟨hok, fun _ _ _ h hfirst => readFloat?_and_read_of_read hfirst h, herror,
    fun f h => ((herror f).mp h).exists_eq_unreadable⟩

/-- The speed in `  7_2.0 km /hr` is read. In `5 parsec` there is an unknown name, and in `5 km//hr`
a compound with a mistake. -/
theorem read_of_speed_and_parsec :
    ∃ m : Measurement Float, m = ⟨72.0, .per (.simple .kilometer) (.simple .hour),
        by decide +kernel⟩ ∧
      m.HasText "  7_2.0 km /hr".toList ∧ read "  7_2.0 km /hr" = .ok m ∧
      read "5 parsec" = .error (.unreadable "5 parsec" (.unknownUnit "parsec")) ∧
      read "5 km//hr" = .error (.unreadable "km//hr" (.unitExpected 3 "/")) := by
  have hliteral : Decimal.HasLiteral "7_2.0".toList (.finite false 720 (-1)) :=
    Decimal.literal?_eq_some_iff.mp (by decide +kernel)
  have hspeed : Unit.HasText (α := Float) (.per (.simple .kilometer) (.simple .hour))
      "km /hr".toList := Unit.read_eq_ok_iff_hasText.mp rfl
  have htext : HasText ⟨72.0, .per (.simple .kilometer) (.simple .hour), by decide +kernel⟩
      "  7_2.0 km /hr".toList :=
    .intro (Text.hasFirst_of_splitFirst? (by decide +kernel)) hliteral (by decide +kernel) hspeed
  have hfive : Decimal.HasLiteral "5".toList (.finite false 5 0) :=
    Decimal.literal?_eq_some_iff.mp (by decide +kernel)
  have hunknown : ∀ u : Unit Float, ¬ u.HasText "parsec".toList := by
    intro u hu
    rw [← Unit.read_eq_ok_iff_hasText] at hu
    have hread : (Unit.read "parsec" : Result Float (Unit Float)) =
        .error (.unknownUnit "parsec") := rfl
    rw [hread] at hu
    cases hu
  have hone : Text.HasFirst "5 parsec".toList "5".toList "parsec".toList :=
    Text.hasFirst_of_splitFirst? (by decide +kernel)
  have htwo : Text.HasFirst "5 km//hr".toList "5".toList "km//hr".toList :=
    Text.hasFirst_of_splitFirst? (by decide +kernel)
  have hparsec := BreaksText.unknown hone hfive (by decide +kernel) (by decide +kernel) hunknown
  rw [show Text.strip (String.ofList "parsec".toList) = "parsec" by decide +kernel] at hparsec
  have hmistake : BreaksText "5 km//hr" (.unreadable _ (.unitExpected 3 "/")) :=
    .compound htwo hfive (by decide +kernel) (by decide +kernel) rfl
  rw [show Text.strip (String.ofList "km//hr".toList) = "km//hr" by decide +kernel] at hmistake
  exact ⟨_, rfl, htext, ((read_eq_ok_iff_and_breaksText _).1 _).mpr htext,
    ((read_eq_ok_iff_and_breaksText _).2.2.1 _).mpr hparsec,
    ((read_eq_ok_iff_and_breaksText _).2.2.1 _).mpr hmistake⟩

end Metrology.Measurement
