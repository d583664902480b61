import Metrology.Measurement.Reading
import Metrology.Measurement.Text
import Metrology.Proofs.Decimal.Layout
import Metrology.Proofs.Measurement.Reachable
import Metrology.Proofs.Unit.RoundTrip

/-!
# Measurements that are read back

The text of a measurement is read as its magnitude and its unit's name. If the magnitude reads back
from its digits, so does the measurement, as long as its unit is not nested; a nested unit makes
the text unreadable. No text of a measurement is read as another one.
-/

namespace Metrology.Measurement

/-- A magnitude and the name of a unit, with a blank between them, are read one after the other. -/
lemma read_append_eq {word name : String} (hword : Text.IsWord word.toList)
    (hne : name.toList ≠ []) (hname : ∀ c ∈ name.toList.head?, Text.isBlank c = false) :
    read (word ++ " " ++ name) =
      readMagnitude (word ++ " " ++ name) word.toList >>= fun x =>
        readUnit (word ++ " " ++ name) name.toList >>= ofMagnitude x := by
  have htext : (word ++ " " ++ name).toList = word.toList ++ ' ' :: name.toList := by simp
  rw [read, htext, Text.splitFirst?_append hword.2 hword.1 (by decide) hname hne]

lemma read_append {word name : String} {l : Decimal.Literal} (hword : Text.IsWord word.toList)
    (hne : name.toList ≠ []) (hname : ∀ c ∈ name.toList.head?, Text.isBlank c = false)
    (hl : Decimal.literal? word.toList = some l) (hfinite : l.toFloat.isFinite = true) :
    read (word ++ " " ++ name) =
      readUnit (word ++ " " ++ name) name.toList >>= ofMagnitude l.toFloat := by
  rw [read_append_eq hword hne hname]
  simp [readMagnitude, hl, hfinite]

/-- The text of a measurement is read as far as the name of its unit is. -/
lemma read_text_eq {m : Measurement Float} (hunit : m.unit.IsLayered)
    (hx : Decimal.readFloat? (Decimal.exactText m.magnitude) = some m.magnitude) :
    read m.text = readUnit m.text m.unit.name.toList >>= ofMagnitude m.magnitude := by
  obtain ⟨hne, l, hl, hvalue⟩ :=
    Decimal.literal?_of_readFloat? (fun _ hc => Decimal.isBlank_of_mem_exactText hc) hx
  obtain ⟨a, s, hs, ha⟩ := Unit.exists_name_eq_cons hunit.isBuiltIn hunit.isPlain
  have hhead : ∀ c ∈ m.unit.name.toList.head?, Text.isBlank c = false := by
    intro c hc
    rw [hs] at hc
    obtain rfl : a = c := by simpa using hc
    exact Text.isBlank_of_isAlpha ha
  rw [← hvalue]
  exact read_append ⟨hne, fun c hc => Decimal.isBlank_of_mem_exactText hc⟩ (by simp [hs]) hhead hl
    (hvalue ▸ m.finite)

/-- The text of a measurement whose unit is not nested is read back. -/
lemma read_text_of_isFlat {m : Measurement Float} (hunit : m.unit.IsLayered)
    (hx : Decimal.readFloat? (Decimal.exactText m.magnitude) = some m.magnitude)
    (hflat : m.unit.IsFlat) : read m.text = .ok m := by
  rw [read_text_eq hunit hx, readUnit, String.ofList_toList,
    Unit.read_name hunit.isBuiltIn hunit.isPlain hflat]
  exact ofMagnitude_eq_ok.mpr ⟨rfl, rfl⟩

/-- A measurement in a reachable unit is read back from its text if the unit is not nested, and
otherwise the unit's name is what cannot be read. In no case is another measurement read. All that
is assumed is that the magnitude reads back from its digits. -/
theorem read_text {m : Measurement Float} (hm : m.unit.Reachable)
    (hx : Decimal.readFloat? (Decimal.exactText m.magnitude) = some m.magnitude) :
    (m.unit.IsFlat → read m.text = .ok m) ∧
      (¬ m.unit.IsFlat → ∃ why, read m.text = .error (.unreadable m.unit.name why)) ∧
      ∀ n, read m.text = .ok n → n = m := by
  have hunit := hm.isLayered
  have hread := read_text_eq hunit hx
  have hflat : m.unit.IsFlat → read m.text = .ok m := read_text_of_isFlat hunit hx
  have hnested : ¬ m.unit.IsFlat → ∃ why, read m.text = .error (.unreadable m.unit.name why) := by
    intro h
    obtain ⟨s, hname⟩ := hunit.read_name_of_not_isFlat h
    refine ⟨.unknownUnit (String.ofList ('(' :: s)), ?_⟩
    rw [hread, readUnit, String.ofList_toList, hname]
    rfl
  refine ⟨hflat, hnested, ?_⟩
  intro n hn
  by_cases h : m.unit.IsFlat
  · rw [hflat h] at hn
    cases hn
    rfl
  · obtain ⟨why, hwhy⟩ := hnested h
    rw [hwhy] at hn
    cases hn

/-- `72.0 km / hr` is read back. The text `3.0 kg / (km / hr)` is refused, though the unit is
reached by a division. -/
theorem read_text_of_speed :
    ∃ m n : Measurement Float, m.text = "72.0 km / hr" ∧ n.text = "3.0 kg / (km / hr)" ∧
      m.unit.Reachable ∧ n.unit.Reachable ∧
      Decimal.readFloat? (Decimal.exactText m.magnitude) = some m.magnitude ∧
      Decimal.readFloat? (Decimal.exactText n.magnitude) = some n.magnitude ∧
      read m.text = .ok m ∧ ∃ why, read n.text = .error (.unreadable "kg / (km / hr)" why) := by
  have hmass : Unit.read "kg" = .ok (.simple .kilogram : Unit Float) := rfl
  have hspeed : Unit.read "km / hr" =
      .ok (.per (.simple .kilometer) (.simple .hour) : Unit Float) := rfl
  have hdiv : (⟨6.0, .simple .kilogram, by decide +kernel⟩ : Measurement Float).div
      ⟨2.0, .per (.simple .kilometer) (.simple .hour), by decide +kernel⟩ =
      .ok ⟨3.0, .per (.simple .kilogram) (.per (.simple .kilometer) (.simple .hour)),
        by decide +kernel⟩ :=
    (div_eq_ok_of_ne (by decide)).mpr ⟨by decide +kernel, by decide +kernel, rfl⟩
  have hm : (⟨72.0, .per (.simple .kilometer) (.simple .hour), by decide +kernel⟩ :
      Measurement Float).unit.Reachable := .read hspeed
  have hn := Unit.Reachable.div (.read hmass) (.read hspeed) hdiv
  have hxm : Decimal.readFloat? (Decimal.exactText 72.0) = some 72.0 := by decide +kernel
  have hxn : Decimal.readFloat? (Decimal.exactText 3.0) = some 3.0 := by decide +kernel
  refine ⟨_, _, ?_, ?_, hm, hn, hxm, hxn, (read_text hm hxm).1 ?_, (read_text hn hxn).2.1 ?_⟩
  · decide +kernel
  · decide +kernel
  · simp [Unit.IsFlat, Unit.per, Unit.isCompound]
  · simp [Unit.IsFlat, Unit.per, Unit.isCompound]

end Metrology.Measurement
