import Metrology.Proofs.Decimal.RoundTrip
import Metrology.Proofs.Expression.Chain
import Metrology.Proofs.Sheet.Faults
import Metrology.Proofs.Sheet.Records

/-!
# Lines of simple units

What a line of simple units is worth is in a unit that is not nested, and its magnitude is read back
from its digits. So such a result is read back from its text.
-/

namespace Metrology

/-- A measurement in a chain of simple units is read back from its text. -/
lemma Measurement.read_text_of_isChain {m : Measurement Float} {n : Nat} (h : m.unit.IsChain n) :
    read m.text = .ok m :=
  read_text_of_isFlat h.isLayered (Decimal.readFloat?_exactText m.finite) h.isFlat

/-- The operands of a line that was read are in built-in units. -/
lemma Line.isBuiltIn_of_read {line : String} {parts : LineParts} (h : read line = .ok parts)
    {m : Measurement Float} (hm : m ∈ parts.1) : m.unit.IsBuiltIn :=
  (((yields_read line).value parts h).units m hm).1

/-- An expression of simple built-in units has its value in one of them or in a compound of two or
more, but no more than there are operands. So the result of a line of simple units is read back from
its text. -/
theorem Expression.isChain_and_read_text :
    (∀ (operands : List (Measurement Float)) (operators : List (Value Float))
        (r : Measurement Float),
      (∀ m ∈ operands, m.unit.IsBuiltIn ∧ m.unit.isCompound = false) →
        evaluate operands operators = .ok r → r.unit.IsChain operands.length) ∧
      ∀ (line : String) (parts : LineParts) (r : Measurement Float),
        Line.evaluate line = .ok (parts, r) → (∀ m ∈ parts.1, m.unit.isCompound = false) →
          r.unit.IsChain parts.1.length ∧ Measurement.read r.text = .ok r := by
  refine ⟨fun operands operators r hs h => isChain_of_evaluate hs h, ?_⟩
  intro line parts r h hsimple
  obtain ⟨hread, heval⟩ := Line.evaluate_eq_ok_iff.mp h
  have hchain := isChain_of_evaluate
    (fun m hm => ⟨Line.isBuiltIn_of_read hread hm, hsimple m hm⟩) heval
  exact ⟨hchain, Measurement.read_text_of_isChain hchain⟩

/-- `9.0 km / hr * kg` is the result of a line of three operands, and is read back. -/
theorem Expression.read_text_of_three_units :
    ∃ parts r, Line.evaluate "6 km / 2 hr * 3 kg" = .ok (parts, r) ∧
      (∀ m ∈ parts.1, m.unit.isCompound = false) ∧ r.text = "9.0 km / hr * kg" ∧
      r.unit.IsChain 3 ∧ Measurement.read r.text = .ok r := by
  have hrun : (Line.evaluate "6 km / 2 hr * 3 kg").toOption.map (fun p =>
      (p.1.1.length, p.1.1.all (!·.unit.isCompound), p.2.text)) =
        some (3, true, "9.0 km / hr * kg") := by
    decide +kernel
  obtain ⟨⟨parts, r⟩, hline, hfacts⟩ := Option.map_eq_some_iff.mp hrun
  simp only [Prod.mk.injEq, List.all_eq_true, Bool.not_eq_true'] at hfacts
  obtain ⟨hlength, hsimple, htext⟩ := hfacts
  have heval := eq_ok_of_toOption_eq_some hline
  obtain ⟨hchain, hread⟩ := isChain_and_read_text.2 _ parts r heval hsimple
  exact ⟨parts, r, heval, hsimple, htext, hlength ▸ hchain, hread⟩

end Metrology
