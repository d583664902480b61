import Metrology.Proofs.Expression.Faults
import Metrology.Proofs.Expression.TwoStacks
import Metrology.Proofs.Generator.Draft
import Metrology.Proofs.Measurement.Range

/-!
# Three ordinary operands

What becomes of the operands of a draft. If the first operator adds, everything has to come down to
lengths; products inside one dimension do, those of two dimensions do not. If the first operator
multiplies, its value is in a compound unit, to which nothing can be added.
-/

namespace Metrology

open Binary64 Measurement

/-- With three operands there is a choice only if the second operator binds more tightly. -/
lemma Expression.evaluate_three {α : Type} [Magnitude α] (m₁ m₂ m₃ : Measurement α)
    (op₁ op₂ : Operator) :
    evaluate [m₁, m₂, m₃] ([op₁, op₂].map .operator) =
      if op₁.isAdditive && !op₂.isAdditive then
        op₂.apply m₂ m₃ >>= fun x => op₁.apply m₁ x
      else op₁.apply m₁ m₂ >>= fun x => op₂.apply x m₃ := by
  rw [evaluate_eq_resume (mapM_ofValue_operator _) rfl, Pending.resume_ofFirst]
  cases h₁ : op₁.isAdditive <;> cases h₂ : op₂.isAdditive <;>
    simp [Terms.split, Terms.value, Term.value, addTerms, h₁, h₂]

namespace Generator

variable {m₁ m₂ m₃ : Measurement Float} {op₁ op₂ : Operator}

/-- A sum with lengths only is a length. -/
lemma exists_evaluate_of_isAdditive (hop : op₁.isAdditive = true) (h₁ : m₁.IsOrdinary)
    (h₂ : m₂.IsOrdinary) (h₃ : m₃.IsOrdinary) (h₁₂ : m₁.unit.dimension = m₂.unit.dimension)
    (h₂₃ : m₂.unit.dimension = m₃.unit.dimension) :
    ∃ r, Expression.evaluate [m₁, m₂, m₃] ([op₁, op₂].map .operator) = .ok r := by
  rw [Expression.evaluate_three]
  cases hop₂ : op₂.isAdditive with
  | false =>
    obtain ⟨x, hx, hunit, hle⟩ := exists_apply_of_not_isAdditive hop₂ h₂ h₃ h₂₃
    have hsimple : x.unit.IsSimpleOf m₂.unit.dimension := hunit ▸ Unit.isSimpleOf_root h₂.unit
    obtain ⟨r, hr, -⟩ := exists_apply_of_isAdditive hop (h₁₂ ▸ h₁.unit) hsimple
      (h₁.magnitude.toAtMost.mono (by decide : (10 : ℤ) ≤ 44)) hle (by decide)
    exact ⟨r, by simp [hop, hx, hr]⟩
  | true =>
    obtain ⟨x, hx, hunit, hle⟩ := exists_apply_of_isAdditive hop (h₁₂ ▸ h₁.unit) h₂.unit
      h₁.magnitude.toAtMost h₂.magnitude.toAtMost (by decide)
    have hsimple : x.unit.IsSimpleOf m₂.unit.dimension := hunit ▸ Unit.isSimpleOf_root h₂.unit
    obtain ⟨r, hr, -⟩ := exists_apply_of_isAdditive hop₂ hsimple (h₂₃ ▸ h₃.unit) hle
      (h₃.magnitude.toAtMost.mono (by decide)) (by decide)
    exact ⟨r, by simp [hx, hr]⟩

/-- A sum with a length and something else has no value, wherever the length stands. -/
lemma evaluate_eq_error_of_isAdditive (hop : op₁.isAdditive = true) (h₁ : m₁.IsOrdinary)
    (h₂ : m₂.IsOrdinary) (h₃ : m₃.IsOrdinary) (h₁₂ : m₁.unit.dimension = m₂.unit.dimension)
    (h₂₃ : m₂.unit.dimension ≠ m₃.unit.dimension) :
    ∃ f, Expression.evaluate [m₁, m₂, m₃] ([op₁, op₂].map .operator) = .error f ∧
      f.IsIncompatible := by
  rw [Expression.evaluate_three]
  cases hop₂ : op₂.isAdditive with
  | false =>
    obtain ⟨x, hx, hdim, -⟩ := exists_apply_of_ne hop₂ h₂₃ h₂.magnitude.toAtMost h₃ (by decide)
    have hne : m₁.unit.dimension ≠ x.unit.dimension := hdim ▸ h₁.unit.ne_compound
    obtain ⟨f, hf, hincompatible⟩ := exists_apply_eq_error hop hne
    exact ⟨f, by simp [hop, hx, hf], hincompatible⟩
  | true =>
    obtain ⟨x, hx, hunit, -⟩ := exists_apply_of_isAdditive hop (h₁₂ ▸ h₁.unit) h₂.unit
      h₁.magnitude.toAtMost h₂.magnitude.toAtMost (by decide)
    have hdim : x.unit.dimension = m₂.unit.dimension :=
      hunit ▸ (Unit.isSimpleOf_root h₂.unit).dimension_eq
    have hne : x.unit.dimension ≠ m₃.unit.dimension := hdim ▸ h₂₃
    obtain ⟨f, hf, hincompatible⟩ := exists_apply_eq_error hop₂ hne
    exact ⟨f, by simp [hx, hf], hincompatible⟩

/-- A product of two dimensions can be multiplied further, but nothing can be added to it. -/
lemma evaluate_of_not_isAdditive (hop : op₁.isAdditive = false) (h₁ : m₁.IsOrdinary)
    (h₂ : m₂.IsOrdinary) (h₃ : m₃.IsOrdinary) (h₁₂ : m₁.unit.dimension ≠ m₂.unit.dimension) :
    (op₂.isAdditive = false →
        ∃ r, Expression.evaluate [m₁, m₂, m₃] ([op₁, op₂].map .operator) = .ok r) ∧
      (op₂.isAdditive = true →
        ∃ f, Expression.evaluate [m₁, m₂, m₃] ([op₁, op₂].map .operator) = .error f ∧
          f.IsIncompatible) := by
  obtain ⟨x, hx, hdim, hle⟩ := exists_apply_of_ne hop h₁₂ h₁.magnitude.toAtMost h₂ (by decide)
  have hne : x.unit.dimension ≠ m₃.unit.dimension := hdim ▸ h₃.unit.ne_compound.symm
  rw [Expression.evaluate_three]
  constructor
  · intro hop₂
    obtain ⟨r, hr, -⟩ := exists_apply_of_ne hop₂ hne hle h₃ (by decide)
    exact ⟨r, by simp [hop, hx, hr]⟩
  · intro hop₂
    obtain ⟨f, hf, hincompatible⟩ := exists_apply_eq_error hop₂ hne
    exact ⟨f, by simp [hop, hx, hf], hincompatible⟩

end Generator

end Metrology
