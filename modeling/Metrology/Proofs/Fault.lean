import Metrology.Proofs.Result

/-!
# Classes of faults

Faults of one class are told apart by their messages only. Two outcomes agree if they are values
that are related, or faults of one class; outcomes that agree still agree after further steps that
do.
-/

namespace Metrology

variable {α : Type} [Magnitude α]

/-- What a caller can tell faults apart by. -/
inductive FaultClass where
  | unknownUnit
  | unreadable
  | noComponents
  /-- The signs of a compound are too many, too few, or no signs. -/
  | signs
  | incompatible
  | zeroDivisor
  | malformed
  | notFinite
  | zeroDivision
  | tooLarge
  | misuse
  /-- A value of the right form that is refused. -/
  | refused
  | noElement
  | notLoaded
  | frozenMeasurement
  | frozenCompound
  | notFound
  | isDirectory
  | notADirectory
  | nameTooLong
  | undecodable
  | notShown
deriving DecidableEq, Repr

def Fault.toClass : Fault α → FaultClass
  | .unknownUnit _ => .unknownUnit
  | .unreadable .. => .unreadable
  | .noComponents => .noComponents
  | .signCount .. | .notASign _ => .signs
  | .incompatible .. => .incompatible
  | .zeroDivisor .. => .zeroDivisor
  | .malformed _ => .malformed
  | .notFinite _ => .notFinite
  | .zeroDivision => .zeroDivision
  | .tooLarge => .tooLarge
  | .misuse _ => .misuse
  | .scaleNotPositive .. | .nameTaken _ | .noMeasurements | .negativeCount _ | .tooManyDigits
  | .file .notAPath => .refused
  | .noElement .. => .noElement
  | .notLoaded _ => .notLoaded
  | .frozenMeasurement _ => .frozenMeasurement
  | .frozenCompound => .frozenCompound
  | .file (.notFound _) => .notFound
  | .file (.isDirectory _) => .isDirectory
  | .file (.notADirectory _) => .notADirectory
  | .file (.nameTooLong _) => .nameTooLong
  | .undecodable => .undecodable
  | .notShown _ => .notShown

/-- The fault lies in the measurements, or it is a division by zero and there is a reason for
that. -/
def Fault.IsMeasuringOr (reason : Prop) (f : Fault α) : Prop :=
  f.isMeasuring = true ∨ reason ∧ f = .zeroDivision

/-! ### Outcomes that agree -/

variable {β γ β' γ' : Type}

/-- Two values that are related, or two faults of one class. -/
def Agree (R : β → γ → Prop) : Result α β → Result α γ → Prop
  | .ok b, .ok c => R b c
  | .error e, .error f => e.toClass = f.toClass
  | _, _ => False

section Agree

variable {R : β → γ → Prop} {S : β' → γ' → Prop}

@[simp] lemma agree_ok {b : β} {c : γ} : Agree (α := α) R (.ok b) (.ok c) ↔ R b c := Iff.rfl

@[simp] lemma agree_error {e f : Fault α} :
    Agree R (.error e) (.error f) ↔ e.toClass = f.toClass := Iff.rfl

/-- Nothing but related values and faults of one class agree. -/
lemma agree_iff {x : Result α β} {y : Result α γ} :
    Agree R x y ↔ (∃ b c, x = .ok b ∧ y = .ok c ∧ R b c) ∨
      ∃ e f, x = .error e ∧ y = .error f ∧ e.toClass = f.toClass := by
  cases x with
  | error e =>
    cases y with
    | error f => simp
    | ok c => simp [Agree]
  | ok b =>
    cases y with
    | error f => simp [Agree]
    | ok c => simp

lemma agree_refl {R : β → β → Prop} (x : Result α β) (h : ∀ b, x = .ok b → R b b) :
    Agree R x x := by
  cases x with
  | error e => exact agree_error.mpr rfl
  | ok b => exact agree_ok.mpr (h b rfl)

lemma Agree.bind {x : Result α β} {y : Result α γ} {f : β → Result α β'} {g : γ → Result α γ'}
    (h : Agree R x y) (hfg : ∀ b c, R b c → Agree S (f b) (g c)) :
    Agree S (x >>= f) (y >>= g) := by
  rcases agree_iff.mp h with ⟨b, c, rfl, rfl, hbc⟩ | ⟨e, e', rfl, rfl, he⟩
  · exact hfg b c hbc
  · exact agree_error.mpr he

end Agree

end Metrology
