import Metrology.Expression.Evaluation
import Metrology.Measurement.Reading
import Metrology.Proofs.Unit.Faults

/-!
# What can go wrong with measurements

A text that is no measurement is a fault of measuring, and so are operands that do not fit, a
divisor of magnitude zero and a result that is not finite. Operations on proper units give proper
units as long as no unit that vanishes is divided by.
-/

namespace Metrology

/-! ### Reading -/

namespace Measurement

lemma yields_readMagnitude (text : String) (word : List Char) :
    Yields (fun f => f.isMeasuring = true) (fun _ => True) (readMagnitude text word) := by
  unfold readMagnitude
  split
  · exact yields_error.mpr rfl
  · split
    · exact yields_ok.mpr trivial
    · exact yields_error.mpr rfl

lemma yields_readUnit (text : String) (name : List Char) :
    Yields (fun f => f.isMeasuring = true) (fun u => u.IsBuiltIn ∧ u.IsFlat)
      (readUnit text name) := by
  unfold readUnit
  split
  · exact yields_error.mpr rfl
  · refine ⟨fun u hu => ⟨(Unit.isLayered_of_read hu).isBuiltIn, Unit.isFlat_of_read hu⟩,
      fun f hf => ?_⟩
    rcases (Unit.yields_read (α := Float) (String.ofList name)).fault f hf with rfl | ⟨why, rfl⟩
    · rfl
    · rfl

/-- What is read is in a unit without nesting. -/
lemma yields_read (text : String) :
    Yields (fun f => f.isMeasuring = true) (fun m => m.unit.IsBuiltIn ∧ m.unit.IsFlat)
      (read text) := by
  unfold read
  split
  · exact yields_error.mpr rfl
  · refine (yields_readMagnitude _ _).bind fun x _ _ => ?_
    refine (yields_readUnit _ _).bind fun u _ hu => ?_
    unfold ofMagnitude
    split
    · next m hm => exact yields_ok.mpr ((ofMagnitude?_eq_some_iff.mp hm).2 ▸ hu)
    · exact yields_error.mpr rfl

end Measurement

/-! ### Operations -/

/-- The unit is over the built-in kinds and, unless there is a reason for divisions by zero,
proper. -/
def Unit.IsProperOr (reason : Prop) (u : Unit Float) : Prop :=
  u.IsBuiltIn ∧ (reason ∨ u.IsProper)

lemma Unit.IsProperOr.mono {reason reason' : Prop} {u : Unit Float} (h : u.IsProperOr reason)
    (himp : reason → reason') : u.IsProperOr reason' :=
  ⟨h.1, h.2.imp_left himp⟩

lemma Unit.isProperOr_root {reason : Prop} {u : Unit Float} (hu : u.IsBuiltIn) :
    u.root.IsProperOr reason :=
  ⟨isBuiltIn_root hu, .inr (isProper_root hu)⟩

namespace Measurement

variable {reason : Prop} {a b : Measurement Float} (ha : a.unit.IsProperOr reason)
  (hb : b.unit.IsProperOr reason)

include ha hb

lemma yields_inCommonBase :
    Yields (Fault.IsMeasuringOr reason) (fun p => p.1.unit.IsProperOr reason)
      (a.inCommonBase b) := by
  unfold inCommonBase
  split
  · refine (Unit.yields_measureInBase ha.1 ha.2 _).bind fun x _ hx => ?_
    refine (Unit.yields_measureInBase hb.1 hb.2 _).bind fun y _ _ => ?_
    split
    · exact yields_ok.mpr (hx ▸ Unit.isProperOr_root ha.1)
    · exact yields_error.mpr (.inl rfl)
  · exact yields_error.mpr (.inl rfl)

/-- Whatever is done with the two base forms, the result is in the base unit. -/
lemma yields_bind_inCommonBase {f : Measurement Float × Measurement Float → Float} :
    Yields (Fault.IsMeasuringOr reason) (fun c => c.unit.IsProperOr reason)
      (a.inCommonBase b >>= fun p => ofMagnitude (f p) p.1.unit) := by
  refine (yields_inCommonBase ha hb).bind fun p _ hp => ?_
  exact (yields_ofMagnitude _ _).mono (fun _ h => h) fun c hc => hc ▸ hp

lemma yields_join {j : Join} (hj : j = .per → reason ∨ ¬ b.unit.Vanishes) (x : Float) :
    Yields (Fault.IsMeasuringOr reason) (fun c => c.unit.IsProperOr reason)
      (ofMagnitude x (a.unit.join j b.unit)) := by
  refine (yields_ofMagnitude _ _).mono (fun _ h => h) fun c hc => ?_
  rw [hc]
  refine ⟨Unit.isBuiltIn_join ha.1 hb.1 j, ?_⟩
  by_cases hr : reason
  · exact .inl hr
  · have hv : j = .per → ¬ b.unit.Vanishes := fun h => (hj h).resolve_left hr
    exact .inr (Unit.isProper_join (ha.2.resolve_left hr) (hb.2.resolve_left hr) hv)

/-- An operation fails with a fault of measuring, unless there is a reason for divisions by zero,
and keeps units proper unless it divides by one that vanishes. -/
lemma yields_apply {op : Operator} (hdiv : op = .div → reason ∨ ¬ b.unit.Vanishes) :
    Yields (Fault.IsMeasuringOr reason) (fun c => c.unit.IsProperOr reason)
      (op.apply a b) := by
  cases op with
  | add | sub => exact yields_bind_inCommonBase ha hb
  | mul =>
    rw [Operator.apply, mul]
    split
    · exact yields_bind_inCommonBase ha hb
    · refine yields_join ha hb ?_ _
      rintro ⟨⟩
  | div =>
    rw [Operator.apply, div]
    split
    · exact yields_error.mpr (.inl rfl)
    · split
      · refine (yields_inCommonBase ha hb).bind fun p _ hp => ?_
        dsimp only
        split
        · exact yields_error.mpr (.inl rfl)
        · exact (yields_ofMagnitude _ _).mono (fun _ h => h) fun c hc => hc ▸ hp
      · exact yields_join ha hb (fun _ => hdiv rfl) _

end Measurement

end Metrology
