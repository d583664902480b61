import Metrology.Proofs.Binary64.Order
import Metrology.Proofs.Measurement.BaseForm
import Metrology.Proofs.Measurement.Dimensions
import Metrology.Proofs.Unit.Faults
import Metrology.Value.Arithmetic

/-!
# Compatibility and order

Whether two measurements fit together is asked in two ways: of their units, and of their base forms
once there are any. Both ways give the same answer, and whatever needs measurements that fit refuses
the others. Compatibility divides the units into classes, and within a class comparisons order
measurements as the values of their base magnitudes are ordered.
-/

namespace Metrology

variable {α : Type} [Magnitude α]

/-! ### Refusals -/

section Refused

variable {β γ : Type}

/-- The outcome is that two units do not fit together. -/
def Refused (r : Result α β) : Prop := ∃ f, r = .error f ∧ f.toClass = .incompatible

lemma refused_error {f : Fault α} :
    Refused (.error f : Result α β) ↔ f.toClass = .incompatible := by simp [Refused]

lemma not_refused_ok (b : β) : ¬ Refused (.ok b : Result α β) := by simp [Refused]

lemma Yields.not_refused {P : β → Prop} {r : Result α β}
    (h : Yields (fun f => f = .zeroDivision) P r) : ¬ Refused r := by
  rintro ⟨f, hr, hf⟩
  rw [h.fault f hr] at hf
  cases hf

lemma Refused.bind {r : Result α β} (h : Refused r) (f : β → Result α γ) : Refused (r >>= f) := by
  obtain ⟨e, rfl, he⟩ := h
  exact refused_error.mpr he

/-- What comes after the first step does not refuse anything. -/
lemma refused_bind_iff {r : Result α β} {f : β → Result α γ} (hf : ∀ b, ¬ Refused (f b)) :
    Refused (r >>= f) ↔ Refused r := by
  cases r with
  | error e => rw [error_bind, refused_error, refused_error]
  | ok b =>
    rw [ok_bind]
    exact iff_of_false (hf b) (not_refused_ok b)

lemma not_refused_bind {r : Result α β} {f : β → Result α γ} (hr : ¬ Refused r)
    (hf : ∀ b, ¬ Refused (f b)) : ¬ Refused (r >>= f) := by rwa [refused_bind_iff hf]

/-- A question whether two units fit together comes first. -/
lemma refused_guard_iff {fits : Result α Bool} {r : Result α β} {f : Fault α}
    (hfits : fits = .ok true ∨ fits = .ok false) (hr : ¬ Refused r)
    (hf : f.toClass = .incompatible) :
    Refused (fits >>= fun b => if b then r else .error f) ↔ fits = .ok false := by
  rcases hfits with rfl | rfl
  · rw [ok_bind, if_pos rfl]
    exact iff_of_false hr (by simp)
  · rw [ok_bind, if_neg Bool.false_ne_true]
    exact iff_of_true (refused_error.mpr hf) rfl

lemma Measurement.not_refused_ofMagnitude (x : α) (u : Unit α) : ¬ Refused (ofMagnitude x u) := by
  rintro ⟨f, h, hf⟩
  rw [(eq_notFinite_of_ofMagnitude h).1] at hf
  cases hf

lemma not_refused_divide (x y : α) : ¬ Refused (divide x y) :=
  (Join.yields_apply .per x y).not_refused

lemma Unit.not_refused_toBase (u : Unit α) (x : α) : ¬ Refused (u.toBase x) := by
  have h := Unit.yields_toBase (u := u) (.inl trivial) x
  exact (h.mono (fun _ h => h.2) fun _ h => h).not_refused

end Refused

/-! ### Compatible units -/

/-- A unit that has a base unit. -/
def Unit.Based (α : Type) [Magnitude α] : Type := {u : Unit α // ∃ b, u.base = .ok b}

namespace Unit

lemma isCompatible_eq {u v b c : Unit α} (hb : u.base = .ok b) (hc : v.base = .ok c) :
    u.isCompatible v = .ok (decide (u.dimension = v.dimension) && b.name == c.name) := by
  rw [isCompatible, hb, hc]
  by_cases hd : u.dimension = v.dimension
  · rw [if_pos hd, decide_eq_true hd, Bool.true_and]
    rfl
  · rw [if_neg hd, decide_eq_false hd, Bool.false_and]
    rfl

/-- Units with base units fall into classes of compatible ones. -/
lemma equivalence_isCompatible :
    Equivalence fun u v : Based α => u.1.isCompatible v.1 = .ok true where
  refl u := by
    obtain ⟨b, hb⟩ := u.2
    rw [isCompatible_eq hb hb, decide_eq_true rfl, beq_self_eq_true, Bool.and_self]
  symm := isCompatible_symm
  trans := isCompatible_trans

end Unit

namespace Measurement

/-- Whatever needs two measurements that fit together refuses these two under the same condition. -/
structure IsRefusedIff (a b : Measurement α) (p : Prop) : Prop where
  inCommonBase : Refused (a.inCommonBase b) ↔ p
  add : Refused (a.add b) ↔ p
  sub : Refused (a.sub b) ↔ p
  compare (c : Comparison) : Refused (Value.compare c (.measurement a) (.measurement b)) ↔ p
  convert : Refused (a.convert b.unit) ↔ p
  conversionFactor : Refused (a.unit.conversionFactor b.unit) ↔ p

section Compatible

variable {a b x y : Measurement α} (hx : a.inBase = .ok x) (hy : b.inBase = .ok y)
include hx hy

/-- Measurements in base form fit together if and only if their units are compatible. -/
lemma inCommonBase_or_refused :
    a.unit.isCompatible b.unit = .ok true ∧ a.inCommonBase b = .ok (x, y) ∨
      a.unit.isCompatible b.unit = .ok false ∧ Refused (a.inCommonBase b) := by
  rw [Unit.isCompatible_eq (unit_of_inBase hx) (unit_of_inBase hy)]
  by_cases hd : a.unit.dimension = b.unit.dimension
  · by_cases hname : x.unit.name = y.unit.name
    · refine .inl ⟨?_, inCommonBase_eq_ok.mpr ⟨hd, hx, hy, hname⟩⟩
      rw [decide_eq_true hd, beq_iff_eq.mpr hname, Bool.and_self]
    · refine .inr ⟨?_, ?_⟩
      · rw [beq_eq_false_iff_ne.mpr hname, Bool.and_false]
      · rw [inCommonBase, if_pos hd, hx, hy, ok_bind, ok_bind, if_neg hname]
        exact refused_error.mpr rfl
  · refine .inr ⟨?_, ?_⟩
    · rw [decide_eq_false hd, Bool.false_and]
    · rw [inCommonBase, if_neg hd]
      exact refused_error.mpr rfl

lemma refused_inCommonBase_iff :
    Refused (a.inCommonBase b) ↔ a.unit.isCompatible b.unit = .ok false := by
  rcases inCommonBase_or_refused hx hy with ⟨hfits, h⟩ | ⟨hfits, h⟩
  · rw [hfits, h]
    exact iff_of_false (not_refused_ok _) (by simp)
  · exact iff_of_true h hfits

lemma isRefusedIff : a.IsRefusedIff b (a.unit.isCompatible b.unit = .ok false) where
  inCommonBase := refused_inCommonBase_iff hx hy
  add := by
    rw [add, refused_bind_iff fun _ => not_refused_ofMagnitude _ _]
    exact refused_inCommonBase_iff hx hy
  sub := by
    rw [sub, refused_bind_iff fun _ => not_refused_ofMagnitude _ _]
    exact refused_inCommonBase_iff hx hy
  compare c := by
    rw [← refused_inCommonBase_iff hx hy]
    cases c with
    | lt | le | gt | ge | eq => exact refused_bind_iff fun _ => not_refused_ok _
    | ne =>
      refine (refused_bind_iff fun _ => not_refused_ok _).trans ?_
      exact refused_bind_iff fun _ => not_refused_ok _
  convert := by
    refine refused_guard_iff ?_ (not_refused_bind (Unit.not_refused_toBase _ _) fun x => ?_) rfl
    · exact (inCommonBase_or_refused hx hy).imp And.left And.left
    · refine not_refused_bind (Unit.yields_fromBase _ _).not_refused fun y => ?_
      exact not_refused_ofMagnitude _ _
  conversionFactor := by
    refine refused_guard_iff ?_ (not_refused_bind (Unit.not_refused_toBase _ _) fun x => ?_) rfl
    · exact (inCommonBase_or_refused hx hy).imp And.left And.left
    · exact not_refused_bind (Unit.yields_fromBase _ _).not_refused fun y => not_refused_divide _ _

end Compatible

end Measurement

/-! ### Order -/

open Binary64

/-- What a comparison says of two numbers. -/
def Comparison.holds : Comparison → ℚ → ℚ → Bool
  | .lt, p, q => p < q
  | .le, p, q => p ≤ q
  | .gt, p, q => p > q
  | .ge, p, q => p ≥ q
  | .eq, p, q => p = q
  | .ne, p, q => p ≠ q

lemma Comparison.holds_trans {c : Comparison} (hc : c ≠ .ne) {p q r : ℚ}
    (hpq : c.holds p q = true) (hqr : c.holds q r = true) : c.holds p r = true := by
  cases c with
  | lt => exact decide_eq_true ((of_decide_eq_true hpq).trans (of_decide_eq_true hqr))
  | le => exact decide_eq_true ((of_decide_eq_true hpq).trans (of_decide_eq_true hqr))
  | gt => exact decide_eq_true ((of_decide_eq_true hqr).trans (of_decide_eq_true hpq))
  | ge => exact decide_eq_true ((of_decide_eq_true hqr).trans (of_decide_eq_true hpq))
  | eq => exact decide_eq_true ((of_decide_eq_true hpq).trans (of_decide_eq_true hqr))
  | ne => exact absurd rfl hc

namespace Measurement

/-- The two measurements can be compared, and the comparison is true. -/
def Is (a : Measurement Float) (c : Comparison) (b : Measurement Float) : Prop :=
  Value.compare c (.measurement a) (.measurement b) = .ok true

/-- One measurement is smaller, equal or greater, and the other comparisons deny one of these. -/
structure IsOrdered (a b : Measurement Float) : Prop where
  exactlyOne : a.Is .lt b ∧ ¬ a.Is .eq b ∧ ¬ a.Is .gt b ∨
    ¬ a.Is .lt b ∧ a.Is .eq b ∧ ¬ a.Is .gt b ∨ ¬ a.Is .lt b ∧ ¬ a.Is .eq b ∧ a.Is .gt b
  le : a.Is .le b ↔ ¬ a.Is .gt b
  ge : a.Is .ge b ↔ ¬ a.Is .lt b
  ne : a.Is .ne b ↔ ¬ a.Is .eq b

variable {a b d x y : Measurement Float} {c : Comparison}

/-- Measurements that fit together are compared by the values of their base magnitudes. -/
lemma compare_eq_ok (h : a.inCommonBase b = .ok (x, y)) (c : Comparison) :
    Value.compare c (.measurement a) (.measurement b) =
      .ok (c.holds (value x.magnitude) (value y.magnitude)) := by
  have heq : (x.magnitude == y.magnitude) =
      decide (value x.magnitude = value y.magnitude) := by
    rw [Bool.eq_iff_iff, decide_eq_true_iff]
    exact beq_iff_value_eq x.finite y.finite
  cases c with
  | lt =>
    rw [Value.compare, lt, h, ok_bind]
    exact congrArg _ (decide_eq_decide.mpr (lt_iff_value_lt x.finite y.finite))
  | le =>
    rw [Value.compare, le, h, ok_bind]
    exact congrArg _ (decide_eq_decide.mpr (le_iff_value_le x.finite y.finite))
  | gt =>
    rw [Value.compare, gt, h, ok_bind]
    exact congrArg _ (decide_eq_decide.mpr (lt_iff_value_lt y.finite x.finite))
  | ge =>
    rw [Value.compare, ge, h, ok_bind]
    exact congrArg _ (decide_eq_decide.mpr (le_iff_value_le y.finite x.finite))
  | eq =>
    rw [Value.compare, eq, h, ok_bind]
    exact congrArg _ heq
  | ne =>
    rw [Value.compare, eq, h, ok_bind, Comparison.holds, decide_not, ← heq]
    rfl

lemma is_iff (h : a.inCommonBase b = .ok (x, y)) :
    a.Is c b ↔ c.holds (value x.magnitude) (value y.magnitude) = true := by
  rw [Is, compare_eq_ok h, Except.ok.injEq]

lemma Is.exists_inCommonBase (h : a.Is c b) : ∃ x y, a.inCommonBase b = .ok (x, y) := by
  cases c with
  | lt | le | gt | ge | eq =>
    obtain ⟨p, hp, -⟩ := bind_eq_ok.mp h
    exact ⟨p.1, p.2, hp⟩
  | ne =>
    obtain ⟨r, hr, -⟩ := bind_eq_ok.mp h
    obtain ⟨p, hp, -⟩ := bind_eq_ok.mp hr
    exact ⟨p.1, p.2, hp⟩

/-- Two comparisons with one measurement in the middle are comparisons of three base magnitudes. -/
lemma Is.trans (hc : c ≠ .ne) (hab : a.Is c b) (hbd : b.Is c d) : a.Is c d := by
  obtain ⟨x, y, hxy⟩ := hab.exists_inCommonBase
  obtain ⟨y', z, hyz⟩ := hbd.exists_inCommonBase
  obtain ⟨hd, hx, hy, hname⟩ := inCommonBase_eq_ok.mp hxy
  obtain ⟨hd', hy', hz, hname'⟩ := inCommonBase_eq_ok.mp hyz
  obtain rfl : y = y' := Except.ok.inj (hy.symm.trans hy')
  have hxz : a.inCommonBase d = .ok (x, z) :=
    inCommonBase_eq_ok.mpr ⟨hd.trans hd', hx, hz, hname.trans hname'⟩
  exact (is_iff hxz).mpr (Comparison.holds_trans hc ((is_iff hxy).mp hab) ((is_iff hyz).mp hbd))

lemma isOrdered_of_inCommonBase (h : a.inCommonBase b = .ok (x, y)) : a.IsOrdered b where
  exactlyOne := by
    simp only [is_iff h, Comparison.holds, decide_eq_true_iff]
    rcases lt_trichotomy (value x.magnitude) (value y.magnitude) with hlt | heq | hgt
    · exact .inl ⟨hlt, hlt.ne, hlt.not_gt⟩
    · exact .inr (.inl ⟨heq.not_lt, heq, heq.not_gt⟩)
    · exact .inr (.inr ⟨hgt.not_gt, hgt.ne', hgt⟩)
  le := by simp only [is_iff h, Comparison.holds, decide_eq_true_iff, gt_iff_lt, not_lt]
  ge := by simp only [is_iff h, Comparison.holds, decide_eq_true_iff, ge_iff_le, not_lt]
  ne := by simp only [is_iff h, Comparison.holds, decide_eq_true_iff, ne_eq]

/-! ### Compatibility and order together -/

/-- Units are compatible or not, compatibility divides them into classes, and whatever needs
measurements that fit together refuses those whose units are not compatible. The others are ordered
as the values of their base magnitudes are. -/
theorem isRefusedIff_and_isOrdered :
    (∀ a b x y : Measurement Float, a.inBase = .ok x → b.inBase = .ok y →
      (a.unit.isCompatible b.unit = .ok true ∨ a.unit.isCompatible b.unit = .ok false) ∧
      a.IsRefusedIff b (a.unit.isCompatible b.unit = .ok false) ∧
      (a.unit.isCompatible b.unit = .ok true →
        (∀ c, Value.compare c (.measurement a) (.measurement b) =
          .ok (c.holds (value x.magnitude) (value y.magnitude))) ∧ a.IsOrdered b)) ∧
    (Equivalence fun u v : Unit.Based Float => u.1.isCompatible v.1 = .ok true) ∧
    (∀ u : Unit Float, u.IsBuiltIn → ∃ b, u.base = .ok b) ∧
    ∀ (a b d : Measurement Float) (c : Comparison), c ≠ .ne → a.Is c b → b.Is c d → a.Is c d := by
  refine ⟨?_, Unit.equivalence_isCompatible, fun u hu => ⟨_, Unit.base_eq_root hu⟩, ?_⟩
  · intro a b x y hx hy
    refine ⟨(inCommonBase_or_refused hx hy).imp And.left And.left, isRefusedIff hx hy, ?_⟩
    intro hfits
    rcases inCommonBase_or_refused hx hy with ⟨-, h⟩ | ⟨hfits', -⟩
    · exact ⟨compare_eq_ok h, isOrdered_of_inCommonBase h⟩
    · cases hfits.symm.trans hfits'
  · intro a b d c hc hab hbd
    exact hab.trans hc hbd

/-- `2 km`, `500 m` and `1 cm` are ordered, and `1 s` does not fit to them. -/
theorem isRefusedIff_and_isOrdered_length :
    ∃ a b d s x y z : Measurement Float,
      a.magnitude = 2.0 ∧ a.unit = .simple .kilometer ∧
      b.magnitude = 500.0 ∧ b.unit = .simple .meter ∧
      d.magnitude = 1.0 ∧ d.unit = .simple .centimeter ∧
      s.magnitude = 1.0 ∧ s.unit = .simple .second ∧
      a.inBase = .ok x ∧ b.inBase = .ok y ∧ s.inBase = .ok z ∧
      a.unit.isCompatible b.unit = .ok true ∧ a.IsOrdered b ∧
      a.unit.isCompatible s.unit = .ok false ∧
      a.IsRefusedIff s (a.unit.isCompatible s.unit = .ok false) ∧
      a.Is .gt b ∧ b.Is .gt d ∧ a.Is .gt d := by
  have hkilometer : SimpleUnit.kilometer ∈ SimpleUnit.builtIn (α := Float) := by
    simp [SimpleUnit.builtIn]
  have hmeter : SimpleUnit.meter ∈ SimpleUnit.builtIn (α := Float) := by simp [SimpleUnit.builtIn]
  have hcentimeter : SimpleUnit.centimeter ∈ SimpleUnit.builtIn (α := Float) := by
    simp [SimpleUnit.builtIn]
  have hsecond : SimpleUnit.second ∈ SimpleUnit.builtIn (α := Float) := by
    simp [SimpleUnit.builtIn]
  have ha := Unit.measureInBase_simple hkilometer (x := 2.0) (by decide +kernel)
  have hb := Unit.measureInBase_simple hmeter (x := 500.0) (by decide +kernel)
  have hd := Unit.measureInBase_simple hcentimeter (x := 1.0) (by decide +kernel)
  have hs := Unit.measureInBase_simple hsecond (x := 1.0) (by decide +kernel)
  have hab : Is ⟨2.0, .simple .kilometer, by decide +kernel⟩ .gt
      ⟨500.0, .simple .meter, by decide +kernel⟩ := by
    refine bind_eq_ok.mpr ⟨_, inCommonBase_eq_ok.mpr ⟨rfl, ha, hb, rfl⟩, ?_⟩
    exact congrArg _ (decide_eq_true (by decide +kernel))
  have hbd : Is ⟨500.0, .simple .meter, by decide +kernel⟩ .gt
      ⟨1.0, .simple .centimeter, isFinite_one⟩ := by
    refine bind_eq_ok.mpr ⟨_, inCommonBase_eq_ok.mpr ⟨rfl, hb, hd, rfl⟩, ?_⟩
    exact congrArg _ (decide_eq_true (by decide +kernel))
  obtain ⟨hlaws, -, -, htrans⟩ := isRefusedIff_and_isOrdered
  have hfits : (Unit.simple (.kilometer (α := Float))).isCompatible (.simple .meter) = .ok true := rfl
  have hrefused := (hlaws ⟨2.0, _, by decide +kernel⟩ ⟨1.0, _, isFinite_one⟩ _ _ ha hs).2.1
  have hordered :=
    ((hlaws ⟨2.0, _, by decide +kernel⟩ ⟨500.0, _, by decide +kernel⟩ _ _ ha hb).2.2 hfits).2
  exact ⟨⟨2.0, _, _⟩, ⟨500.0, _, _⟩, ⟨1.0, _, _⟩, ⟨1.0, _, isFinite_one⟩, _, _, _,
    rfl, rfl, rfl, rfl, rfl, rfl, rfl, rfl, ha, hb, hs, hfits, hordered, rfl, hrefused, hab, hbd,
    htrans _ _ _ _ (by decide) hab hbd⟩

end Measurement

end Metrology
