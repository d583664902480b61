import Metrology.Proofs.Binary64.Order
import Metrology.Proofs.Measurement.Operations
import Metrology.Proofs.Unit.Catalog

/-!
# Base units of defined kinds

The unit that a family is converted to should have the factor one, and nothing makes sure that a
kind which founds a family has it. A base unit leaves all magnitudes as they are exactly if it does;
then a measurement in the family has a base form that is its own base form, and is equal to it if
both measure the same.
-/

namespace Metrology

open Binary64

/-! ### Base units -/

/-- A unit leaves all doubles as they are, the infinite ones included, exactly if its factor is
one. -/
lemma SimpleUnit.toBase_eq_self_iff {b : SimpleUnit Float} :
    (∀ x, b.toBase x = x) ↔ b.scale = 1.0 := by
  constructor
  · intro h
    have hone : 1.0 * b.scale = 1.0 := h 1.0
    rwa [one_mul_eq b.scale] at hone
  · intro h x
    rw [toBase, h, mul_one_eq x]

/-! ### Base forms -/

namespace Measurement

variable {m f : Measurement Float} {u b : SimpleUnit Float}

lemma inBase_simple_eq_ok (hm : m.unit = .simple u) (hb : u.base = .ok b) :
    m.inBase = .ok f ↔ f.magnitude = u.toBase m.magnitude ∧ f.unit = .simple b := by
  rw [inBase, hm, Unit.measureInBase, hb, ok_bind, ofMagnitude_eq_ok]

/-- A base form in a unit with the factor one is its own base form. -/
lemma inBase_of_scale_eq_one (hf : f.unit = .simple b) (hb : b.base = .ok b)
    (hone : b.scale = 1.0) : f.inBase = .ok f := by
  rw [inBase_simple_eq_ok hf hb, SimpleUnit.toBase_eq_self_iff.mpr hone]
  exact ⟨rfl, hf⟩

lemma eq_of_inBase {a b x y : Measurement Float} (hd : a.unit.dimension = b.unit.dimension)
    (hx : a.inBase = .ok x) (hy : b.inBase = .ok y) (hname : x.unit.name = y.unit.name) :
    a.eq b = .ok (x.magnitude == y.magnitude) := by
  rw [eq, inCommonBase_eq_ok.mpr ⟨hd, hx, hy, hname⟩, ok_bind]
  rfl

/-- A measurement is equal to a base form of it that is its own base form, unless they measure
different things. -/
lemma eq_inBase (hm : m.inBase = .ok f) (hf : f.inBase = .ok f) :
    m.eq f = if m.unit.dimension = f.unit.dimension then .ok true
      else .error (.incompatible m.unit.name f.unit.name
        (.dimensions m.unit.dimension f.unit.dimension)) := by
  by_cases hd : m.unit.dimension = f.unit.dimension
  · have hself : (f.magnitude == f.magnitude) = true :=
      (beq_iff_value_eq f.finite f.finite).mpr rfl
    rw [if_pos hd, eq_of_inBase hd hm hf rfl, hself]
  · rw [if_neg hd, eq, inCommonBase, if_neg hd]
    rfl

end Measurement

/-! ### Kinds that are defined -/

namespace Catalog

/-- The base unit of a new kind without a given family leaves all magnitudes as they are exactly if
its factor is one. If it is its own base unit too, a measurement's base form is its own base form,
and equal to the measurement exactly if both measure the same. A base unit is its own base unit if
the definitions before keep declared roots in their own families. All conditions are met if each
definition that founds a family has the factor one, and any other one measures what the kind above
it does. -/
theorem toBase_base_eq_self_iff {c c' : Catalog Float} {base e : Entry Float}
    {d : Definition Float} {u b : SimpleUnit Float} (hbase : base ∈ c.entries)
    (h : c.define base d none = .ok (e, c')) (hu : SimpleUnit.ofKind e.kind = .ok u)
    (hb : u.base = .ok b) :
    ((∀ x, b.toBase x = x) ↔ b.scale = 1.0) ∧
      (b.scale = 1.0 → b.base = .ok b → ∀ m f : Measurement Float, m.unit = .simple u →
        m.inBase = .ok f → f.inBase = .ok f ∧
          m.eq f = if u.dimension = b.dimension then .ok true
            else .error (.incompatible u.symbol b.symbol (.dimensions u.dimension b.dimension))) ∧
      (c.Defined Entry.KeepsRoots → b.base = .ok b) ∧
      (c.Defined Entry.Founds → base.Founds d none →
        b.scale = 1.0 ∧ b.base = .ok b ∧ u.dimension = b.dimension) := by
  obtain ⟨-, rfl, -⟩ := define_eq_ok.mp h
  have hkind := SimpleUnit.kind_of_ofKind hu
  have hfamily := SimpleUnit.kind_of_base hb
  have hown (hc : c.Defined Entry.KeepsRoots) : b.base = .ok b := by
    refine SimpleUnit.base_of_base hb ?_
    rw [hkind]
    exact (hc.hasOwnRoot base hbase).family_below d c.nextSerial
  refine ⟨SimpleUnit.toBase_eq_self_iff, fun hone hbb m f hm hf => ?_, hown, fun hc hd => ?_⟩
  · have hunit := ((Measurement.inBase_simple_eq_ok hm hb).mp hf).2
    have hself := Measurement.inBase_of_scale_eq_one hunit hbb hone
    refine ⟨hself, ?_⟩
    rw [Measurement.eq_inBase hf hself, hm, hunit]
    rfl
  · obtain ⟨hscale, hdimension⟩ :=
      (hc.isFounded base hbase).family_below hd c.nextSerial
    rw [← hkind, ← hfamily] at hscale hdimension
    exact ⟨hscale, hown (hc.mono fun _ _ _ hrule => hrule.keepsRoots),
      (SimpleUnit.dimension_eq_of_profile hdimension).symm⟩

def inch : Definition Float := ⟨"Inch", some "in", none, some 0.0254, none, false⟩

/-- Inches are defined below meters. -/
theorem toBase_base_of_inch :
    ∃ (e : Entry Float) (c' : Catalog Float) (u : SimpleUnit Float) (m f : Measurement Float),
      builtInEntry .meter ∈ (builtIn : Catalog Float).entries ∧
      builtIn.define (builtInEntry .meter) inch none = .ok (e, c') ∧
      SimpleUnit.ofKind e.kind = .ok u ∧ u.base = .ok .meter ∧
      (∀ x, (SimpleUnit.meter : SimpleUnit Float).toBase x = x) ∧
      m.magnitude = 1.0 ∧ m.unit = .simple u ∧ m.inBase = .ok f ∧ f.inBase = .ok f ∧
      m.eq f = .ok true := by
  have hbase : builtInEntry .meter ∈ (builtIn : Catalog Float).entries :=
    List.mem_cons_of_mem _ (List.mem_map_of_mem (f := builtInEntry) (by simp [SimpleUnit.builtIn]))
  have hpos : (0.0 : Float) < 0.0254 := by decide +kernel
  have hfinite : (1.0 * 0.0254 : Float).isFinite = true := by decide +kernel
  let e : Entry Float := (builtInEntry .meter).below inch none (builtIn : Catalog Float).nextSerial
  let c' : Catalog Float := ⟨e :: builtIn.entries, (builtIn : Catalog Float).nextSerial + 1⟩
  let u : SimpleUnit Float := ⟨e.kind, rfl, rfl⟩
  let m : Measurement Float := ⟨1.0, .simple u, isFinite_one⟩
  let f : Measurement Float := ⟨1.0 * 0.0254, .simple .meter, hfinite⟩
  have hdefine : builtIn.define (builtInEntry .meter) inch none = .ok (e, c') :=
    define_eq_ok.mpr ⟨hpos, rfl, rfl⟩
  have hub : u.base = .ok .meter := by rfl
  have hx : f.magnitude = u.toBase m.magnitude := by rfl
  have hin : m.inBase = .ok f := (Measurement.inBase_simple_eq_ok rfl hub).mpr ⟨hx, rfl⟩
  have hfounds : (builtInEntry .meter).Founds inch none :=
    ⟨fun _ => rfl, by simp [inch, builtInEntry], fun _ _ => rfl⟩
  obtain ⟨hself, hforms, -, hfounded⟩ :=
    toBase_base_eq_self_iff hbase hdefine (show SimpleUnit.ofKind e.kind = .ok u from rfl) hub
  obtain ⟨hone, hown, hdimension⟩ := hfounded .start hfounds
  obtain ⟨hf, heq⟩ := hforms hone hown m f rfl hin
  exact ⟨e, c', u, m, f, hbase, hdefine, rfl, hub, hself.mpr hone, rfl, rfl, hin, hf,
    heq.trans (if_pos hdimension)⟩

/-! ### A family that is founded with another factor -/

def foot : Definition Float := ⟨"Foot", some "ft", none, some 0.3048, some .length, false⟩

/-- A kind below none of the built-in units' kinds is the root of its own family whatever its factor
is. A measurement in its unit is then not equal to its own base form. -/
theorem exists_toBase_base_ne :
    ∃ (e : Entry Float) (c' : Catalog Float) (u : SimpleUnit Float) (m f : Measurement Float),
      ⟨.abstract, none⟩ ∈ (builtIn : Catalog Float).entries ∧
      builtIn.define ⟨.abstract, none⟩ foot none = .ok (e, c') ∧
      SimpleUnit.ofKind e.kind = .ok u ∧ u.base = .ok u ∧ u.scale = 0.3048 ∧
      u.toBase 1.0 = 0.3048 ∧ u.toBase 1.0 ≠ 1.0 ∧
      m.magnitude = 1.0 ∧ m.unit = .simple u ∧ m.inBase = .ok f ∧ f.inBase ≠ .ok f ∧
      m.eq f = .ok false := by
  have hpos : (0.0 : Float) < 0.3048 := by decide +kernel
  have hfinite : (1.0 * 0.3048 : Float).isFinite = true := by decide +kernel
  have hfinite' : (1.0 * 0.3048 * 0.3048 : Float).isFinite = true := by decide +kernel
  let e : Entry Float :=
    Entry.below ⟨.abstract, none⟩ foot none (builtIn : Catalog Float).nextSerial
  let c' : Catalog Float := ⟨e :: builtIn.entries, (builtIn : Catalog Float).nextSerial + 1⟩
  let u : SimpleUnit Float := ⟨e.kind, rfl, rfl⟩
  let m : Measurement Float := ⟨1.0, .simple u, isFinite_one⟩
  let f : Measurement Float := ⟨1.0 * 0.3048, .simple u, hfinite⟩
  let g : Measurement Float := ⟨1.0 * 0.3048 * 0.3048, .simple u, hfinite'⟩
  have hdefine : builtIn.define ⟨.abstract, none⟩ foot none = .ok (e, c') :=
    define_eq_ok.mpr ⟨hpos, rfl, rfl⟩
  have hub : u.base = .ok u := by rfl
  have hx : f.magnitude = u.toBase m.magnitude := by rfl
  have hy : g.magnitude = u.toBase f.magnitude := by rfl
  have hmf : m.inBase = .ok f := (Measurement.inBase_simple_eq_ok rfl hub).mpr ⟨hx, rfl⟩
  have hfg : f.inBase = .ok g := (Measurement.inBase_simple_eq_ok rfl hub).mpr ⟨hy, rfl⟩
  have hne : (f.magnitude == g.magnitude) = false := by
    change ((1.0 * 0.3048 : Float) == 1.0 * 0.3048 * 0.3048) = false
    decide +kernel
  have hff : f.inBase ≠ .ok f := by
    intro hff
    have hgf := congrArg Measurement.magnitude (Except.ok.inj (hfg.symm.trans hff))
    have hsame : (1.0 * 0.3048 * 0.3048 : Float) = 1.0 * 0.3048 := hgf
    exact absurd hsame (by decide +kernel)
  have hone : u.toBase 1.0 = 0.3048 := by
    change (1.0 * 0.3048 : Float) = 0.3048
    decide +kernel
  have hnot : u.toBase 1.0 ≠ 1.0 := by
    rw [hone]
    decide +kernel
  have heq : m.eq f = .ok (f.magnitude == g.magnitude) :=
    Measurement.eq_of_inBase rfl hmf hfg rfl
  rw [hne] at heq
  exact ⟨e, c', u, m, f, List.mem_cons_self, hdefine, rfl, hub, by rfl, hone, hnot, rfl, rfl, hmf,
    hff, heq⟩

end Catalog

end Metrology
