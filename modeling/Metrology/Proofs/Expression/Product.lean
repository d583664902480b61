import Metrology.Proofs.Expression.TwoStacks
import Metrology.Proofs.Unit.Chain
import Metrology.Proofs.Unit.NormalForm

/-!
# Products

What an expression of simple units with no operators but `*` and `/` comes to. Operands at the
beginning that are of the first one's dimension are brought to its base unit. All operands behind
them are taken as they are, and their units are joined to the first one in a single compound, even
if they could be brought to a common unit: from the first of them on, the product before each of
them has a unit of another dimension.
-/

namespace Metrology

/-! ### Joined numbers -/

namespace Join

/-- The operator that joins quantities in the same way. -/
def operator : Join → Operator
  | .times => .mul
  | .per => .div

lemma isAdditive_operator (j : Join) : j.operator.isAdditive = false := by cases j <;> rfl

/-- Multiply or divide. -/
def calculate (j : Join) (x y : Float) : Float :=
  match j with
  | .times => x * y
  | .per => x / y

/-- Multiply or divide a number by others, from left to right. -/
def fold (x : Float) (l : List (Join × Float)) : Float :=
  l.foldl (fun x p => p.1.calculate x p.2) x

end Join

namespace Measurement

variable {a b c r x : Measurement Float} {j : Join} {u : Unit Float}
  {rest others : List (Join × Measurement Float)}

/-! ### One factor -/

/-- A factor of the same dimension is brought to the common base unit. -/
lemma exists_of_apply_operator (hd : a.unit.dimension = b.unit.dimension)
    (h : j.operator.apply a b = .ok c) :
    ∃ x y, a.inBase = .ok x ∧ b.inBase = .ok y ∧
      c.magnitude = j.calculate x.magnitude y.magnitude ∧ c.unit = x.unit := by
  cases j with
  | times =>
    obtain ⟨x, y, hxy, hmag, hunit⟩ := (mul_eq_ok_of_eq hd).mp h
    obtain ⟨-, hx, hy, -⟩ := inCommonBase_eq_ok.mp hxy
    exact ⟨x, y, hx, hy, hmag, hunit⟩
  | per =>
    obtain ⟨-, x, y, hxy, -, hmag, hunit⟩ := (div_eq_ok_of_eq hd).mp h
    obtain ⟨-, hx, hy, -⟩ := inCommonBase_eq_ok.mp hxy
    exact ⟨x, y, hx, hy, hmag, hunit⟩

/-- A factor of another dimension is taken as it is. -/
lemma of_apply_operator (hd : a.unit.dimension ≠ b.unit.dimension)
    (h : j.operator.apply a b = .ok c) :
    c.magnitude = j.calculate a.magnitude b.magnitude ∧ c.unit = a.unit.join j b.unit := by
  cases j with
  | times => exact (mul_eq_ok_of_ne hd).mp h
  | per => exact ((div_eq_ok_of_ne hd).mp h).2

/-! ### All factors -/

/-- What comes of a magnitude in a unit, of numbers that are magnitudes in the same unit, and of
further measurements, which are taken as they are. -/
structure IsProduct (r : Measurement Float) (x : Float) (u : Unit Float) (ys : List (Join × Float))
    (others : List (Join × Measurement Float)) : Prop where
  magnitude : r.magnitude = Join.fold x (ys ++ others.map (Prod.map id Measurement.magnitude))
  alone : others = [] → r.unit = u
  joined : others ≠ [] → ∃ c, r.unit = .compound c ∧
    c.units = u :: others.map (fun p => p.2.unit) ∧ c.joins = others.map Prod.fst

lemma IsProduct.cons {y z : Float} {ys : List (Join × Float)} (h : r.IsProduct z u ys others)
    {x : Float} (hz : z = j.calculate x y) : r.IsProduct x u ((j, y) :: ys) others where
  magnitude := by
    rw [h.magnitude, hz]
    rfl
  alone := h.alone
  joined := h.joined

/-- The value of a term of these factors. -/
def product (a : Measurement Float) (rest : List (Join × Measurement Float)) :
    Result Float (Measurement Float) :=
  (Expression.Term.mk a (rest.map (Prod.map Join.operator id))).value Operator.apply

lemma product_nil : a.product [] = .ok a := rfl

lemma product_cons (p : Join × Measurement Float) :
    a.product (p :: rest) = p.1.operator.apply a p.2 >>= fun z => z.product rest := rfl

lemma product_cons_eq_ok {p : Join × Measurement Float} :
    a.product (p :: rest) = .ok r ↔
      ∃ z, p.1.operator.apply a p.2 = .ok z ∧ z.product rest = .ok r := by
  rw [product_cons, bind_eq_ok]

/-- Once there is a compound, every simple factor makes it longer. -/
lemma of_product_of_compound {c : Compound Float} (ha : a.unit = .compound c)
    (hrest : ∀ p ∈ rest, p.2.unit.dimension ≠ .compound) (h : a.product rest = .ok r) :
    r.magnitude = Join.fold a.magnitude (rest.map (Prod.map id Measurement.magnitude)) ∧
      ∃ d, r.unit = .compound d ∧ d.units = c.units ++ rest.map (fun p => p.2.unit) ∧
        d.joins = c.joins ++ rest.map Prod.fst := by
  induction rest generalizing a c with
  | nil =>
    rw [product_nil] at h
    cases h
    exact ⟨rfl, c, ha, by simp, by simp⟩
  | cons p rest ih =>
    obtain ⟨hp, hrest⟩ := List.forall_mem_cons.mp hrest
    obtain ⟨z, hz, h⟩ := product_cons_eq_ok.mp h
    have hd : a.unit.dimension ≠ p.2.unit.dimension := by
      rw [ha]
      exact hp.symm
    obtain ⟨hmag, hunit⟩ := of_apply_operator hd hz
    rw [ha, Unit.join] at hunit
    obtain ⟨hrmag, d, hd, hunits, hjoins⟩ := ih hunit hrest h
    rw [hmag] at hrmag
    refine ⟨hrmag, d, hd, ?_, ?_⟩
    · rw [hunits, Compound.units_snoc, List.append_assoc]
      rfl
    · rw [hjoins, Compound.joins_snoc, List.append_assoc]
      rfl

/-- If the next factor is of another dimension, all factors are taken as they are. -/
lemma isProduct_of_head (ha : a.unit.isCompound = false)
    (hhead : ∀ p ∈ rest.head?, a.unit.dimension ≠ p.2.unit.dimension)
    (hrest : ∀ p ∈ rest, p.2.unit.dimension ≠ .compound) (h : a.product rest = .ok r) :
    r.IsProduct a.magnitude a.unit [] rest := by
  cases rest with
  | nil =>
    rw [product_nil] at h
    cases h
    exact ⟨rfl, fun _ => rfl, fun hne => absurd rfl hne⟩
  | cons p rest =>
    obtain ⟨-, hrest⟩ := List.forall_mem_cons.mp hrest
    obtain ⟨z, hz, h⟩ := product_cons_eq_ok.mp h
    obtain ⟨hmag, hunit⟩ := of_apply_operator (hhead p rfl) hz
    cases hu : a.unit with
    | compound c =>
      rw [hu] at ha
      cases ha
    | simple s =>
      rw [hu, Unit.join] at hunit
      obtain ⟨hrmag, d, hd, hunits, hjoins⟩ := of_product_of_compound hunit hrest h
      rw [hmag] at hrmag
      refine ⟨hrmag, fun hnil => absurd hnil (List.cons_ne_nil p rest),
        fun _ => ⟨d, hd, ?_, ?_⟩⟩
      · rw [hunits, Compound.units_snoc, Compound.units_single]
        rfl
      · rw [hjoins, Compound.joins_snoc, Compound.joins_single]
        rfl

/-- A factor's base magnitude, to be joined in the same way. -/
def baseFactor (p : Join × Measurement Float) : Result Float (Join × Float) :=
  p.2.baseMagnitude.map (Prod.mk p.1)

/-- The factors before the first one of another dimension. -/
def leading (d : Dimension) (rest : List (Join × Measurement Float)) :
    List (Join × Measurement Float) := rest.takeWhile fun p => p.2.unit.dimension = d

/-- The factors from the first one of another dimension on. -/
def remaining (d : Dimension) (rest : List (Join × Measurement Float)) :
    List (Join × Measurement Float) := rest.dropWhile fun p => p.2.unit.dimension = d

section Leading

variable {d : Dimension} {p : Join × Measurement Float}

lemma leading_cons_of_eq (hd : p.2.unit.dimension = d) :
    leading d (p :: rest) = p :: leading d rest := List.takeWhile_cons_of_pos (decide_eq_true hd)

lemma remaining_cons_of_eq (hd : p.2.unit.dimension = d) :
    remaining d (p :: rest) = remaining d rest := List.dropWhile_cons_of_pos (decide_eq_true hd)

lemma mapM_baseFactor_leading_cons {ys : List (Join × Float)} (hd : p.2.unit.dimension = d)
    (hb : p.2.inBase = .ok b) (hys : (leading d rest).mapM baseFactor = .ok ys) :
    (leading d (p :: rest)).mapM baseFactor = .ok ((p.1, b.magnitude) :: ys) := by
  have hp : baseFactor p = .ok (p.1, b.magnitude) := by
    rw [baseFactor, baseMagnitude, (Unit.base_and_toBase_of_measureInBase hb).2]
    rfl
  rw [leading_cons_of_eq hd, List.mapM_cons, hp, ok_bind, hys]
  rfl

/-- Either a factor of the dimension comes first, or none is taken from the beginning. -/
lemma leading_cases (d : Dimension) (rest : List (Join × Measurement Float)) :
    (∃ p tail, rest = p :: tail ∧ p.2.unit.dimension = d) ∨
      leading d rest = [] ∧ remaining d rest = rest ∧ ∀ p ∈ rest.head?, d ≠ p.2.unit.dimension := by
  cases rest with
  | nil => exact .inr ⟨rfl, rfl, by simp⟩
  | cons p tail =>
    by_cases hd : p.2.unit.dimension = d
    · exact .inl ⟨p, tail, rfl, hd⟩
    · refine .inr ⟨List.takeWhile_cons_of_neg (by simpa using hd),
        List.dropWhile_cons_of_neg (by simpa using hd), ?_⟩
      rintro q ⟨⟩
      exact Ne.symm hd

end Leading

/-- A product in a base unit takes the base magnitudes of the next factors as long as they are of
its dimension: it stays in this unit, and its base form is itself. -/
lemma exists_isProduct_of_root (hu : u.IsBuiltIn) (ha : a.unit = u.root)
    (hsimple : a.unit.isCompound = false)
    (hrest : ∀ p ∈ rest, p.2.unit.dimension ≠ .compound) (h : a.product rest = .ok r) :
    ∃ ys, (leading a.unit.dimension rest).mapM baseFactor = .ok ys ∧
      r.IsProduct a.magnitude a.unit ys (remaining a.unit.dimension rest) := by
  -- the unit of `a` is the same in every step, so that its factor is one in every step
  induction rest generalizing a with
  | nil => exact ⟨[], rfl, isProduct_of_head hsimple (by simp [remaining]) hrest h⟩
  | cons p rest ih =>
    by_cases hd : p.2.unit.dimension = a.unit.dimension
    · obtain ⟨-, hrest⟩ := List.forall_mem_cons.mp hrest
      obtain ⟨z, hz, h⟩ := product_cons_eq_ok.mp h
      obtain ⟨x, y, hx, hy, hmag, hunit⟩ := exists_of_apply_operator hd.symm hz
      obtain rfl : a = x := Except.ok.inj ((inBase_of_unit_eq_root hu ha).symm.trans hx)
      obtain ⟨ys, hys, hproduct⟩ := ih (hunit.trans ha) (hunit ▸ hsimple) hrest h
      rw [hunit] at hys hproduct
      rw [remaining_cons_of_eq hd]
      exact ⟨_, mapM_baseFactor_leading_cons hd hy hys, hproduct.cons hmag⟩
    · rcases leading_cases a.unit.dimension (p :: rest) with ⟨q, tail, hq, hdim⟩ | ⟨hl, hr, hhead⟩
      · cases hq
        exact absurd hdim hd
      · rw [hl, hr]
        exact ⟨[], rfl, isProduct_of_head hsimple hhead hrest h⟩

/-- A first factor that is joined by another one of its dimension is brought to the base unit. -/
lemma exists_isProduct_of_leading (ha : a.unit.IsBuiltIn) (hsimple : a.unit.isCompound = false)
    (hrest : ∀ p ∈ rest, p.2.unit.dimension ≠ .compound) (h : a.product rest = .ok r)
    (hleading : leading a.unit.dimension rest ≠ []) :
    ∃ b x ys, a.unit.base = .ok b ∧ a.baseMagnitude = .ok x ∧
      (leading a.unit.dimension rest).mapM baseFactor = .ok ys ∧
      r.IsProduct x b ys (remaining a.unit.dimension rest) := by
  rcases leading_cases a.unit.dimension rest with ⟨p, tail, rfl, hd⟩ | ⟨hnil, -⟩
  · obtain ⟨-, hrest⟩ := List.forall_mem_cons.mp hrest
    obtain ⟨z, hz, h⟩ := product_cons_eq_ok.mp h
    obtain ⟨x, y, hx, hy, hmag, hunit⟩ := exists_of_apply_operator hd.symm hz
    obtain ⟨hbase, hxmag⟩ := Unit.base_and_toBase_of_measureInBase hx
    have hroot : z.unit = a.unit.root := hunit.trans (unit_eq_root_of_inBase ha hx)
    have hzsimple : z.unit.isCompound = false := by
      obtain ⟨s, -, hs⟩ := Unit.exists_simple_of_isBuiltIn ha hsimple
      rw [hroot, hs, Unit.root_simple]
      rfl
    have hzd : z.unit.dimension = a.unit.dimension := by rw [hroot, Unit.dimension_root ha]
    obtain ⟨ys, hys, hproduct⟩ := exists_isProduct_of_root ha hroot hzsimple hrest h
    rw [hzd] at hys hproduct
    rw [remaining_cons_of_eq hd]
    refine ⟨x.unit, x.magnitude, _, hbase, hxmag, mapM_baseFactor_leading_cons hd hy hys, ?_⟩
    rw [← hunit]
    exact hproduct.cons hmag
  · exact absurd hnil hleading

end Measurement

/-! ### Expressions without sums -/

namespace Expression

/-- An expression without `+` and `-` is a single term. -/
lemma Terms.value_split_of_multiplicative {β : Type} {m : Type → Type} [Monad m] [LawfulMonad m]
    (apply : Operator → β → β → m β) (x : β) {rest : List (Operator × β)}
    (h : ∀ p ∈ rest, p.1.isAdditive = false) :
    (Terms.split x rest).value apply = (Term.mk x rest).value apply := by
  have hfactors : factorsBehind rest = rest :=
    List.takeWhile_eq_self_iff.mpr fun p hp => by rw [h p hp, Bool.not_false]
  have hterms : termsBehind rest = [] := by
    refine List.eq_nil_iff_forall_not_mem.mpr fun p hp => ?_
    have hop := isAdditive_of_mem_termsBehind hp
    rw [h _ (mem_of_mem_termsBehind hp).1] at hop
    cases hop
  rw [Terms.split, Terms.value, hfactors, hterms]
  simp

/-- Such an expression is evaluated factor by factor. -/
lemma evaluate_eq_product {m : Measurement Float} {rest : List (Join × Measurement Float)}
    {vs : List (Value Float)}
    (hvs : vs.mapM Operator.ofValue = .ok (rest.map fun p => p.1.operator)) :
    evaluate (m :: rest.map Prod.snd) vs = m.product rest := by
  rw [evaluate_eq_value_split hvs (by simp), List.zip_map', Terms.value_split_of_multiplicative]
  · rfl
  · simp only [List.forall_mem_map]
    exact fun p _ => p.1.isAdditive_operator

/-- Products of measurements in simple units come out as follows. If the factors at the beginning are
of the first one's dimension, they are multiplied and divided in its base unit, otherwise the first
one is taken as it is. All others are taken as they are, and their units are joined to this one in
the same order and with the same signs. -/
theorem evaluate_product {m r : Measurement Float} {rest : List (Join × Measurement Float)}
    {vs : List (Value Float)}
    (hsimple : ∀ a ∈ m :: rest.map Prod.snd, a.unit.IsBuiltIn ∧ a.unit.isCompound = false)
    (hvs : vs.mapM Operator.ofValue = .ok (rest.map fun p => p.1.operator))
    (h : evaluate (m :: rest.map Prod.snd) vs = .ok r) :
    (rest = [] → r = m) ∧
    (Measurement.leading m.unit.dimension rest = [] →
      r.IsProduct m.magnitude m.unit [] (Measurement.remaining m.unit.dimension rest)) ∧
    (Measurement.leading m.unit.dimension rest ≠ [] →
      ∃ b x ys, m.unit.base = .ok b ∧ m.baseMagnitude = .ok x ∧
        (Measurement.leading m.unit.dimension rest).mapM Measurement.baseFactor = .ok ys ∧
        r.IsProduct x b ys (Measurement.remaining m.unit.dimension rest)) := by
  obtain ⟨⟨hm, hmsimple⟩, hrest⟩ := List.forall_mem_cons.mp hsimple
  have hdim : ∀ p ∈ rest, p.2.unit.dimension ≠ .compound := by
    intro p hp
    obtain ⟨hbuilt, hps⟩ := hrest p.2 (List.mem_map_of_mem hp)
    obtain ⟨s, hs, hunit⟩ := Unit.exists_simple_of_isBuiltIn hbuilt hps
    rw [hunit]
    exact SimpleUnit.dimension_ne_compound hs
  have hproduct : m.product rest = .ok r := (evaluate_eq_product hvs).symm.trans h
  refine ⟨?_, fun hleading => ?_, Measurement.exists_isProduct_of_leading hm hmsimple hdim hproduct⟩
  · rintro rfl
    exact (Except.ok.inj hproduct).symm
  · rcases Measurement.leading_cases m.unit.dimension rest with ⟨p, tail, rfl, hd⟩ | ⟨-, hr, hhead⟩
    · rw [Measurement.leading_cons_of_eq hd] at hleading
      cases hleading
    · rw [hr]
      exact Measurement.isProduct_of_head hmsimple hhead hdim hproduct

/-- In `1 km * 500 m / 2 s * 3 m` the first two lengths are multiplied as meters. The third stays
apart from them: the product is in `m / s * m`. -/
theorem evaluate_product_of_lengths :
    ∃ (m r : Measurement Float) (rest : List (Join × Measurement Float)),
      m.magnitude = 1.0 ∧ m.unit = .simple .kilometer ∧
      rest.map (fun p => (p.1, p.2.magnitude)) = [(.times, 500.0), (.per, 2.0), (.times, 3.0)] ∧
      rest.map (fun p => p.2.unit) = [.simple .meter, .simple .second, .simple .meter] ∧
      (∀ a ∈ m :: rest.map Prod.snd, a.unit.IsBuiltIn ∧ a.unit.isCompound = false) ∧
      evaluate (m :: rest.map Prod.snd) [.text "*", .text "/", .operator .mul] = .ok r ∧
      ∃ b x ys, m.unit.base = .ok b ∧ m.baseMagnitude = .ok x ∧
        (Measurement.leading m.unit.dimension rest).mapM Measurement.baseFactor = .ok ys ∧
        r.IsProduct x b ys (Measurement.remaining m.unit.dimension rest) := by
  have hkilometer : SimpleUnit.kilometer ∈ SimpleUnit.builtIn (α := Float) := by
    simp [SimpleUnit.builtIn]
  have hmeter : SimpleUnit.meter ∈ SimpleUnit.builtIn (α := Float) := by simp [SimpleUnit.builtIn]
  have hsecond : SimpleUnit.second ∈ SimpleUnit.builtIn (α := Float) := by
    simp [SimpleUnit.builtIn]
  have hx := Unit.measureInBase_simple hkilometer (x := 1.0) (by decide +kernel)
  have hy := Unit.measureInBase_simple hmeter (x := 500.0) (by decide +kernel)
  have hvs : [.text "*", .text "/", .operator .mul].mapM (Operator.ofValue (α := Float)) =
      .ok ([(.times, ⟨500.0, .simple .meter, by decide +kernel⟩),
        (.per, ⟨2.0, .simple .second, by decide +kernel⟩),
        (.times, ⟨3.0, .simple .meter, by decide +kernel⟩)].map
          fun p : Join × Measurement Float => p.1.operator) := rfl
  have hsimple : ∀ a ∈ (⟨1.0, .simple .kilometer, Binary64.isFinite_one⟩ : Measurement Float) ::
      [(Join.times, (⟨500.0, .simple .meter, by decide +kernel⟩ : Measurement Float)),
        (.per, ⟨2.0, .simple .second, by decide +kernel⟩),
        (.times, ⟨3.0, .simple .meter, by decide +kernel⟩)].map Prod.snd,
      a.unit.IsBuiltIn ∧ a.unit.isCompound = false := by
    simp [hkilometer, hmeter, hsecond, Unit.isCompound]
  have hone : Join.times.operator.apply ⟨1.0, .simple .kilometer, Binary64.isFinite_one⟩
      ⟨500.0, .simple .meter, by decide +kernel⟩ =
      .ok ⟨1.0 * SimpleUnit.kilometer.scale * (500.0 * SimpleUnit.meter.scale),
        .simple SimpleUnit.kilometer.root, by decide +kernel⟩ :=
    (Measurement.mul_eq_ok_of_eq (by rfl)).mpr
      ⟨_, _, Measurement.inCommonBase_eq_ok.mpr ⟨by rfl, hx, hy, by rfl⟩, by rfl, by rfl⟩
  have htwo : Join.per.operator.apply
      ⟨1.0 * SimpleUnit.kilometer.scale * (500.0 * SimpleUnit.meter.scale),
        .simple SimpleUnit.kilometer.root, by decide +kernel⟩
      ⟨2.0, .simple .second, by decide +kernel⟩ =
      .ok ⟨1.0 * SimpleUnit.kilometer.scale * (500.0 * SimpleUnit.meter.scale) / 2.0,
        .compound ((Compound.single (.simple SimpleUnit.kilometer.root)).snoc .per
          (.simple .second)), by decide +kernel⟩ :=
    (Measurement.div_eq_ok_of_ne (by decide)).mpr ⟨by decide +kernel, by rfl, by rfl⟩
  have hthree : Join.times.operator.apply
      ⟨1.0 * SimpleUnit.kilometer.scale * (500.0 * SimpleUnit.meter.scale) / 2.0,
        .compound ((Compound.single (.simple SimpleUnit.kilometer.root)).snoc .per
          (.simple .second)), by decide +kernel⟩
      ⟨3.0, .simple .meter, by decide +kernel⟩ =
      .ok ⟨1.0 * SimpleUnit.kilometer.scale * (500.0 * SimpleUnit.meter.scale) / 2.0 * 3.0,
        .compound (((Compound.single (.simple SimpleUnit.kilometer.root)).snoc .per
          (.simple .second)).snoc .times (.simple .meter)), by decide +kernel⟩ :=
    (Measurement.mul_eq_ok_of_ne (by decide)).mpr ⟨by rfl, by rfl⟩
  have h := evaluate_eq_product (m := ⟨1.0, .simple .kilometer, Binary64.isFinite_one⟩) hvs
  rw [Measurement.product_cons, hone, ok_bind, Measurement.product_cons, htwo, ok_bind,
    Measurement.product_cons, hthree, ok_bind, Measurement.product_nil] at h
  obtain ⟨-, -, hleading⟩ := evaluate_product hsimple hvs h
  exact ⟨_, _, _, rfl, rfl, rfl, rfl, hsimple, h, hleading (List.cons_ne_nil _ _)⟩

end Expression

end Metrology
