import Mathlib.Logic.Relation
import Metrology.Proofs.Unit.Name

/-!
# Leading compounds

A compound that comes first in another one reads and converts like its own components and signs in
its place. The name, the base unit's name and both conversions run along the components from the
left and begin with what the first one gives, so that none of them tells the two apart; where one of
them fails, it fails with the same fault. This holds of a leading compound at any depth, and it is
why joining a unit to a compound may continue the compound.
-/

namespace Metrology

variable {α : Type}

namespace Compound

/-! ### Compounds as components and signs -/

/-- Compounds with the same components and the same signs are equal. -/
lemma eq_of_units_of_joins {c s : Compound α} (hu : c.units = s.units) (hj : c.joins = s.joins) :
    c = s := by
  match c, s with
  | .single u, .single v =>
    obtain rfl : u = v := by simpa using hu
    rfl
  | .single u, .snoc s k v => simp at hj
  | .snoc c j u, .single v => simp at hj
  | .snoc c j u, .snoc s k v =>
    rw [units_snoc, units_snoc] at hu
    rw [joins_snoc, joins_snoc] at hj
    obtain ⟨hunits, hu⟩ := List.append_inj' hu rfl
    obtain ⟨hjoins, hj⟩ := List.append_inj' hj rfl
    cases hu
    cases hj
    rw [eq_of_units_of_joins hunits hjoins]

lemma append_snoc (c : Compound α) (rest : List (Join × Unit α)) (j : Join) (u : Unit α) :
    (c.append rest).snoc j u = c.append (rest ++ [(j, u)]) := by
  rw [append, append, List.foldl_append]
  rfl

/-- A compound continues its first component. -/
lemma exists_eq_append (c : Compound α) : ∃ u rest, c = (single u).append rest := by
  cases c with
  | single u => exact ⟨u, [], rfl⟩
  | snoc c j u =>
    obtain ⟨v, rest, h⟩ := exists_eq_append c
    exact ⟨v, rest ++ [(j, u)], by rw [h, append_snoc]⟩

lemma exists_eq_append_of_head? {c : Compound α} {u : Unit α} (h : c.units.head? = some u) :
    ∃ rest, c = (single u).append rest := by
  obtain ⟨v, rest, rfl⟩ := c.exists_eq_append
  obtain rfl : v = u := by simpa [units_append] using h
  exact ⟨rest, rfl⟩

/-- A compound that has other components in place of the first one is continued in the same way. -/
lemma eq_append_of_units_of_joins {d s : Compound α} {u : Unit α} {rest : List (Join × Unit α)}
    (hu : s.units = d.units ++ ((single u).append rest).units.tail)
    (hj : s.joins = d.joins ++ ((single u).append rest).joins) : s = d.append rest := by
  refine eq_of_units_of_joins ?_ ?_
  · rw [hu, units_append, units_append]
    rfl
  · rw [hj, joins_append, joins_append]
    rfl

/-- A compound with another first component is continued in the same way. -/
lemma eq_single_append_of_units_of_joins {s : Compound α} {u v : Unit α}
    {rest : List (Join × Unit α)} (hu : s.units = v :: ((single u).append rest).units.tail)
    (hj : s.joins = ((single u).append rest).joins) : s = (single v).append rest :=
  eq_append_of_units_of_joins (by simpa using hu) (by simpa using hj)

/-! ### Splicing -/

/-- Is the second compound the first one with a leading compound replaced by its components and
signs? The leading compound is the first component, or stands first in it, at any depth. -/
inductive Splices : Compound α → Compound α → Prop where
  | first {c d s : Compound α} (first : c.units.head? = some (.compound d))
      (units : s.units = d.units ++ c.units.tail) (joins : s.joins = d.joins ++ c.joins) :
      Splices c s
  | within {c d e s : Compound α} (first : c.units.head? = some (.compound d)) (h : Splices d e)
      (units : s.units = .compound e :: c.units.tail) (joins : s.joins = c.joins) : Splices c s

/-- A compound that is continued can take the place of the leading compound that it was. -/
lemma splices_append (d : Compound α) (rest : List (Join × Unit α)) :
    Splices ((single (.compound d)).append rest) (d.append rest) := by
  refine .first (d := d) ?_ ?_ ?_
  · simp [units_append]
  · simp [units_append]
  · simp [joins_append]

lemma Splices.within_append {d e : Compound α} (h : Splices d e) (rest : List (Join × Unit α)) :
    Splices ((single (.compound d)).append rest) ((single (.compound e)).append rest) := by
  refine .within (d := d) (e := e) ?_ h ?_ ?_
  · simp [units_append]
  · simp [units_append]
  · simp [joins_append]

lemma Splices.snoc {c s : Compound α} (h : Splices c s) (j : Join) (u : Unit α) :
    Splices (c.snoc j u) (s.snoc j u) := by
  cases h with
  | @first _ d _ first units joins =>
    obtain ⟨rest, rfl⟩ := exists_eq_append_of_head? first
    obtain rfl := eq_append_of_units_of_joins units joins
    rw [append_snoc, append_snoc]
    exact splices_append d _
  | @within _ d e _ first h units joins =>
    obtain ⟨rest, rfl⟩ := exists_eq_append_of_head? first
    obtain rfl := eq_single_append_of_units_of_joins units joins
    rw [append_snoc, append_snoc]
    exact h.within_append _

end Compound

mutual

/-- As a component that comes first, a unit can be spliced until a simple unit comes first. -/
lemma Unit.exists_splices (u : Unit α) : ∃ (s : Compound α) (v : SimpleUnit α),
    Relation.ReflTransGen Compound.Splices (.single u) s ∧ s.units.head? = some (.simple v) := by
  match u with
  | .simple u => exact ⟨.single (.simple u), u, .refl, by simp⟩
  | .compound c =>
    -- alone, the compound is followed by nothing
    obtain ⟨s, v, hs, hv⟩ := Compound.exists_splices c
    exact ⟨s, v, .head (Compound.splices_append c []) hs, hv⟩

/-- A compound can be spliced until a simple unit comes first. -/
lemma Compound.exists_splices (c : Compound α) : ∃ (s : Compound α) (v : SimpleUnit α),
    Relation.ReflTransGen Compound.Splices c s ∧ s.units.head? = some (.simple v) := by
  match c with
  | .single u => exact Unit.exists_splices u
  | .snoc c j u =>
    obtain ⟨s, v, hs, hv⟩ := Compound.exists_splices c
    refine ⟨s.snoc j u, v, hs.lift (·.snoc j u) fun _ _ h => h.snoc j u, ?_⟩
    rw [Compound.units_snoc, List.head?_append, hv, Option.some_or]

end

/-! ### What a compound shows -/

variable [Magnitude α]

namespace Compound

def baseName (c : Compound α) : Result α String := c.base.map name

lemma baseName_single (u : Unit α) : (single u).baseName = u.base.map Unit.name := by
  rw [baseName, base]
  cases u.base with
  | ok b => exact congrArg Except.ok (name_single b)
  | error f => rfl

/-- The name of the base unit grows with the compound. -/
lemma baseName_snoc (c : Compound α) (j : Join) (u : Unit α) :
    (c.snoc j u).baseName =
      c.baseName >>= fun n => u.base.map fun b => n ++ " " ++ j.sign ++ " " ++ b.component := by
  rw [baseName, baseName, base]
  cases c.base with
  | error f => rfl
  | ok b =>
    cases u.base with
    | error f => rfl
    | ok v => exact congrArg Except.ok (name_snoc b j v)

/-- Do the compounds have the same name, base units of the same name and the same conversions, with
the same faults? -/
structure Indistinguishable (c s : Compound α) : Prop where
  name : s.name = c.name
  baseName : s.baseName = c.baseName
  toBase : ∀ x, s.toBase x = c.toBase x
  fromBase : ∀ x, s.fromBase x = c.fromBase x

namespace Indistinguishable

variable {c d s : Compound α}

lemma refl (c : Compound α) : c.Indistinguishable c :=
  ⟨rfl, rfl, fun _ => rfl, fun _ => rfl⟩

lemma symm (h : c.Indistinguishable s) : s.Indistinguishable c where
  name := h.name.symm
  baseName := h.baseName.symm
  toBase x := (h.toBase x).symm
  fromBase x := (h.fromBase x).symm

lemma trans (h : c.Indistinguishable d) (h' : d.Indistinguishable s) : c.Indistinguishable s where
  name := h'.name.trans h.name
  baseName := h'.baseName.trans h.baseName
  toBase x := (h'.toBase x).trans (h.toBase x)
  fromBase x := (h'.fromBase x).trans (h.fromBase x)

/-- Everything that a compound shows is computed from what it shows without its last component. -/
lemma snoc (h : c.Indistinguishable s) (j : Join) (u : Unit α) :
    (c.snoc j u).Indistinguishable (s.snoc j u) where
  name := by rw [name_snoc, name_snoc, h.name]
  baseName := by rw [baseName_snoc, baseName_snoc, h.baseName]
  toBase x := by rw [Compound.toBase, Compound.toBase, h.toBase]
  fromBase x := by rw [Compound.fromBase, Compound.fromBase, h.fromBase]

lemma append (h : c.Indistinguishable s) (rest : List (Join × Unit α)) :
    (c.append rest).Indistinguishable (s.append rest) := by
  induction rest generalizing c s with
  | nil => exact h
  | cons p rest ih => exact ih (h.snoc p.1 p.2)

end Indistinguishable

/-- A component that is alone shows what it shows by itself. -/
lemma indistinguishable_single (d : Compound α) :
    (single (.compound d)).Indistinguishable d where
  name := by rw [name_single, Unit.name_compound]
  baseName := by
    rw [baseName_single, Unit.base, baseName]
    cases d.base with
    | ok b => exact congrArg Except.ok (Unit.name_compound b).symm
    | error f => rfl
  toBase x := by rw [toBase, Unit.toBase]
  fromBase x := by rw [fromBase, Unit.fromBase]

lemma Indistinguishable.single {d e : Compound α} (h : d.Indistinguishable e) :
    (Compound.single (.compound d)).Indistinguishable (.single (.compound e)) :=
  (indistinguishable_single d).trans (h.trans (indistinguishable_single e).symm)

lemma Splices.indistinguishable {c s : Compound α} (h : Splices c s) : c.Indistinguishable s := by
  induction h with
  | @first c d s first units joins =>
    obtain ⟨rest, rfl⟩ := exists_eq_append_of_head? first
    obtain rfl := eq_append_of_units_of_joins units joins
    exact (indistinguishable_single d).append rest
  -- by `ih`, the leading compounds themselves cannot be told apart
  | @within c d e s first _ units joins ih =>
    obtain ⟨rest, rfl⟩ := exists_eq_append_of_head? first
    obtain rfl := eq_single_append_of_units_of_joins units joins
    exact ih.single.append rest

/-! ### Compatibility -/

lemma isCompatible_compound (c s : Compound α) :
    (Unit.compound c).isCompatible (.compound s) =
      c.baseName >>= fun n => s.baseName >>= fun n' => .ok (n == n') := by
  have hd : (Unit.compound c).dimension = (Unit.compound s).dimension := rfl
  rw [Unit.isCompatible, if_pos hd, Unit.base, Unit.base, baseName, baseName]
  cases c.base with
  | error f => rfl
  | ok b =>
    cases s.base with
    | error f => rfl
    | ok b' => exact congrArg Except.ok (by rw [Unit.name_compound, Unit.name_compound])

/-- What cannot be told apart is compatible, if it has a base unit at all. -/
lemma Indistinguishable.isCompatible {c s : Compound α} (h : c.Indistinguishable s) :
    (Unit.compound c).isCompatible (.compound s) = c.baseName.map fun _ => true := by
  rw [isCompatible_compound, h.baseName]
  cases c.baseName with
  | error f => rfl
  | ok n => exact congrArg Except.ok (beq_self_eq_true n)

/-! ### Splicing shows nothing -/

/-- A leading compound can be replaced by its components and signs, and so on until a simple unit
comes first. Nothing that the compound shows changes on the way: the name, the name of the base
unit and the conversions stay what they are, and both are compatible, unless neither has a base
unit. So joining a unit to another on its right, which continues a compound on the left, names the
one, the sign and the other. -/
theorem indistinguishable_of_splices :
    (∀ c d : Compound α, c.units.head? = some (.compound d) →
      ∃ s, c.Splices s ∧ s.units = d.units ++ c.units.tail ∧ s.joins = d.joins ++ c.joins) ∧
    (∀ c : Compound α, ∃ (s : Compound α) (v : SimpleUnit α),
      Relation.ReflTransGen Splices c s ∧ s.units.head? = some (.simple v)) ∧
    (∀ c s : Compound α, Relation.ReflTransGen Splices c s → c.Indistinguishable s ∧
      (Unit.compound c).isCompatible (.compound s) = c.baseName.map (fun _ => true) ∧
      (Unit.compound s).isCompatible (.compound c) = c.baseName.map fun _ => true) ∧
    ∀ (u v : Unit α) (j : Join), ∃ s : Compound α, u.join j v = .compound s ∧
      Relation.ReflTransGen Splices ((single u).snoc j v) s ∧
      (u.join j v).name = u.name ++ " " ++ j.sign ++ " " ++ v.component := by
  refine ⟨fun c d h => ?_, exists_splices, fun c s h => ?_, fun u v j => ?_⟩
  · obtain ⟨rest, rfl⟩ := exists_eq_append_of_head? h
    refine ⟨d.append rest, splices_append d rest, ?_, ?_⟩
    · simp [units_append]
    · simp [joins_append]
  · have hcs : c.Indistinguishable s := by
      induction h with
      | refl => exact .refl c
      | tail _ h ih => exact ih.trans h.indistinguishable
    exact ⟨hcs, hcs.isCompatible, by rw [hcs.symm.isCompatible, hcs.baseName]⟩
  · cases u with
    | simple u =>
      refine ⟨_, rfl, .refl, ?_⟩
      rw [Unit.join, Unit.name_compound, name_snoc, name_single]
    | compound c =>
      refine ⟨c.snoc j v, rfl, .single (splices_append c [(j, v)]), ?_⟩
      rw [Unit.join, Unit.name_compound, name_snoc, Unit.name_compound]

/-- Speed times mass, by volume: two leading compounds, one in the other. -/
def nested : Compound Float :=
  (single (.compound ((single (.per (.simple .kilometer) (.simple .hour))).snoc .times
    (.simple .gram)))).snoc .per (.simple .liter)

/-- The same without leading compounds. -/
def unnested : Compound Float :=
  (((single (.simple .kilometer)).snoc .per (.simple .hour)).snoc .times (.simple .gram)).snoc .per
    (.simple .liter)

/-- Neither the name nor a conversion tells `((km / hr) * g) / L` from `km / hr * g / L`. Divided by
a speed, both continue to the same name. -/
theorem indistinguishable_nested :
    Relation.ReflTransGen Splices nested unnested ∧ nested.same unnested = false ∧
      nested.name = "km / hr * g / L" ∧ unnested.name = nested.name ∧
      (Unit.compound nested).isCompatible (.compound unnested) = .ok true ∧
      (∀ x, unnested.toBase x = nested.toBase x) ∧ (∀ x, unnested.fromBase x = nested.fromBase x) ∧
      ∀ c ∈ [nested, unnested],
        ((Unit.compound c).join .per (.per (.simple .meter) (.simple .second))).name =
          "km / hr * g / L / (m / s)" := by
  have hname : nested.name = "km / hr * g / L" := by rfl
  have houter : Splices nested _ := splices_append _ [(.per, .simple .liter)]
  have hinner : Splices _ unnested :=
    splices_append ((single (.simple .kilometer)).snoc .per (.simple .hour))
      [(.times, .simple .gram), (.per, .simple .liter)]
  have h : Relation.ReflTransGen Splices nested unnested := .tail (.single houter) hinner
  obtain ⟨-, -, hsplices, hjoin⟩ := indistinguishable_of_splices (α := Float)
  obtain ⟨hshown, hcompatible, -⟩ := hsplices nested unnested h
  refine ⟨h, by rfl, hname, hshown.name, hcompatible.trans (by rfl), hshown.toBase,
    hshown.fromBase, fun c hc => ?_⟩
  have hc : c.name = "km / hr * g / L" := by
    rcases List.mem_pair.mp hc with rfl | rfl
    · exact hname
    · rw [hshown.name, hname]
  obtain ⟨s, -, -, hs⟩ :=
    hjoin (.compound c) (.per (.simple .meter) (.simple .second)) .per
  rw [hs, Unit.name_compound, hc]
  rfl

end Compound

end Metrology
