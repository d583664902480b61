import Metrology.Proofs.Unit.Name

/-!
# Layered units

A layered unit is a built-in simple unit, or a compound that nests in its second component only.
Layered units stay layered when they are joined or replaced by their base units, and each of them
can be told from all others by its name.
-/

namespace Metrology

variable {α : Type}

/-! ### Components of compounds -/

namespace Compound

lemma units_mapSimple (f : SimpleUnit α → SimpleUnit α) (c : Compound α) :
    (c.mapSimple f).units = c.units.map (Unit.mapSimple f) := by
  match c with
  | .single u => simp
  | .snoc c j u => simp [units_mapSimple f c]

lemma append_replicate_succ (c : Compound α) (p : Join × Unit α) (n : Nat) :
    c.append (List.replicate (n + 1) p) = (c.snoc p.1 p.2).append (List.replicate n p) := rfl

lemma isJoined_of_units_eq {c : Compound α} {u v : Unit α} {us : List (Unit α)}
    (h : c.units = u :: v :: us) : (Unit.compound c).isJoined = true := by
  match c with
  | .single u => simp at h
  | .snoc c j u => simp [Unit.isJoined]

lemma isPlain_of_units_eq {c : Compound α} {u : SimpleUnit α} {us : List (Unit α)}
    (h : c.units = .simple u :: us) (hus : ∀ v ∈ us, v.IsPlain) : c.IsPlain := by
  match c with
  | .single v =>
    rw [units_single] at h
    cases h
    simp
  | .snoc c j v =>
    rw [units_snoc] at h
    cases hc : c.units with
    | nil =>
      have := c.length_units
      simp [hc] at this
    | cons w ws =>
      rw [hc] at h
      cases h
      rw [isPlain_snoc]
      exact ⟨isPlain_of_units_eq hc fun v hv => hus v (List.mem_append_left _ hv),
        hus v (by simp)⟩

variable [Magnitude α]

lemma isBuiltIn_of_units {c : Compound α} (h : ∀ u ∈ c.units, u.IsBuiltIn) : c.IsBuiltIn := by
  match c with
  | .single u => simpa using h
  | .snoc c j u =>
    rw [isBuiltIn_snoc]
    exact ⟨isBuiltIn_of_units fun v hv => h v (by simp [hv]), h u (by simp)⟩

end Compound

/-! ### Sameness -/

mutual

lemma Unit.same_self (u : Unit α) : u.same u = true := by
  match u with
  | .simple u => simp [Unit.same, BEq.beq]
  | .compound c => simpa [Unit.same] using Compound.same_self c

lemma Compound.same_self (c : Compound α) : c.same c = true := by
  match c with
  | .single u => simpa [Compound.same] using Unit.same_self u
  | .snoc c j u => simp [Compound.same, Compound.same_self c, Unit.same_self u]

end

instance : ReflBEq (Unit α) where
  rfl := Unit.same_self _

/-! ### The shape -/

/-- Is the unit simple, or a compound of simple units? -/
def Unit.IsFlat : Unit α → Prop
  | .simple _ => True
  | .compound c => ∀ u ∈ c.units, u.isCompound = false

variable [Magnitude α]

/-- A built-in simple unit, or a compound of a first such unit, a second component that is layered
itself, and any number of further such units. -/
inductive Unit.IsLayered : Unit α → Prop where
  | simple {u : SimpleUnit α} (hu : u ∈ SimpleUnit.builtIn) : IsLayered (.simple u)
  | compound {c : Compound α} {first : SimpleUnit α} {second : Unit α}
      {rest : List (SimpleUnit α)} (hfirst : first ∈ SimpleUnit.builtIn)
      (hsecond : second.IsLayered) (hrest : ∀ u ∈ rest, u ∈ SimpleUnit.builtIn)
      (hc : c.units = .simple first :: second :: rest.map .simple) : IsLayered (.compound c)

namespace Unit.IsLayered

/-- A compound is continued with simple units only, as two compounds have one dimension. -/
lemma join {u v : Unit α} (hu : u.IsLayered) (hv : v.IsLayered)
    (hd : u.dimension ≠ v.dimension) (j : Join) : (u.join j v).IsLayered := by
  cases hu with
  | simple hu => exact .compound hu hv (fun _ h => absurd h List.not_mem_nil) (by simp)
  | compound hfirst hsecond hrest hc =>
    cases hv with
    | simple hv =>
      have hall := List.forall_mem_append.mpr ⟨hrest, List.forall_mem_singleton.mpr hv⟩
      exact .compound hfirst hsecond hall (by simp [hc])
    | compound => exact absurd rfl hd

lemma root {u : Unit α} (hu : u.IsLayered) : u.root.IsLayered := by
  induction hu with
  | simple hu =>
    rw [root_simple]
    exact .simple (SimpleUnit.root_mem_builtIn hu)
  | @compound c first second rest hfirst _ hrest hc ih =>
    rw [root_compound]
    have hroots : ∀ u ∈ rest.map SimpleUnit.root, u ∈ SimpleUnit.builtIn := by
      intro u hu
      obtain ⟨v, hv, rfl⟩ := List.mem_map.mp hu
      exact SimpleUnit.root_mem_builtIn (hrest v hv)
    refine .compound (SimpleUnit.root_mem_builtIn hfirst) ih hroots ?_
    rw [Compound.root, Compound.units_mapSimple, hc]
    simp [Unit.root, Function.comp_def]

lemma isBuiltIn {u : Unit α} (hu : u.IsLayered) : u.IsBuiltIn := by
  induction hu with
  | simple hu => simpa using hu
  | compound hfirst _ hrest hc ih =>
    rw [isBuiltIn_compound]
    refine Compound.isBuiltIn_of_units ?_
    rw [hc]
    simpa [hfirst, ih] using hrest

lemma isPlain {u : Unit α} (hu : u.IsLayered) : u.IsPlain := by
  induction hu with
  | simple => simp
  | compound _ _ _ hc ih =>
    rw [isPlain_compound]
    refine ⟨Compound.isJoined_of_units_eq hc, Compound.isPlain_of_units_eq hc ?_⟩
    simpa using ih

/-- Layered units can be told by their names. -/
lemma name_inj {u v : Unit α} (hu : u.IsLayered) (hv : v.IsLayered) (h : u.name = v.name) :
    u = v :=
  Unit.name_inj hu.isBuiltIn hv.isBuiltIn hu.isPlain hv.isPlain h

lemma base_eq_root {u : Unit α} (hu : u.IsLayered) : u.base = .ok u.root :=
  Unit.base_eq_root hu.isBuiltIn

lemma of_base_eq_ok {u b : Unit α} (hu : u.IsLayered) (h : u.base = .ok b) : b.IsLayered := by
  rw [hu.base_eq_root] at h
  cases h
  exact hu.root

end Unit.IsLayered

end Metrology
