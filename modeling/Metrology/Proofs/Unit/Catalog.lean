import Metrology.Proofs.Result
import Metrology.Proofs.Unit.BuiltIn
import Metrology.Unit.Catalog

/-!
# Kinds that are defined

A catalog grows by one definition after another, each below an earlier kind. What holds of the
built-in kinds and is passed on by every definition holds of all kinds. So the declared root that is
nearest to a kind is the root of its own family, as long as no declared root is placed in another
one; and if every family is founded with the factor one, and nothing below its root changes what is
measured, then every root has the factor one and measures what its family does.
-/

namespace Metrology

variable {α : Type}

/-! ### One definition -/

namespace Entry

variable {base : Entry α} {d : Definition α} {family : Option (Kind α)}

/-- The entry of a kind that is defined below this one. -/
def below (base : Entry α) (d : Definition α) (family : Option (Kind α)) (serial : Nat) :
    Entry α :=
  let kind := base.kindBelow (base.inherit d serial) d.isRoot family
  ⟨kind, if d.isRoot then some kind else base.nearestRoot⟩

lemma profile_below (base : Entry α) (d : Definition α) (family : Option (Kind α)) (serial : Nat) :
    (base.below d family serial).kind.profile = base.inherit d serial := by
  unfold below kindBelow
  split <;> rfl

/-- What is asked of a definition: of the entry above it, of its settings and of the family that it
gives. -/
abbrev Rule (α : Type) : Type := Entry α → Definition α → Option (Kind α) → Prop

/-- A declared root is not placed in another family. -/
def KeepsRoots : Rule α := fun _ d family => d.isRoot = true → family = none

/-- Is the nearest declared root the root of its own family? -/
def HasOwnRoot (e : Entry α) : Prop := ∀ k, e.nearestRoot = some k → k.family = k

lemma HasOwnRoot.below (h : base.HasOwnRoot) (hd : KeepsRoots base d family) (serial : Nat) :
    (base.below d family serial).HasOwnRoot := by
  intro k hk
  unfold Entry.below kindBelow at hk
  cases hroot : d.isRoot with
  | true =>
    obtain rfl := hd hroot
    rw [hroot] at hk
    cases hk
    rfl
  | false =>
    rw [hroot] at hk
    exact h k hk

/-- A kind without a given family belongs to a kind that is the root of its own family. -/
lemma HasOwnRoot.family_below (h : base.HasOwnRoot) (d : Definition α) (serial : Nat) :
    (base.below d none serial).kind.family.family = (base.below d none serial).kind.family := by
  unfold Entry.below kindBelow
  cases d.isRoot with
  | true => rfl
  | false =>
    cases hnearest : base.nearestRoot with
    | none => rfl
    | some k => exact h k hnearest

end Entry

lemma SimpleUnit.dimension_eq_of_profile {u v : SimpleUnit α}
    (h : u.kind.profile.dimension = v.kind.profile.dimension) : u.dimension = v.dimension := by
  unfold dimension
  simp only [h]

/-! ### Sequences of definitions -/

variable [Magnitude α]

namespace Catalog

variable {c c' : Catalog α} {base e : Entry α} {d : Definition α} {family : Option (Kind α)}

lemma define_eq (c : Catalog α) (base : Entry α) (d : Definition α) (family : Option (Kind α)) :
    c.define base d family =
      if (0.0 : α) < (base.inherit d c.nextSerial).scale then
        .ok (base.below d family c.nextSerial,
          ⟨base.below d family c.nextSerial :: c.entries, c.nextSerial + 1⟩)
      else .error (.scaleNotPositive d.name (base.inherit d c.nextSerial).scale) := rfl

lemma define_eq_ok : c.define base d family = .ok (e, c') ↔
    (0.0 : α) < (base.inherit d c.nextSerial).scale ∧ e = base.below d family c.nextSerial ∧
      c' = ⟨e :: c.entries, c.nextSerial + 1⟩ := by
  rw [define_eq]
  split
  · next hpos =>
    rw [and_iff_right hpos, Except.ok.injEq, Prod.mk.injEq]
    constructor
    · rintro ⟨rfl, rfl⟩
      exact ⟨rfl, rfl⟩
    · rintro ⟨rfl, rfl⟩
      exact ⟨rfl, rfl⟩
  · next hpos => simp [hpos]

/-- The catalogs that definitions lead to, each by the rule and below an entry that is there. A
family that is given is one of a kind that is there. -/
inductive Defined (rule : Entry.Rule α) : Catalog α → Prop where
  | start : Defined rule builtIn
  | step {c c' : Catalog α} {base e : Entry α} {d : Definition α} {family : Option (Kind α)}
    (hc : Defined rule c) (hbase : base ∈ c.entries)
    (hfamily : ∀ k ∈ family, ∃ f ∈ c.entries, f.kind = k) (hrule : rule base d family)
    (h : c.define base d family = .ok (e, c')) : Defined rule c'

lemma Defined.mono {rule rule' : Entry.Rule α}
    (h : ∀ base d family, rule base d family → rule' base d family) (hc : c.Defined rule) :
    c.Defined rule' := by
  induction hc with
  | start => exact .start
  | step _ hbase hfamily hrule hdefine ih =>
    exact .step ih hbase hfamily (h _ _ _ hrule) hdefine

/-- What holds of the built-in entries and is passed on by every definition holds of all entries. -/
lemma Defined.forall_mem {rule : Entry.Rule α} {P : Entry α → Prop} (hc : c.Defined rule)
    (hstart : ∀ e ∈ (builtIn : Catalog α).entries, P e)
    (hbelow : ∀ {base d family}, P base → rule base d family →
      ∀ serial, P (base.below d family serial)) : ∀ e ∈ c.entries, P e := by
  induction hc with
  | start => exact hstart
  | step _ hbase _ hrule hdefine ih =>
    obtain ⟨-, rfl, rfl⟩ := define_eq_ok.mp hdefine
    exact List.forall_mem_cons.mpr ⟨hbelow (ih _ hbase) hrule _, ih⟩

/-- The built-in kinds are the one without a dimension and those of the built-in units, each of
which has its family's root as the nearest declared one. -/
lemma forall_mem_builtIn {P : Entry α → Prop} (habstract : P ⟨.abstract, none⟩)
    (hunit : ∀ u ∈ SimpleUnit.builtIn, P ⟨u.kind, some u.kind.family⟩) :
    ∀ e ∈ (builtIn : Catalog α).entries, P e := by
  intro e he
  rcases List.mem_cons.mp he with rfl | he
  · exact habstract
  · obtain ⟨u, hu, rfl⟩ := List.mem_map.mp he
    exact hunit u hu

/-- The kind that a built-in one belongs to is the root of its own family, has the factor one and
measures the same. -/
lemma family_of_mem_builtIn {u : SimpleUnit α} (hu : u ∈ SimpleUnit.builtIn) :
    u.kind.family.family = u.kind.family ∧ u.kind.family.profile.scale = 1.0 ∧
      u.kind.family.profile.dimension = u.kind.profile.dimension := by
  simp only [SimpleUnit.builtIn, List.mem_cons, List.not_mem_nil, or_false] at hu
  rcases hu with rfl | rfl | rfl | rfl | rfl | rfl | rfl | rfl | rfl | rfl | rfl | rfl | rfl |
    rfl | rfl
  all_goals exact ⟨rfl, rfl, rfl⟩

lemma Defined.hasOwnRoot (hc : c.Defined Entry.KeepsRoots) : ∀ e ∈ c.entries, e.HasOwnRoot := by
  refine hc.forall_mem (forall_mem_builtIn (by rintro k ⟨⟩) fun u hu => ?_) .below
  rintro k ⟨⟩
  exact (family_of_mem_builtIn hu).1

end Catalog

/-! ### Families that are founded -/

namespace Entry

variable {base : Entry α} {d : Definition α} {family : Option (Kind α)}

/-- A definition that respects what families are for. -/
structure Founds (base : Entry α) (d : Definition α) (family : Option (Kind α)) : Prop where
  keepsRoots : KeepsRoots base d family
  /-- A kind that is declared a root, or has none above it, has the factor one. -/
  one : family = none → d.isRoot = true ∨ base.nearestRoot = none →
    d.scale.getD base.kind.profile.scale = 1.0
  /-- Below a declared root, a kind measures what the kind above it measures. -/
  measures : d.isRoot = false → base.nearestRoot ≠ none →
    (d.dimension <|> base.kind.profile.dimension) = base.kind.profile.dimension

/-- Does the nearest declared root have the factor one, and does it measure what this kind does? -/
def IsFounded (e : Entry α) : Prop :=
  ∀ k, e.nearestRoot = some k →
    k.profile.scale = 1.0 ∧ k.profile.dimension = e.kind.profile.dimension

lemma IsFounded.below (h : base.IsFounded) (hd : base.Founds d family) (serial : Nat) :
    (base.below d family serial).IsFounded := by
  intro k hk
  rw [profile_below]
  unfold Entry.below kindBelow at hk
  cases hroot : d.isRoot with
  | true =>
    obtain rfl := hd.keepsRoots hroot
    rw [hroot] at hk
    cases hk
    exact ⟨hd.one rfl (.inl hroot), rfl⟩
  | false =>
    rw [hroot] at hk
    have hnearest : base.nearestRoot = some k := hk
    obtain ⟨hscale, hdimension⟩ := h k hnearest
    exact ⟨hscale, hdimension.trans (hd.measures hroot (by simp [hnearest])).symm⟩

/-- The family of the next kind without a given one has the factor one at its root, which measures
what the kind does. -/
lemma IsFounded.family_below (h : base.IsFounded) (hd : base.Founds d none) (serial : Nat) :
    (base.below d none serial).kind.family.profile.scale = 1.0 ∧
      (base.below d none serial).kind.family.profile.dimension =
        (base.below d none serial).kind.profile.dimension := by
  rw [profile_below]
  unfold Entry.below kindBelow
  cases hroot : d.isRoot with
  | true => exact ⟨hd.one rfl (.inl hroot), rfl⟩
  | false =>
    cases hnearest : base.nearestRoot with
    | none => exact ⟨hd.one rfl (.inr hnearest), rfl⟩
    | some k =>
      obtain ⟨hscale, hdimension⟩ := h k hnearest
      exact ⟨hscale, hdimension.trans (hd.measures hroot (by simp [hnearest])).symm⟩

end Entry

lemma Catalog.Defined.isFounded {c : Catalog α} (hc : c.Defined Entry.Founds) :
    ∀ e ∈ c.entries, e.IsFounded := by
  refine hc.forall_mem (forall_mem_builtIn (by rintro k ⟨⟩) fun u hu => ?_) .below
  rintro k ⟨⟩
  exact (family_of_mem_builtIn hu).2

/-! ### Units of kinds -/

namespace SimpleUnit

variable {k : Kind α} {u b : SimpleUnit α}

lemma kind_of_ofKind (h : ofKind k = .ok u) : u.kind = k := by
  unfold ofKind ofKind? at h
  split at h
  · next v hv =>
    split at hv
    · cases hv
      cases h
      rfl
    · cases hv
  · cases h

lemma kind_of_base (h : u.base = .ok b) : b.kind = u.kind.family := kind_of_ofKind h

/-- A base unit is its own base unit if its kind is the root of its own family. -/
lemma base_of_base (h : u.base = .ok b) (hown : u.kind.family.family = u.kind.family) :
    b.base = .ok b := by
  rw [base, kind_of_base h, hown]
  exact h

end SimpleUnit

end Metrology
