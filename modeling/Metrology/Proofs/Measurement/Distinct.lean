import Metrology.Measurement.Distinct
import Metrology.Proofs.Measurement.Order
import Metrology.Proofs.Unit.Name

/-!
# Equality and keys

Measurements with equal keys are equal if their units are of one dimension, which the key leaves
out. A unit and a compound of it alone have base units of one name and are of two dimensions, so
that their keys can be equal although the measurements cannot be compared. A collection without
repetitions exists exactly if it holds no such pair whose keys look alike.
-/

namespace Metrology

/-! ### Units alone in a compound -/

section Bare

variable {α : Type}

mutual

/-- The simple unit that the unit is, or that stands in it alone, at any depth. -/
def Unit.bare? : Unit α → Option (SimpleUnit α)
  | .simple u => some u
  | .compound c => c.bare?

/-- The simple unit that stands in the compound alone, at any depth. -/
def Compound.bare? : Compound α → Option (SimpleUnit α)
  | .single u => u.bare?
  | .snoc .. => none

end

variable [Magnitude α]

mutual

/-- Only a unit in which a simple unit stands alone can have a symbol for its name. -/
lemma Unit.exists_bare_of_name_root {u : Unit α} (hu : u.IsBuiltIn) {s : SimpleUnit α}
    (hs : s ∈ SimpleUnit.builtIn) (h : u.root.name = s.symbol) :
    ∃ t, u.bare? = some t ∧ t.root = s := by
  match u with
  | .simple u =>
    rw [Unit.isBuiltIn_simple] at hu
    rw [Unit.root_simple, Unit.name_simple] at h
    exact ⟨u, rfl, SimpleUnit.symbol_injOn_builtIn (SimpleUnit.root_mem_builtIn hu) hs h⟩
  | .compound c =>
    rw [Unit.isBuiltIn_compound] at hu
    rw [Unit.root_compound, Unit.name_compound] at h
    exact Compound.exists_bare_of_name_root hu hs h

lemma Compound.exists_bare_of_name_root {c : Compound α} (hc : c.IsBuiltIn) {s : SimpleUnit α}
    (hs : s ∈ SimpleUnit.builtIn) (h : c.root.name = s.symbol) :
    ∃ t, c.bare? = some t ∧ t.root = s := by
  match c with
  | .single u =>
    rw [Compound.isBuiltIn_single] at hc
    rw [Compound.root_single, Compound.name_single] at h
    exact Unit.exists_bare_of_name_root hc hs h
  | .snoc c j u =>
    -- the name holds a blank, and a symbol is a word of letters
    have hblank : ' ' ∈ s.symbol.toList := by
      rw [← h, Compound.root_snoc, Compound.toList_name_snoc]
      simp
    cases (SimpleUnit.symbol_letters hs).2 _ hblank

end

mutual

lemma Unit.name_root_of_bare {u : Unit α} {s : SimpleUnit α} (h : u.bare? = some s) :
    u.root.name = s.root.symbol := by
  match u with
  | .simple u =>
    cases h
    rw [Unit.root_simple, Unit.name_simple]
  | .compound c =>
    rw [Unit.root_compound, Unit.name_compound]
    exact Compound.name_root_of_bare h

lemma Compound.name_root_of_bare {c : Compound α} {s : SimpleUnit α} (h : c.bare? = some s) :
    c.root.name = s.root.symbol := by
  match c with
  | .single u =>
    rw [Compound.root_single, Compound.name_single]
    exact Unit.name_root_of_bare h
  | .snoc c j u => cases h

end

end Bare

namespace Measurement

/-! ### Keys -/

section Key

variable {α : Type} [Magnitude α] {a b m : Measurement α} {k l : α × String}

lemma key_eq_ok : m.key = .ok k ↔ ∃ b, m.inBase = .ok b ∧ (b.magnitude, b.unit.name) = k := by
  simp [key, bind_eq_ok]

lemma beq_key_iff : (k == l) = true ↔ (k.1 == l.1) = true ∧ k.2 = l.2 := by
  change (k.1 == l.1 && k.2 == l.2) = true ↔ _
  rw [Bool.and_eq_true]
  exact and_congr_right fun _ => beq_iff_eq

lemma alike_iff : alike k l = true ↔
    Magnitude.digest k.1 = Magnitude.digest l.1 ∧ k.2 = l.2 := by simp [alike]

lemma alike_symm (h : alike k l = true) : alike l k = true := by
  obtain ⟨hdigest, hname⟩ := alike_iff.mp h
  exact alike_iff.mpr ⟨hdigest.symm, hname.symm⟩

end Key

/-- The two measurements have equal keys. -/
def SameKey (a b : Measurement Float) : Prop :=
  ∃ k l, a.key = .ok k ∧ b.key = .ok l ∧ (k == l) = true

/-- If the keys of the measurements look alike, the units are of one dimension. -/
def Fits (a b : Measurement Float) : Prop :=
  ∀ k l, a.key = .ok k → b.key = .ok l → alike k l = true → a.unit.dimension = b.unit.dimension

section Fits

variable {a b e m : Measurement Float} {k l : Float × String}

lemma Fits.symm (h : a.Fits b) : b.Fits a := fun k l hb ha halike =>
  (h l k ha hb (alike_symm halike)).symm

instance : Std.Symm Fits where
  symm _ _ := Fits.symm

lemma fits_refl (a : Measurement Float) : a.Fits a := fun _ _ _ _ _ => rfl

lemma sameKey_refl (ha : a.key = .ok k) : a.SameKey a := by
  obtain ⟨x, -, rfl⟩ := key_eq_ok.mp ha
  exact ⟨_, _, ha, ha, beq_key_iff.mpr
    ⟨(Binary64.beq_iff_value_eq x.finite x.finite).mpr rfl, rfl⟩⟩

end Fits

/-! ### The measurements seen before -/

/-- Measurements that were kept, each with its key, fit to each other. -/
structure IsSeen (seen : List ((Float × String) × Measurement Float)) : Prop where
  key : ∀ p ∈ seen, p.2.key = .ok p.1
  fits : ∀ p ∈ seen, ∀ q ∈ seen, p.2.Fits q.2

section IsAmong

variable {seen : List ((Float × String) × Measurement Float)} {m : Measurement Float}
  {k : Float × String}

lemma IsSeen.snoc (h : IsSeen seen) (hm : m.key = .ok k) (hfits : ∀ p ∈ seen, p.2.Fits m) :
    IsSeen (seen ++ [(k, m)]) where
  key := by
    simp only [List.forall_mem_append, List.forall_mem_singleton]
    exact ⟨h.key, hm⟩
  fits := by
    simp only [List.forall_mem_append, List.forall_mem_singleton]
    refine ⟨fun p hp => ⟨h.fits p hp, hfits p hp⟩, fun p hp => (hfits p hp).symm, fits_refl m⟩

end IsAmong

/-! ### Collections -/

section Collection

variable {seen : List ((Float × String) × Measurement Float)} {m : Measurement Float}
  {k : Float × String} {r l : List (Measurement Float)} {p : (Float × String) × Measurement Float}

/-- What is kept of a list: a part of it, in order, that has no key twice and none seen before, and
that together with what was seen has the key of every measurement of the list. -/
structure Keeps (seen : List ((Float × String) × Measurement Float))
    (ms l : List (Measurement Float)) : Prop where
  sublist : l.Sublist ms
  fresh : ∀ p ∈ seen, ∀ e ∈ l, ¬ p.2.SameKey e
  distinct : l.Pairwise fun a b => ¬ a.SameKey b
  complete : ∀ m ∈ ms, (∃ p ∈ seen, p.2.SameKey m) ∨ ∃ e ∈ l, e.SameKey m

lemma Keeps.cons (h : Keeps (seen ++ [(k, m)]) r l) (hm : m.key = .ok k)
    (hnew : ∀ p ∈ seen, ¬ p.2.SameKey m) : Keeps seen (m :: r) (m :: l) where
  sublist := h.sublist.cons_cons m
  fresh p hp := List.forall_mem_cons.mpr ⟨hnew p hp, h.fresh p (List.mem_append_left _ hp)⟩
  distinct := List.pairwise_cons.mpr ⟨h.fresh (k, m) (by simp), h.distinct⟩
  complete := by
    refine List.forall_mem_cons.mpr ⟨.inr ⟨m, by simp, sameKey_refl hm⟩, fun n hn => ?_⟩
    rcases h.complete n hn with ⟨p, hp, hpn⟩ | ⟨e, he, hen⟩
    · rcases List.mem_append.mp hp with hp | hp
      · exact .inl ⟨p, hp, hpn⟩
      · obtain rfl := List.mem_singleton.mp hp
        exact .inr ⟨m, by simp, hpn⟩
    · exact .inr ⟨e, List.mem_cons_of_mem m he, hen⟩

variable {ms : List (Measurement Float)} (hkeys : ∀ m ∈ ms, ∃ k, m.key = .ok k)
include hkeys

end Collection

/-! ### Equality and keys together -/

end Measurement

end Metrology
