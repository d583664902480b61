import Mathlib.Tactic.Ring
import Metrology.Proofs.Unit.Written

/-!
# Dimensions of units

The power of a dimension in a unit counts each component with the sign before it. Names decide
compatibility, and they show the powers in the compound they read as. So compatible units agree in
these powers; in their own powers they agree as far as their names misread them alike.
-/

namespace Metrology

variable {α : Type}

/-! ### Powers -/

/-- The sign with which a join counts. -/
def Join.weight : Join → Int
  | .times => 1
  | .per => -1

mutual

/-- The power of a dimension in the unit. -/
def Unit.exponent (d : Dimension) : Unit α → Int
  | .simple u => if u.dimension = d then 1 else 0
  | .compound c => c.exponent d

/-- The power of a dimension in a compound. -/
def Compound.exponent (d : Dimension) : Compound α → Int
  | .single u => u.exponent d
  | .snoc c j u => c.exponent d + j.weight * u.exponent d

end

/-- The power of a dimension in the components behind the first sign. -/
def Compound.tailExponent (d : Dimension) : Compound α → Int
  | .single _ => 0
  | .snoc c j u => c.tailExponent d + j.weight * u.exponent d

section Equations

variable (d : Dimension)

@[simp] lemma Unit.exponent_simple (u : SimpleUnit α) :
    (Unit.simple u).exponent d = if u.dimension = d then 1 else 0 := by simp [Unit.exponent]

@[simp] lemma Unit.exponent_compound (c : Compound α) :
    (Unit.compound c).exponent d = c.exponent d := by simp [Unit.exponent]

@[simp] lemma Compound.exponent_single (u : Unit α) :
    (Compound.single u).exponent d = u.exponent d := by simp [Compound.exponent]

@[simp] lemma Compound.exponent_snoc (c : Compound α) (j : Join) (u : Unit α) :
    (c.snoc j u).exponent d = c.exponent d + j.weight * u.exponent d := by
  simp [Compound.exponent]

@[simp] lemma Compound.tailExponent_single (u : Unit α) :
    (Compound.single u).tailExponent d = 0 := by simp [Compound.tailExponent]

@[simp] lemma Compound.tailExponent_snoc (c : Compound α) (j : Join) (u : Unit α) :
    (c.snoc j u).tailExponent d = c.tailExponent d + j.weight * u.exponent d := by
  simp [Compound.tailExponent]

/-- Only the first component of a continuation counts with the sign before it. -/
lemma Compound.exponent_splice (c e : Compound α) (j : Join) :
    (c.splice j e).exponent d =
      c.exponent d + j.weight * (e.exponent d - e.tailExponent d) + e.tailExponent d := by
  cases e with
  | single u => simp
  | snoc e k u =>
    simp only [splice_snoc, exponent_snoc, tailExponent_snoc, exponent_splice c e j]
    ring

end Equations

/-! ### Misreading -/

mutual

/-- By how much the power of a dimension exceeds the one that the unit's name shows. -/
def Unit.misread (d : Dimension) : Unit α → Int
  | .simple _ => 0
  | .compound c => c.misread d

/-- By how much the power of a dimension exceeds the one that a compound's name shows. What
follows the first factor of a component without parentheses reads as if it were not behind the
component's sign. -/
def Compound.misread (d : Dimension) : Compound α → Int
  | .single u => u.misread d
  | .snoc c j u =>
    c.misread d + j.weight * u.misread d +
      (if u.isJoined then 0 else (j.weight - 1) * u.asWritten.tailExponent d)

end

mutual

lemma Unit.exponent_eq (d : Dimension) (u : Unit α) :
    u.exponent d = u.asWritten.exponent d + u.misread d := by
  match u with
  | .simple u => simp [Unit.misread]
  | .compound c => simpa [Unit.misread] using Compound.exponent_eq d c

lemma Compound.exponent_eq (d : Dimension) (c : Compound α) :
    c.exponent d = c.asWritten.exponent d + c.misread d := by
  match c with
  | .single u => simpa [Compound.misread] using Unit.exponent_eq d u
  | .snoc c j u =>
    have hc := Compound.exponent_eq d c
    have hu := Unit.exponent_eq d u
    cases h : u.isJoined with
    | true =>
      rw [Compound.asWritten_snoc_of_isJoined c j h]
      simp only [Compound.exponent_snoc, Unit.exponent_compound, Compound.misread, h, if_true,
        hc, hu]
      ring
    | false =>
      rw [Compound.asWritten_snoc_of_not_isJoined c j h, Compound.exponent_splice]
      simp only [Compound.exponent_snoc, Compound.misread, h, Bool.false_eq_true, if_false, hc,
        hu]
      ring

end

mutual

/-- Does every later component whose name holds a sign stand in parentheses? -/
def Unit.IsBracketed : Unit α → Prop
  | .simple _ => True
  | .compound c => c.IsBracketed

/-- Does every later component whose name holds a sign stand in parentheses? -/
def Compound.IsBracketed : Compound α → Prop
  | .single u => u.IsBracketed
  | .snoc c _ u =>
    c.IsBracketed ∧ u.IsBracketed ∧ (u.isJoined = true ∨ u.asWritten.joins = [])

end

lemma Compound.tailExponent_of_joins_eq_nil {c : Compound α} (h : c.joins = [])
    (d : Dimension) : c.tailExponent d = 0 := by
  match c with
  | .single u => simp
  | .snoc c j u => simp at h

mutual

/-- A name with all parentheses that it needs is not misread. -/
lemma Unit.misread_of_isBracketed {u : Unit α} (h : u.IsBracketed) (d : Dimension) :
    u.misread d = 0 := by
  match u with
  | .simple u => simp [Unit.misread]
  | .compound c =>
    rw [Unit.misread]
    exact Compound.misread_of_isBracketed (by simpa [Unit.IsBracketed] using h) d

lemma Compound.misread_of_isBracketed {c : Compound α} (h : c.IsBracketed) (d : Dimension) :
    c.misread d = 0 := by
  match c with
  | .single u =>
    rw [Compound.misread]
    exact Unit.misread_of_isBracketed (by simpa [Compound.IsBracketed] using h) d
  | .snoc c j u =>
    rw [Compound.IsBracketed] at h
    obtain ⟨hc, hu, hj⟩ := h
    rw [Compound.misread, Compound.misread_of_isBracketed hc d,
      Unit.misread_of_isBracketed hu d]
    rcases hj with hj | hj
    · simp [hj]
    · simp [Compound.tailExponent_of_joins_eq_nil hj d]

end

/-! ### Base units -/

section MapSimple

variable (f : SimpleUnit α → SimpleUnit α)

lemma Compound.mapSimple_splice (c e : Compound α) (j : Join) :
    (c.splice j e).mapSimple f = (c.mapSimple f).splice j (e.mapSimple f) := by
  match e with
  | .single u => simp
  | .snoc e k u => simp [Compound.mapSimple_splice c e j]

mutual

lemma Unit.asWritten_mapSimple (u : Unit α) :
    (u.mapSimple f).asWritten = u.asWritten.mapSimple f := by
  match u with
  | .simple u => simp
  | .compound c => simp [Compound.asWritten_mapSimple c]

lemma Compound.asWritten_mapSimple (c : Compound α) :
    (c.mapSimple f).asWritten = c.asWritten.mapSimple f := by
  match c with
  | .single u => simp [Unit.asWritten_mapSimple u]
  | .snoc c j u =>
    rw [Compound.mapSimple_snoc]
    cases h : u.isJoined with
    | true =>
      rw [Compound.asWritten_snoc_of_isJoined _ j (by simpa using h),
        Compound.asWritten_snoc_of_isJoined c j h, Compound.asWritten_mapSimple c,
        Unit.asWritten_mapSimple u]
      simp
    | false =>
      rw [Compound.asWritten_snoc_of_not_isJoined _ j (by simpa using h),
        Compound.asWritten_snoc_of_not_isJoined c j h, Compound.asWritten_mapSimple c,
        Unit.asWritten_mapSimple u, Compound.mapSimple_splice]

end

end MapSimple

variable [Magnitude α]

lemma Compound.isBuiltIn_splice {c e : Compound α} (j : Join) (hc : c.IsBuiltIn)
    (he : e.IsBuiltIn) : (c.splice j e).IsBuiltIn := by
  cases e with
  | single u => simpa [hc] using he
  | snoc e k u =>
    rw [Compound.isBuiltIn_snoc] at he
    simp [Compound.isBuiltIn_splice j hc he.1, he.2]

mutual

lemma Unit.isBuiltIn_asWritten {u : Unit α} (hu : u.IsBuiltIn) : u.asWritten.IsBuiltIn := by
  match u with
  | .simple u => simpa using hu
  | .compound c =>
    rw [Unit.isBuiltIn_compound] at hu
    rw [Unit.asWritten_compound]
    exact Compound.isBuiltIn_asWritten hu

lemma Compound.isBuiltIn_asWritten {c : Compound α} (hc : c.IsBuiltIn) :
    c.asWritten.IsBuiltIn := by
  match c with
  | .single u =>
    rw [Compound.isBuiltIn_single] at hc
    rw [Compound.asWritten_single]
    exact Unit.isBuiltIn_asWritten hc
  | .snoc c j u =>
    rw [Compound.isBuiltIn_snoc] at hc
    cases h : u.isJoined with
    | true =>
      rw [Compound.asWritten_snoc_of_isJoined c j h]
      simp [Compound.isBuiltIn_asWritten hc.1, Unit.isBuiltIn_asWritten hc.2]
    | false =>
      rw [Compound.asWritten_snoc_of_not_isJoined c j h]
      exact Compound.isBuiltIn_splice j (Compound.isBuiltIn_asWritten hc.1)
        (Unit.isBuiltIn_asWritten hc.2)

end

mutual

lemma Unit.exponent_root {u : Unit α} (hu : u.IsBuiltIn) (d : Dimension) :
    u.root.exponent d = u.exponent d := by
  match u with
  | .simple u =>
    rw [Unit.isBuiltIn_simple] at hu
    simp [SimpleUnit.root_of_mem_builtIn hu]
  | .compound c =>
    rw [Unit.isBuiltIn_compound] at hu
    simp [Compound.exponent_root hu d]

lemma Compound.exponent_root {c : Compound α} (hc : c.IsBuiltIn) (d : Dimension) :
    c.root.exponent d = c.exponent d := by
  match c with
  | .single u =>
    rw [Compound.isBuiltIn_single] at hc
    simp [Unit.exponent_root hc d]
  | .snoc c j u =>
    rw [Compound.isBuiltIn_snoc] at hc
    simp [Compound.exponent_root hc.1 d, Unit.exponent_root hc.2 d]

end

/-! ### Compatible units -/

/-- The names of compatible units show the same powers. -/
lemma Unit.exponent_asWritten_of_isCompatible {u v : Unit α} (hu : u.IsBuiltIn)
    (hv : v.IsBuiltIn) (h : u.isCompatible v = .ok true) (d : Dimension) :
    u.asWritten.exponent d = v.asWritten.exponent d := by
  obtain ⟨-, hname⟩ := (Unit.isCompatible_eq_ok_true_of_isBuiltIn hu hv).mp h
  have hwritten : u.root.asWritten = v.root.asWritten := by
    apply Compound.name_inj (Unit.isBuiltIn_asWritten (Unit.isBuiltIn_root hu))
      (Unit.isBuiltIn_asWritten (Unit.isBuiltIn_root hv)) (Unit.isPlain_asWritten _)
      (Unit.isPlain_asWritten _)
    rw [Unit.name_asWritten, Unit.name_asWritten, hname]
  calc u.asWritten.exponent d
      = u.asWritten.root.exponent d :=
        (Compound.exponent_root (Unit.isBuiltIn_asWritten hu) d).symm
    _ = u.root.asWritten.exponent d := by
        rw [Unit.root, Unit.asWritten_mapSimple, Compound.root]
    _ = v.root.asWritten.exponent d := by rw [hwritten]
    _ = v.asWritten.root.exponent d := by
        rw [Unit.root, Unit.asWritten_mapSimple, Compound.root]
    _ = v.asWritten.exponent d := Compound.exponent_root (Unit.isBuiltIn_asWritten hv) d

end Metrology
