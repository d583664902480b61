import Mathlib.Data.List.Nodup
import Metrology.Proofs.Result
import Metrology.Unit.Table

/-!
# Units over the built-in kinds

Units of any nesting whose simple units are all built in. Each of them has a base unit, which has
the same structure with every simple unit replaced by the root of its family.
-/

namespace Metrology

variable {α : Type}

/-! ### Replacing simple units -/

mutual

/-- Replace every simple unit, keeping the structure. -/
def Unit.mapSimple (f : SimpleUnit α → SimpleUnit α) : Unit α → Unit α
  | .simple u => .simple (f u)
  | .compound c => .compound (c.mapSimple f)

/-- Replace every simple unit of a compound. -/
def Compound.mapSimple (f : SimpleUnit α → SimpleUnit α) : Compound α → Compound α
  | .single u => .single (u.mapSimple f)
  | .snoc c j u => (c.mapSimple f).snoc j (u.mapSimple f)

end

section MapSimple

variable (f : SimpleUnit α → SimpleUnit α)

@[simp] lemma Unit.mapSimple_simple (u : SimpleUnit α) :
    (Unit.simple u).mapSimple f = .simple (f u) := by simp [Unit.mapSimple]

@[simp] lemma Unit.mapSimple_compound (c : Compound α) :
    (Unit.compound c).mapSimple f = .compound (c.mapSimple f) := by simp [Unit.mapSimple]

@[simp] lemma Compound.mapSimple_single (u : Unit α) :
    (Compound.single u).mapSimple f = .single (u.mapSimple f) := by simp [Compound.mapSimple]

@[simp] lemma Compound.mapSimple_snoc (c : Compound α) (j : Join) (u : Unit α) :
    (c.snoc j u).mapSimple f = (c.mapSimple f).snoc j (u.mapSimple f) := by
  simp [Compound.mapSimple]

@[simp] lemma Unit.isJoined_mapSimple (u : Unit α) : (u.mapSimple f).isJoined = u.isJoined := by
  match u with
  | .simple u => simp [isJoined]
  | .compound (.single u) => simp [isJoined]
  | .compound (.snoc c j u) => simp [isJoined]

end MapSimple

variable [Magnitude α]

/-! ### Built-in simple units -/

namespace SimpleUnit

lemma map_symbol_builtIn : (builtIn (α := α)).map symbol =
    ["mg", "cg", "g", "kg", "mm", "cm", "m", "km", "s", "min", "hr", "mL", "cL", "L", "kL"] := rfl

lemma symbol_injOn_builtIn {u v : SimpleUnit α} (hu : u ∈ builtIn) (hv : v ∈ builtIn)
    (h : u.symbol = v.symbol) : u = v := by
  have hn : ((builtIn (α := α)).map symbol).Nodup := by
    rw [map_symbol_builtIn]
    decide
  exact List.inj_on_of_nodup_map hn hu hv h

lemma map_serial_builtIn : (builtIn (α := α)).map (fun u => u.kind.profile.serial) =
    [2, 3, 1, 4, 6, 7, 5, 8, 9, 10, 11, 13, 14, 12, 15] := rfl

lemma eq_of_beq {u v : SimpleUnit α} (hu : u ∈ builtIn) (hv : v ∈ builtIn)
    (h : (u == v) = true) : u = v := by
  have hn : ((builtIn (α := α)).map fun u => u.kind.profile.serial).Nodup := by
    rw [map_serial_builtIn]
    decide
  exact List.inj_on_of_nodup_map hn hu hv (by simpa [BEq.beq] using h)

/-- A symbol is a word of letters. -/
lemma symbol_letters {u : SimpleUnit α} (hu : u ∈ builtIn) :
    u.symbol.toList ≠ [] ∧ ∀ c ∈ u.symbol.toList, c.isAlpha = true := by
  have hs : ∀ s ∈ (builtIn (α := α)).map symbol,
      s.toList ≠ [] ∧ ∀ c ∈ s.toList, c.isAlpha = true := by
    rw [map_symbol_builtIn]
    simp
  exact hs u.symbol (List.mem_map_of_mem hu)

/-- The root of the unit's family, or the unit itself if the root is not a unit. -/
def root (u : SimpleUnit α) : SimpleUnit α :=
  match u.base with
  | .ok v => v
  | .error _ => u

lemma map_root_builtIn : (builtIn (α := α)).map root =
    List.replicate 4 gram ++ List.replicate 4 meter ++ List.replicate 3 second ++
      List.replicate 4 liter := rfl

lemma root_mem_builtIn {u : SimpleUnit α} (hu : u ∈ builtIn) : u.root ∈ builtIn := by
  have h : u.root ∈ builtIn.map root := List.mem_map_of_mem hu
  rw [map_root_builtIn] at h
  simp only [List.mem_append, List.mem_replicate] at h
  rcases h with ((⟨-, h⟩ | ⟨-, h⟩) | ⟨-, h⟩) | ⟨-, h⟩ <;> simp [h, builtIn]

/-- The root of a built-in unit has the factor one and is its own root. -/
lemma root_of_mem_builtIn {u : SimpleUnit α} (hu : u ∈ builtIn) :
    u.base = .ok u.root ∧ u.root.root = u.root ∧ u.root.scale = 1.0 ∧
      u.root.dimension = u.dimension := by
  simp only [builtIn, List.mem_cons, List.not_mem_nil, or_false] at hu
  rcases hu with rfl | rfl | rfl | rfl | rfl | rfl | rfl | rfl | rfl | rfl | rfl | rfl | rfl |
    rfl | rfl
  all_goals exact ⟨rfl, rfl, rfl, rfl⟩

/-- The built-in unit that the units of a dimension are converted to. No simple unit has the
dimension of compounds. -/
def ofDimension : Dimension → SimpleUnit α
  | .mass => gram
  | .length => meter
  | .time => second
  | .volume | .compound => liter

lemma dimension_ne_compound {u : SimpleUnit α} (hu : u ∈ builtIn) : u.dimension ≠ .compound := by
  simp only [builtIn, List.mem_cons, List.not_mem_nil, or_false] at hu
  rcases hu with rfl | rfl | rfl | rfl | rfl | rfl | rfl | rfl | rfl | rfl | rfl | rfl | rfl |
    rfl | rfl
  all_goals rintro ⟨⟩

lemma root_eq_ofDimension {u : SimpleUnit α} (hu : u ∈ builtIn) :
    u.root = ofDimension u.dimension := by
  simp only [builtIn, List.mem_cons, List.not_mem_nil, or_false] at hu
  rcases hu with rfl | rfl | rfl | rfl | rfl | rfl | rfl | rfl | rfl | rfl | rfl | rfl | rfl |
    rfl | rfl
  all_goals rfl

end SimpleUnit

/-! ### Units of any nesting -/

mutual

/-- Are all simple units in it built in? -/
def Unit.IsBuiltIn : Unit α → Prop
  | .simple u => u ∈ SimpleUnit.builtIn
  | .compound c => c.IsBuiltIn

/-- Are all simple units in its components built in? -/
def Compound.IsBuiltIn : Compound α → Prop
  | .single u => u.IsBuiltIn
  | .snoc c _ u => c.IsBuiltIn ∧ u.IsBuiltIn

end

@[simp] lemma Unit.isBuiltIn_simple (u : SimpleUnit α) :
    (Unit.simple u).IsBuiltIn ↔ u ∈ SimpleUnit.builtIn := by simp [Unit.IsBuiltIn]

@[simp] lemma Unit.isBuiltIn_compound (c : Compound α) :
    (Unit.compound c).IsBuiltIn ↔ c.IsBuiltIn := by simp [Unit.IsBuiltIn]

@[simp] lemma Compound.isBuiltIn_single (u : Unit α) :
    (Compound.single u).IsBuiltIn ↔ u.IsBuiltIn := by simp [Compound.IsBuiltIn]

@[simp] lemma Compound.isBuiltIn_snoc (c : Compound α) (j : Join) (u : Unit α) :
    (c.snoc j u).IsBuiltIn ↔ c.IsBuiltIn ∧ u.IsBuiltIn := by simp [Compound.IsBuiltIn]

/-- One unit divided by another. -/
def Unit.per (u v : Unit α) : Unit α := .compound ((Compound.single u).snoc .per v)

@[simp] lemma Unit.isBuiltIn_per (u v : Unit α) :
    (u.per v).IsBuiltIn ↔ u.IsBuiltIn ∧ v.IsBuiltIn := by simp [Unit.per]

lemma Unit.isBuiltIn_join {u v : Unit α} (hu : u.IsBuiltIn) (hv : v.IsBuiltIn) (j : Join) :
    (u.join j v).IsBuiltIn := by
  cases u <;> simp_all [Unit.join]

/-- The unit with every simple unit replaced by the root of its family. -/
def Unit.root (u : Unit α) : Unit α := u.mapSimple SimpleUnit.root

/-- The compound with every simple unit replaced by the root of its family. -/
def Compound.root (c : Compound α) : Compound α := c.mapSimple SimpleUnit.root

@[simp] lemma Unit.root_simple (u : SimpleUnit α) : (Unit.simple u).root = .simple u.root := by
  simp [Unit.root]

@[simp] lemma Unit.root_compound (c : Compound α) :
    (Unit.compound c).root = .compound c.root := by simp [Unit.root, Compound.root]

@[simp] lemma Compound.root_single (u : Unit α) : (Compound.single u).root = .single u.root := by
  simp [Unit.root, Compound.root]

@[simp] lemma Compound.root_snoc (c : Compound α) (j : Join) (u : Unit α) :
    (c.snoc j u).root = c.root.snoc j u.root := by simp [Unit.root, Compound.root]

lemma Unit.root_per (u v : Unit α) : (u.per v).root = u.root.per v.root := by
  simp [Unit.per]

mutual

lemma Unit.base_eq_root {u : Unit α} (hu : u.IsBuiltIn) : u.base = .ok u.root := by
  match u with
  | .simple u =>
    rw [Unit.isBuiltIn_simple] at hu
    simp [Unit.base, SimpleUnit.root_of_mem_builtIn hu]
  | .compound c =>
    rw [Unit.isBuiltIn_compound] at hu
    simp [Unit.base, Compound.base_eq_root hu]

lemma Compound.base_eq_root {c : Compound α} (hc : c.IsBuiltIn) : c.base = .ok c.root := by
  match c with
  | .single u =>
    rw [Compound.isBuiltIn_single] at hc
    simp [Compound.base, Unit.base_eq_root hc]
  | .snoc c j u =>
    rw [Compound.isBuiltIn_snoc] at hc
    simp [Compound.base, Compound.base_eq_root hc.1, Unit.base_eq_root hc.2]

end

mutual

lemma Unit.isBuiltIn_root {u : Unit α} (hu : u.IsBuiltIn) : u.root.IsBuiltIn := by
  match u with
  | .simple u =>
    rw [Unit.isBuiltIn_simple] at hu
    simp [SimpleUnit.root_mem_builtIn hu]
  | .compound c =>
    rw [Unit.isBuiltIn_compound] at hu
    simp [Compound.isBuiltIn_root hu]

lemma Compound.isBuiltIn_root {c : Compound α} (hc : c.IsBuiltIn) : c.root.IsBuiltIn := by
  match c with
  | .single u =>
    rw [Compound.isBuiltIn_single] at hc
    simp [Unit.isBuiltIn_root hc]
  | .snoc c j u =>
    rw [Compound.isBuiltIn_snoc] at hc
    simp [Compound.isBuiltIn_root hc.1, Unit.isBuiltIn_root hc.2]

end

mutual

/-- What is replaced by a root is replaced by itself the next time. -/
lemma Unit.root_root {u : Unit α} (hu : u.IsBuiltIn) : u.root.root = u.root := by
  match u with
  | .simple u =>
    rw [Unit.isBuiltIn_simple] at hu
    rw [Unit.root_simple, Unit.root_simple, (SimpleUnit.root_of_mem_builtIn hu).2.1]
  | .compound c =>
    rw [Unit.isBuiltIn_compound] at hu
    rw [Unit.root_compound, Unit.root_compound, Compound.root_root hu]

lemma Compound.root_root {c : Compound α} (hc : c.IsBuiltIn) : c.root.root = c.root := by
  match c with
  | .single u =>
    rw [Compound.isBuiltIn_single] at hc
    rw [Compound.root_single, Compound.root_single, Unit.root_root hc]
  | .snoc c j u =>
    rw [Compound.isBuiltIn_snoc] at hc
    rw [Compound.root_snoc, Compound.root_snoc, Compound.root_root hc.1, Unit.root_root hc.2]

end

lemma Unit.dimension_root {u : Unit α} (hu : u.IsBuiltIn) : u.root.dimension = u.dimension := by
  match u with
  | .simple u =>
    rw [Unit.isBuiltIn_simple] at hu
    rw [Unit.root_simple]
    exact (SimpleUnit.root_of_mem_builtIn hu).2.2.2
  | .compound c => simp [Unit.dimension]

lemma Unit.root_join (u v : Unit α) (j : Join) : (u.join j v).root = u.root.join j v.root := by
  cases u <;> simp [Unit.join]

/-! ### Sameness -/

mutual

/-- Units over the built-in kinds that are the same are equal. -/
lemma Unit.eq_of_same {u v : Unit α} (hu : u.IsBuiltIn) (hv : v.IsBuiltIn)
    (h : u.same v = true) : u = v := by
  match u, v with
  | .simple u, .simple v =>
    rw [Unit.isBuiltIn_simple] at hu hv
    rw [Unit.same] at h
    rw [SimpleUnit.eq_of_beq hu hv h]
  | .compound c, .compound d =>
    rw [Unit.isBuiltIn_compound] at hu hv
    rw [Unit.same] at h
    rw [Compound.eq_of_same hu hv h]
  | .simple u, .compound d => simp [Unit.same] at h
  | .compound c, .simple v => simp [Unit.same] at h

lemma Compound.eq_of_same {c d : Compound α} (hc : c.IsBuiltIn) (hd : d.IsBuiltIn)
    (h : c.same d = true) : c = d := by
  match c, d with
  | .single u, .single v =>
    rw [Compound.isBuiltIn_single] at hc hd
    rw [Compound.same] at h
    rw [Unit.eq_of_same hc hd h]
  | .snoc c j u, .snoc d k v =>
    rw [Compound.isBuiltIn_snoc] at hc hd
    simp only [Compound.same, Bool.and_eq_true, beq_iff_eq] at h
    obtain ⟨⟨hcd, rfl⟩, huv⟩ := h
    rw [Compound.eq_of_same hc.1 hd.1 hcd, Unit.eq_of_same hc.2 hd.2 huv]
  | .single u, .snoc d k v => simp [Compound.same] at h
  | .snoc c j u, .single v => simp [Compound.same] at h

end

/-! ### Compatibility -/

namespace Unit

lemma isCompatible_eq_ok_true {u v : Unit α} :
    u.isCompatible v = .ok true ↔
      u.dimension = v.dimension ∧ ∃ b c, u.base = .ok b ∧ v.base = .ok c ∧ b.name = c.name := by
  unfold isCompatible
  split
  · next h => simp [h, bind_eq_ok]
  · next h => simp [h]

lemma isCompatible_symm {u v : Unit α} (h : u.isCompatible v = .ok true) :
    v.isCompatible u = .ok true := by
  obtain ⟨hd, b, c, hb, hc, hname⟩ := isCompatible_eq_ok_true.mp h
  exact isCompatible_eq_ok_true.mpr ⟨hd.symm, c, b, hc, hb, hname.symm⟩

lemma isCompatible_trans {u v w : Unit α} (huv : u.isCompatible v = .ok true)
    (hvw : v.isCompatible w = .ok true) : u.isCompatible w = .ok true := by
  obtain ⟨hd, b, c, hb, hc, hname⟩ := isCompatible_eq_ok_true.mp huv
  obtain ⟨hd', c', d, hc', hd₁, hname'⟩ := isCompatible_eq_ok_true.mp hvw
  obtain rfl : c = c' := Except.ok.inj (hc.symm.trans hc')
  exact isCompatible_eq_ok_true.mpr ⟨hd.trans hd', b, d, hb, hd₁, hname.trans hname'⟩

lemma isCompatible_eq_ok_true_of_isBuiltIn {u v : Unit α} (hu : u.IsBuiltIn)
    (hv : v.IsBuiltIn) :
    u.isCompatible v = .ok true ↔ u.dimension = v.dimension ∧ u.root.name = v.root.name := by
  simp [isCompatible_eq_ok_true, base_eq_root hu, base_eq_root hv]

end Unit

end Metrology
