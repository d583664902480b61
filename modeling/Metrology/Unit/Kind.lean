import Metrology.Dimension

/-!
# Kinds of simple units

A kind of unit (gram, kilogram, …) belongs to a family. The family's root is the kind that all of
its members are converted to; every other member carries the factor that does it. A kind can be
used as a unit once it has a symbol and a dimension.
-/

namespace Metrology

/-- What is known about a kind of unit apart from its family. -/
structure Profile (α : Type) where
  /-- The place in the order of definitions; no two kinds share it. -/
  serial : Nat
  /-- The kind's name, such as `Kilogram`. -/
  name : String
  /-- The unit's symbol, such as `kg`; empty if it has none. -/
  symbol : String
  /-- Further names under which the unit can be looked up. -/
  aliases : List String
  /-- The factor that converts one unit into the family's root. -/
  scale : α
  /-- What the unit measures, if that is settled. -/
  dimension : Option Dimension

/-- A kind of simple unit. -/
inductive Kind (α : Type) where
  | root (profile : Profile α)
  /-- A member of the family of another kind. -/
  | member (profile : Profile α) (family : Kind α)

namespace Kind

variable {α : Type}

def profile : Kind α → Profile α
  | .root p => p
  | .member p _ => p

def family : Kind α → Kind α
  | .root p => .root p
  | .member _ f => f

@[simp] theorem profile_root (p : Profile α) : (Kind.root p).profile = p := rfl

@[simp] theorem profile_member (p : Profile α) (f : Kind α) : (Kind.member p f).profile = p := rfl

@[simp] theorem family_root (p : Profile α) : (Kind.root p).family = .root p := rfl

@[simp] theorem family_member (p : Profile α) (f : Kind α) : (Kind.member p f).family = f := rfl

end Kind

/-- A unit of one kind. -/
structure SimpleUnit (α : Type) where
  kind : Kind α
  named : kind.profile.symbol.isEmpty = false
  measured : kind.profile.dimension.isSome

namespace SimpleUnit

variable {α : Type}

/-- The unit of a kind, if the kind has a symbol and a dimension. -/
def ofKind? (k : Kind α) : Option (SimpleUnit α) :=
  if h : k.profile.symbol.isEmpty = false ∧ k.profile.dimension.isSome then
    some ⟨k, h.1, h.2⟩
  else none

def symbol (u : SimpleUnit α) : String := u.kind.profile.symbol

def dimension (u : SimpleUnit α) : Dimension := u.kind.profile.dimension.get u.measured

/-- The factor that converts one unit into the root of its family. -/
def scale (u : SimpleUnit α) : α := u.kind.profile.scale

/-- All names under which the unit can be looked up: its symbol, then the aliases. -/
def names (u : SimpleUnit α) : List String := u.symbol :: u.kind.profile.aliases

/-- Two simple units are the same if they are of the same kind. -/
instance : BEq (SimpleUnit α) where
  beq u v := u.kind.profile.serial == v.kind.profile.serial

end SimpleUnit

end Metrology
