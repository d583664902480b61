import Metrology.Unit.Table

/-!
# Catalogs of kinds

New kinds of units are defined one after another. A definition names an earlier kind to inherit
from and gives only the settings that differ. It may declare the kind a family root, or place it in
the family of an earlier kind; otherwise the kind belongs to the nearest kind above it that is
declared a family root, and is its own root if there is none.
-/

namespace Metrology

variable {α : Type} [Magnitude α]

/-- The settings that a definition gives; what is missing is inherited. -/
structure Definition (α : Type) where
  name : String
  symbol : Option String
  aliases : Option (List String)
  scale : Option α
  dimension : Option Dimension
  /-- Is the kind declared a family root? -/
  isRoot : Bool

structure Entry (α : Type) where
  kind : Kind α
  /-- The nearest kind, from this one upwards, that is declared a family root. -/
  nearestRoot : Option (Kind α)

/-- The defined kinds, the latest first. -/
structure Catalog (α : Type) where
  entries : List (Entry α)
  nextSerial : Nat

namespace Entry

/-- The settings of a kind that inherits from this one. -/
def inherit (base : Entry α) (d : Definition α) (serial : Nat) : Profile α :=
  let p := base.kind.profile
  { serial
    name := d.name
    symbol := d.symbol.getD p.symbol
    aliases := d.aliases.getD p.aliases
    scale := d.scale.getD p.scale
    dimension := d.dimension <|> p.dimension }

/-- The kind with the given settings below this entry. A family that is given outright comes first,
then the kind's own declaration, then the nearest declared root above it. -/
def kindBelow (base : Entry α) (p : Profile α) (isRoot : Bool) (family : Option (Kind α)) :
    Kind α :=
  match family, isRoot, base.nearestRoot with
  | some f, _, _ => .member p f
  | none, true, _ => .root p
  | none, false, some f => .member p f
  | none, false, none => .root p

end Entry

namespace Catalog

def find? (c : Catalog α) (name : String) : Option (Entry α) :=
  c.entries.find? fun e => e.kind.profile.name == name

/-- Define a kind that inherits from `base`. Its factor has to be positive. -/
def define (c : Catalog α) (base : Entry α) (d : Definition α) (family : Option (Kind α)) :
    Result α (Entry α × Catalog α) :=
  let p := base.inherit d c.nextSerial
  if (0.0 : α) < p.scale then
    let kind := base.kindBelow p d.isRoot family
    let entry := ⟨kind, if d.isRoot then some kind else base.nearestRoot⟩
    pure (entry, ⟨entry :: c.entries, c.nextSerial + 1⟩)
  else throw (.scaleNotPositive p.name p.scale)

/-- The entry of a built-in kind: it is either a declared root or directly below one. -/
def builtInEntry (u : SimpleUnit α) : Entry α := ⟨u.kind, some u.kind.family⟩

def builtIn : Catalog α :=
  ⟨⟨.abstract, none⟩ :: SimpleUnit.builtIn.map builtInEntry,
    (SimpleUnit.builtIn (α := α)).length + 1⟩

end Catalog

end Metrology
