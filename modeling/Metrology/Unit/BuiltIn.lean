import Metrology.Magnitude
import Metrology.Unit.Kind

/-!
# The built-in units

Fifteen units of mass, length, time and volume. Each family is converted to the one unit in it
whose factor is one: gram, meter, second and liter.
-/

namespace Metrology

variable {α : Type} [Magnitude α]

namespace Kind

/-- The kind that all others inherit from; it has no symbol and no dimension. -/
def abstract : Kind α := .root ⟨0, "SimpleUnit", "", [], 1.0, none⟩

/-- A family's root with a symbol and one long name. -/
private def rootOf (serial : Nat) (name symbol : String) (aliases : List String)
    (dimension : Dimension) : Kind α :=
  .root ⟨serial, name, symbol, aliases, 1.0, some dimension⟩

/-- A member of a family, which measures what its root measures. -/
private def memberOf (family : Kind α) (serial : Nat) (name symbol : String)
    (aliases : List String) (scale : α) : Kind α :=
  .member ⟨serial, name, symbol, aliases, scale, family.profile.dimension⟩ family

def gram : Kind α := rootOf 1 "Gram" "g" ["grams"] .mass
def milligram : Kind α := memberOf gram 2 "Milligram" "mg" ["milligrams"] 0.001
def centigram : Kind α := memberOf gram 3 "Centigram" "cg" ["centigrams"] 0.01
def kilogram : Kind α := memberOf gram 4 "Kilogram" "kg" ["kilograms"] 1000.0

def meter : Kind α := rootOf 5 "Meter" "m" ["meters"] .length
def millimeter : Kind α := memberOf meter 6 "Millimeter" "mm" ["millimeters"] 0.001
def centimeter : Kind α := memberOf meter 7 "Centimeter" "cm" ["centimeters"] 0.01
def kilometer : Kind α := memberOf meter 8 "Kilometer" "km" ["kilometers"] 1000.0

def second : Kind α := rootOf 9 "Second" "s" ["seconds"] .time
def minute : Kind α := memberOf second 10 "Minute" "min" ["minutes"] 60.0
def hour : Kind α := memberOf second 11 "Hour" "hr" ["hours"] 3600.0

def liter : Kind α := rootOf 12 "Liter" "L" ["l", "liters"] .volume
def milliliter : Kind α := memberOf liter 13 "Milliliter" "mL" ["ml", "milliliters"] 0.001
def centiliter : Kind α := memberOf liter 14 "Centiliter" "cL" ["cl", "centiliters"] 0.01
def kiloliter : Kind α := memberOf liter 15 "Kiloliter" "kL" ["kl", "kiloliters"] 1000.0

end Kind

namespace SimpleUnit

def gram : SimpleUnit α := ⟨.gram, rfl, rfl⟩
def milligram : SimpleUnit α := ⟨.milligram, rfl, rfl⟩
def centigram : SimpleUnit α := ⟨.centigram, rfl, rfl⟩
def kilogram : SimpleUnit α := ⟨.kilogram, rfl, rfl⟩

def meter : SimpleUnit α := ⟨.meter, rfl, rfl⟩
def millimeter : SimpleUnit α := ⟨.millimeter, rfl, rfl⟩
def centimeter : SimpleUnit α := ⟨.centimeter, rfl, rfl⟩
def kilometer : SimpleUnit α := ⟨.kilometer, rfl, rfl⟩

def second : SimpleUnit α := ⟨.second, rfl, rfl⟩
def minute : SimpleUnit α := ⟨.minute, rfl, rfl⟩
def hour : SimpleUnit α := ⟨.hour, rfl, rfl⟩

def liter : SimpleUnit α := ⟨.liter, rfl, rfl⟩
def milliliter : SimpleUnit α := ⟨.milliliter, rfl, rfl⟩
def centiliter : SimpleUnit α := ⟨.centiliter, rfl, rfl⟩
def kiloliter : SimpleUnit α := ⟨.kiloliter, rfl, rfl⟩

/-- The built-in units, each dimension from the smallest to the largest. -/
def builtIn : List (SimpleUnit α) := [
  milligram, centigram, gram, kilogram, millimeter, centimeter, meter, kilometer, second, minute,
  hour, milliliter, centiliter, liter, kiloliter]

end SimpleUnit

end Metrology
