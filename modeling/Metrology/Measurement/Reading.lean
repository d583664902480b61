import Metrology.Decimal.Literal
import Metrology.Measurement.Conversion
import Metrology.Unit.Reading

/-!
# Reading measurements

A measurement is written as its magnitude and the name of its unit, with blanks between them.
-/

namespace Metrology.Measurement

/-- A finite magnitude from one word of the given text. -/
def readMagnitude (text : String) (word : List Char) : Result Float Float :=
  match Decimal.literal? word with
  | none => throw (.unreadable text (.notANumber (String.ofList word)))
  | some l =>
    if l.toFloat.isFinite then pure l.toFloat
    else throw (.unreadable text (.notFinite (String.ofList word)))

/-- The unit that a part of the given text names. An unknown name makes the whole text unreadable;
a name of a compound with a mistake in it is unreadable by itself. -/
def readUnit (text : String) (name : List Char) : Result Float (Unit Float) :=
  match (Unit.read (String.ofList name) : Result Float (Unit Float)) with
  | .error (.unknownUnit n) => throw (.unreadable text (.unknownUnit n))
  | r => r

def read (text : String) : Result Float (Measurement Float) :=
  match Text.splitFirst? text.toList with
  | none => throw (.unreadable text .pairExpected)
  | some (word, name) => do
    let x ← readMagnitude text word
    let u ← readUnit text name
    ofMagnitude x u

end Metrology.Measurement
