import Metrology.Text.Blank
import Metrology.Unit.Table

/-!
# Reading unit names

A unit is written by one of its names or, if it is a compound, by the names of its components with
a sign between each two. Blanks around signs and names do not matter.
-/

namespace Metrology

variable {α : Type} [Magnitude α]

/-! ### Tokens -/

/-- A piece of the written name of a compound. -/
inductive NameToken where
  | sign (j : Join)
  | name (s : List Char)
deriving DecidableEq, Repr

/-- The join that a character stands for. -/
def Join.ofChar? (c : Char) : Option Join :=
  if c = '*' then some .times else if c = '/' then some .per else none

/-- Can the character be part of a component's name? -/
def isNameChar (c : Char) : Bool := !Text.isBlank c && (Join.ofChar? c).isNone

/-- Put a character of a name in front of the tokens of the text behind it. It belongs to the name
that begins there, if the text does begin with a name. -/
def consNameChar (c : Char) (behind : List Char) (ts : List NameToken) : List NameToken :=
  match ts, behind.head?.any isNameChar with
  | .name s :: ts, true => .name (c :: s) :: ts
  | ts, _ => .name [c] :: ts

/-- Cut a text into signs and the longest names between them. -/
def nameTokens : List Char → List NameToken
  | [] => []
  | c :: r =>
    if Text.isBlank c then nameTokens r
    else match Join.ofChar? c with
      | some j => .sign j :: nameTokens r
      | none => consNameChar c r (nameTokens r)

/-! ### Names of simple units -/

/-- Is this the name of a built-in unit? -/
def isUnitName (name : String) : Bool := ((UnitTable.builtIn (α := Float)).find? name).isSome

def SimpleUnit.resolve (name : String) : Result α (SimpleUnit α) :=
  match UnitTable.builtIn.find? name with
  | some u => pure u
  | none => throw (.unknownUnit name)

/-! ### Names of compounds -/

def isCompoundName (name : String) : Bool :=
  name.toList.any fun c => (Join.ofChar? c).isSome

namespace Compound

/-- A component of the compound that is written as `text`. -/
def readComponent (text : String) (name : List Char) : Result α (Unit α) :=
  match UnitTable.builtIn.find? (String.ofList name) with
  | some u => pure (.simple u)
  | none => throw (.unreadable text (.unknownUnit (String.ofList name)))

/-- Continue a compound with the tokens that follow its components, of which `token` is the number
of the first. -/
def readRest (text : String) (c : Compound α) (token : Nat) :
    List NameToken → Result α (Compound α)
  | [] => pure c
  | .name s :: _ => throw (.unreadable text (.signExpected token (String.ofList s)))
  | [.sign _] => throw (.unreadable text .openEnded)
  | .sign _ :: .sign k :: _ => throw (.unreadable text (.unitExpected (token + 1) k.sign))
  | .sign j :: .name s :: r => do
    let u ← readComponent text s
    readRest text (c.snoc j u) (token + 2) r

def read (text : String) : Result α (Compound α) :=
  match nameTokens text.toList with
  | [] => throw (.unreadable text .noUnit)
  | .sign j :: _ => throw (.unreadable text (.unitExpected 1 j.sign))
  | .name s :: r => do
    let u ← readComponent text s
    readRest text (.single u) 2 r

end Compound

/-! ### All names -/

/-- Read the name of a unit, blanks around it ignored. -/
def Unit.read (name : String) : Result α (Unit α) :=
  let name := Text.strip name
  if isCompoundName name then do return .compound (← Compound.read name)
  else do return .simple (← SimpleUnit.resolve name)

/-- Is this the name of a built-in unit, or of a compound of such units? -/
def isValidUnitName (name : String) : Bool :=
  isUnitName name ||
    (isCompoundName name && (Compound.read (α := Float) name).toBool)

end Metrology
