import Metrology.Unit.Kind

/-!
# Units

A unit is simple, or joins other units by `*` and `/`. A compound is kept as a chain that grows at
its right end, so that it has one sign fewer than components by construction and conversions run
along it from left to right.
-/

namespace Metrology

/-- How a component is joined to the components before it. -/
inductive Join where
  | times
  | per
deriving DecidableEq, Repr

def Join.sign : Join → String
  | .times => "*"
  | .per => "/"

/-- The join that a sign stands for. -/
def Join.ofSign? (s : String) : Option Join :=
  if s = "*" then some .times else if s = "/" then some .per else none

@[simp] theorem Join.ofSign?_sign (j : Join) : Join.ofSign? j.sign = some j := by
  cases j <;> decide

mutual

/-- A unit of measurement. -/
inductive Unit (α : Type) where
  /-- A unit of one kind. -/
  | simple (u : SimpleUnit α)
  | compound (c : Compound α)

/-- Units joined by signs. -/
inductive Compound (α : Type) where
  | single (u : Unit α)
  /-- Components, and a last one joined to them. -/
  | snoc (c : Compound α) (j : Join) (u : Unit α)

end

variable {α : Type}

/-! ### Components -/

namespace Compound

/-- The components from left to right. -/
def units : Compound α → List (Unit α)
  | .single u => [u]
  | .snoc c _ u => c.units ++ [u]

def joins : Compound α → List Join
  | .single _ => []
  | .snoc c j _ => c.joins ++ [j]

def append (c : Compound α) (rest : List (Join × Unit α)) : Compound α :=
  rest.foldl (fun c p => c.snoc p.1 p.2) c

@[simp] theorem units_single (u : Unit α) : (single u).units = [u] := by simp [units]

@[simp] theorem units_snoc (c : Compound α) (j : Join) (u : Unit α) :
    (c.snoc j u).units = c.units ++ [u] := by simp [units]

@[simp] theorem joins_single (u : Unit α) : (single u).joins = [] := by simp [joins]

@[simp] theorem joins_snoc (c : Compound α) (j : Join) (u : Unit α) :
    (c.snoc j u).joins = c.joins ++ [j] := by simp [joins]

/-- A compound has one sign fewer than components. -/
theorem length_units (c : Compound α) : c.units.length = c.joins.length + 1 := by
  match c with
  | .single u => simp
  | .snoc c j u => simp [length_units c]

/-- Further components stand behind the ones that are there. -/
theorem units_append (c : Compound α) (rest : List (Join × Unit α)) :
    (c.append rest).units = c.units ++ rest.map Prod.snd := by
  induction rest generalizing c with
  | nil => simp [append]
  | cons p rest ih =>
    have h : c.append (p :: rest) = (c.snoc p.1 p.2).append rest := rfl
    rw [h, ih]
    simp

/-- Further signs stand behind the ones that are there. -/
theorem joins_append (c : Compound α) (rest : List (Join × Unit α)) :
    (c.append rest).joins = c.joins ++ rest.map Prod.fst := by
  induction rest generalizing c with
  | nil => simp [append]
  | cons p rest ih =>
    have h : c.append (p :: rest) = (c.snoc p.1 p.2).append rest := rfl
    rw [h, ih]
    simp

end Compound

namespace Unit

def dimension : Unit α → Dimension
  | .simple u => u.dimension
  | .compound _ => .compound

def isCompound : Unit α → Bool
  | .simple _ => false
  | .compound _ => true

/-- Does the unit have more than one component? -/
def isJoined : Unit α → Bool
  | .compound (.snoc ..) => true
  | _ => false

end Unit

/-! ### Names -/

mutual

/-- The unit's name: a symbol, or the names of the components and their signs, in order. -/
def Unit.name : Unit α → String
  | .simple u => u.symbol
  | .compound c => c.name

/-- The components' names and their signs. A component with a sign of its own stands in
parentheses, unless it comes first. -/
def Compound.name : Compound α → String
  | .single u => u.name
  | .snoc c j u =>
    c.name ++ " " ++ j.sign ++ " " ++ (if u.isJoined then "(" ++ u.name ++ ")" else u.name)

end

/-! ### Sameness -/

mutual

/-- Do two units have the same structure and the same kinds of simple units? -/
def Unit.same : Unit α → Unit α → Bool
  | .simple u, .simple v => u == v
  | .compound c, .compound d => c.same d
  | _, _ => false

/-- Are the components the same and joined in the same way? -/
def Compound.same : Compound α → Compound α → Bool
  | .single u, .single v => u.same v
  | .snoc c j u, .snoc d k v => c.same d && j == k && u.same v
  | _, _ => false

end

instance : BEq (Unit α) := ⟨Unit.same⟩

/-! ### Joining -/

/-- Join a unit to another on its right. A compound on the left is continued, a compound on the
right becomes one component. -/
def Unit.join (u : Unit α) (j : Join) (v : Unit α) : Unit α :=
  match u with
  | .simple u => .compound ((Compound.single (.simple u)).snoc j v)
  | .compound c => .compound (c.snoc j v)

end Metrology
