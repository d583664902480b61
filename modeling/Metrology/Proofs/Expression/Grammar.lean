import Metrology.Expression.Operator
import Metrology.Proofs.Result

/-!
# The grammar of expressions

An expression is a sum of terms, and a term is a product of factors: `+` and `-` stand between
terms, `*` and `/` between the factors of one term. The value of an expression is found along this
structure, from left to right, each term being evaluated before it is added or subtracted.

Operands may be of any type, and combining two of them may fail in any way.
-/

namespace Metrology

/-! ### Levels of operators -/

namespace Operator

/-- Does the operator stand between two terms? -/
def isAdditive : Operator → Bool
  | .add | .sub => true
  | .mul | .div => false

lemma precedence_of_isAdditive {op : Operator} (h : op.isAdditive = true) :
    op.precedence = 1 := by
  cases op <;> simp_all [isAdditive, precedence]

lemma precedence_of_not_isAdditive {op : Operator} (h : op.isAdditive = false) :
    op.precedence = 2 := by
  cases op <;> simp_all [isAdditive, precedence]

end Operator

namespace Expression

variable {β : Type}

/-! ### Sums of terms -/

/-- A first factor, and further ones behind their operators. -/
structure Term (β : Type) where
  first : β
  rest : List (Operator × β)

/-- A first term, and further ones behind their operators. -/
structure Terms (β : Type) where
  first : Term β
  rest : List (Operator × Term β)

/-- The operands that belong to the term before them. -/
def factorsBehind (rest : List (Operator × β)) : List (Operator × β) :=
  rest.takeWhile fun p => !p.1.isAdditive

/-- The terms that begin among the given operands. -/
def termsBehind : List (Operator × β) → List (Operator × Term β)
  | [] => []
  | (op, x) :: rest =>
    if op.isAdditive then (op, ⟨x, factorsBehind rest⟩) :: termsBehind rest else termsBehind rest

/-- Split an operand, and those behind it, at `+` and `-`. -/
def Terms.split (x : β) (rest : List (Operator × β)) : Terms β :=
  ⟨⟨x, factorsBehind rest⟩, termsBehind rest⟩

@[simp] lemma factorsBehind_nil : factorsBehind ([] : List (Operator × β)) = [] := rfl

@[simp] lemma factorsBehind_cons (op : Operator) (x : β) (rest : List (Operator × β)) :
    factorsBehind ((op, x) :: rest) =
      if op.isAdditive then [] else (op, x) :: factorsBehind rest := by
  cases h : op.isAdditive <;> simp [factorsBehind, h]

@[simp] lemma termsBehind_nil : termsBehind ([] : List (Operator × β)) = [] := rfl

@[simp] lemma termsBehind_cons (op : Operator) (x : β) (rest : List (Operator × β)) :
    termsBehind ((op, x) :: rest) =
      if op.isAdditive then (op, ⟨x, factorsBehind rest⟩) :: termsBehind rest
      else termsBehind rest := rfl

lemma factorsBehind_sublist (rest : List (Operator × β)) :
    List.Sublist (factorsBehind rest) rest := List.takeWhile_sublist _

/-- No operand is lost or moved by the split. -/
lemma factorsBehind_append_termsBehind (rest : List (Operator × β)) :
    factorsBehind rest ++ (termsBehind rest).flatMap (fun p => (p.1, p.2.first) :: p.2.rest) =
      rest := by
  induction rest with
  | nil => rfl
  | cons p rest ih =>
    obtain ⟨op, x⟩ := p
    cases h : op.isAdditive <;> simp [h, ih]

lemma isAdditive_of_mem_termsBehind {rest : List (Operator × β)} {p : Operator × Term β}
    (h : p ∈ termsBehind rest) : p.1.isAdditive = true := by
  induction rest with
  | nil => simp at h
  | cons q rest ih =>
    rw [termsBehind_cons] at h
    split at h
    · next hop =>
      rcases List.mem_cons.mp h with rfl | h
      · exact hop
      · exact ih h
    · exact ih h

/-- The first factor of a later term is an operand, and so are the factors behind it. -/
lemma mem_of_mem_termsBehind {rest : List (Operator × β)} {p : Operator × Term β}
    (h : p ∈ termsBehind rest) : (p.1, p.2.first) ∈ rest ∧ ∀ q ∈ p.2.rest, q ∈ rest := by
  have hall : ∀ q ∈ (p.1, p.2.first) :: p.2.rest, q ∈ rest := by
    intro q hq
    rw [← factorsBehind_append_termsBehind rest]
    exact List.mem_append_right _ (List.mem_flatMap.mpr ⟨p, h, hq⟩)
  exact List.forall_mem_cons.mp hall

/-! ### Values -/

section Value

variable {m : Type → Type} [Monad m] (apply : Operator → β → β → m β)

/-- The value of a term: its factors are combined from left to right. -/
def Term.value (t : Term β) : m β := t.rest.foldlM (fun x p => apply p.1 x p.2) t.first

/-- Combine further terms with a sum, each after it is evaluated. -/
def addTerms (x : β) (ts : List (Operator × Term β)) : m β :=
  ts.foldlM (fun x p => do apply p.1 x (← p.2.value apply)) x

/-- The value of a sum: its terms are combined from left to right. -/
def Terms.value (s : Terms β) : m β := do addTerms apply (← s.first.value apply) s.rest

@[simp] lemma Term.value_nil (x : β) : (Term.mk x []).value apply = pure x := rfl

@[simp] lemma Term.value_cons (x y : β) (op : Operator) (rest : List (Operator × β)) :
    (Term.mk x ((op, y) :: rest)).value apply =
      apply op x y >>= fun z => (Term.mk z rest).value apply := rfl

@[simp] lemma addTerms_nil (x : β) : addTerms apply x [] = pure x := rfl

@[simp] lemma addTerms_cons [LawfulMonad m] (x : β) (op : Operator) (t : Term β)
    (ts : List (Operator × Term β)) :
    addTerms apply x ((op, t) :: ts) =
      t.value apply >>= fun y => apply op x y >>= fun z => addTerms apply z ts := by
  simp [addTerms]

end Value

/-! ### Replacing operands -/

section Map

variable {γ : Type} (f : β → γ)

/-- Replace the operands of a term. -/
def Term.map (t : Term β) : Term γ := ⟨f t.first, t.rest.map (Prod.map id f)⟩

/-- Replace the operands of a sum. -/
def Terms.map (s : Terms β) : Terms γ := ⟨s.first.map f, s.rest.map (Prod.map id (Term.map f))⟩

lemma map_factorsBehind (rest : List (Operator × β)) :
    (factorsBehind rest).map (Prod.map id f) = factorsBehind (rest.map (Prod.map id f)) := by
  induction rest with
  | nil => rfl
  | cons p rest ih =>
    obtain ⟨op, x⟩ := p
    cases h : op.isAdditive <;> simp [h, ih]

lemma map_termsBehind (rest : List (Operator × β)) :
    (termsBehind rest).map (Prod.map id (Term.map f)) =
      termsBehind (rest.map (Prod.map id f)) := by
  induction rest with
  | nil => rfl
  | cons p rest ih =>
    obtain ⟨op, x⟩ := p
    cases h : op.isAdditive <;> simp [h, ih, Term.map, map_factorsBehind]

lemma Terms.map_split (x : β) (rest : List (Operator × β)) :
    (Terms.split x rest).map f = Terms.split (f x) (rest.map (Prod.map id f)) := by
  simp [Terms.map, Terms.split, Term.map, map_factorsBehind, map_termsBehind]

/-- The operands of a term, in order. -/
def Term.operands (t : Term β) : List β := t.first :: t.rest.map Prod.snd

/-- The operands of a sum, in order. -/
def Terms.operands (s : Terms β) : List β :=
  s.first.operands ++ s.rest.flatMap fun p => p.2.operands

lemma Terms.operands_split (x : β) (rest : List (Operator × β)) :
    (Terms.split x rest).operands = x :: rest.map Prod.snd := by
  have h := congrArg (List.map Prod.snd) (factorsBehind_append_termsBehind rest)
  simpa [operands, split, Term.operands, List.map_flatMap] using h

/-! ### Values under a map -/

variable {ε : Type} {apply : Operator → β → β → Except ε β}
  {compute : Operator → γ → γ → Option γ} {P : β → Prop} {f}
  (hstep : ∀ ⦃op x y z⦄, P x → P y → apply op x y = .ok z →
    P z ∧ compute op (f x) (f y) = some (f z))

include hstep

/-- If a map takes one operation to another, it takes the value of a term to that of its image. -/
lemma Term.value_map {t : Term β} {z : β} (ht : ∀ x ∈ t.operands, P x)
    (h : t.value apply = .ok z) : P z ∧ (t.map f).value compute = some (f z) := by
  obtain ⟨x, rest⟩ := t
  induction rest generalizing x with
  | nil =>
    obtain rfl : x = z := by simpa using h
    simpa [Term.map, operands] using ht
  | cons p rest ih =>
    obtain ⟨op, y⟩ := p
    obtain ⟨w, hw, h⟩ := bind_eq_ok.mp h
    obtain ⟨hx, hy, hrest⟩ : P x ∧ P y ∧ ∀ x ∈ rest.map Prod.snd, P x := by
      simpa [operands] using ht
    obtain ⟨hPw, hcompute⟩ := hstep hx hy hw
    obtain ⟨hPz, hvalue⟩ := ih w (List.forall_mem_cons.mpr ⟨hPw, hrest⟩) h
    refine ⟨hPz, ?_⟩
    simpa [Term.map, hcompute] using hvalue

lemma addTerms_map {x z : β} {ts : List (Operator × Term β)} (hx : P x)
    (hts : ∀ p ∈ ts, ∀ y ∈ p.2.operands, P y) (h : addTerms apply x ts = .ok z) :
    P z ∧ addTerms compute (f x) (ts.map (Prod.map id (Term.map f))) = some (f z) := by
  induction ts generalizing x with
  | nil =>
    obtain rfl : x = z := by simpa using h
    exact ⟨hx, rfl⟩
  | cons p ts ih =>
    obtain ⟨op, t⟩ := p
    obtain ⟨ht, hts⟩ := List.forall_mem_cons.mp hts
    rw [addTerms_cons, bind_eq_ok] at h
    obtain ⟨y, hy, h⟩ := h
    obtain ⟨w, hw, h⟩ := bind_eq_ok.mp h
    obtain ⟨hPy, hvalue⟩ := Term.value_map hstep ht hy
    obtain ⟨hPw, hcompute⟩ := hstep hx hPy hw
    obtain ⟨hPz, hsum⟩ := ih hPw hts h
    refine ⟨hPz, ?_⟩
    simp [hvalue, hcompute, hsum]

/-- If a map takes one operation to another, it takes the value of a sum to that of its image. -/
lemma Terms.value_map {s : Terms β} {z : β} (hs : ∀ x ∈ s.operands, P x)
    (h : s.value apply = .ok z) : P z ∧ (s.map f).value compute = some (f z) := by
  obtain ⟨y, hy, h⟩ := bind_eq_ok.mp h
  obtain ⟨hfirst, hrest⟩ := List.forall_mem_append.mp hs
  obtain ⟨hPy, hvalue⟩ := Term.value_map hstep hfirst hy
  have hterms : ∀ p ∈ s.rest, ∀ y ∈ p.2.operands, P y := fun p hp y hy =>
    hrest y (List.mem_flatMap.mpr ⟨p, hp, hy⟩)
  obtain ⟨hPz, hsum⟩ := addTerms_map hstep hPy hterms h
  refine ⟨hPz, ?_⟩
  simp [value, map, hvalue, hsum]

end Map

end Expression

end Metrology
