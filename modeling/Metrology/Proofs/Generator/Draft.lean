import Metrology.Decimal.Literal
import Metrology.Generator
import Metrology.Proofs.Expression.Grammar

/-!
# What is drawn for a line

A line is written from a draft: two operators, three units, three magnitudes, and the dimension of
the first two units if it was drawn. Whatever the random numbers are, the first operator decides
the dimensions of the first two units; the third is a length in any case.
-/

namespace Metrology

namespace Generator

/-- What is drawn for a line. -/
structure Draft where
  op₁ : Operator
  op₂ : Operator
  /-- The dimension of the first two units, if it is drawn. -/
  dimension? : Option Dimension
  u₁ : String
  u₂ : String
  u₃ : String
  x₁ : Float
  x₂ : Float
  x₃ : Float

/-- The line that is written. -/
def Draft.line (d : Draft) : String :=
  String.intercalate " " [operandText d.x₁ d.u₁, d.op₁.symbol, operandText d.x₂ d.u₂, d.op₂.symbol,
    operandText d.x₃ d.u₃]

/-- The units of the first two operands, and their dimension if it is drawn. -/
def firstDraft : Operator → Random (Option Dimension × String × String)
  | .add | .sub => do
    let e ← pick dimensions
    let u ← pick (unitNames e)
    return (some e, u, ← pick (unitNames e))
  | .mul | .div => do
    let u ← pick (unitNames .length)
    return (none, u, ← pick (unitNames .mass))

def draft : Random Draft := do
  let op₁ ← pick operators
  let op₂ ← pick operators
  let (e, u₁, u₂) ← firstDraft op₁
  let u₃ ← pick (unitNames .length)
  let x₁ ← magnitude
  let x₂ ← magnitude
  let x₃ ← magnitude
  return ⟨op₁, op₂, e, u₁, u₂, u₃, x₁, x₂, x₃⟩

def drafts : Nat → Random (List Draft)
  | 0 => pure []
  | n + 1 => do
    let d ← draft
    return d :: (← drafts n)

/-! ### Lines are written from drafts -/

lemma firstUnits_eq (op : Operator) : firstUnits op = Prod.snd <$> firstDraft op := by
  cases op <;> rfl

lemma line_eq : line = Draft.line <$> draft := by
  simp only [line, draft, firstUnits_eq, map_bind, bind_map_left, map_pure]
  rfl

lemma replicate_eq (n : Nat) : replicate n = List.map Draft.line <$> drafts n := by
  induction n with
  | zero => rfl
  | succ n ih => simp only [replicate, drafts, ih, line_eq, map_bind, bind_map_left, map_pure,
      List.map_cons]

lemma lines_eq_ok {count : Int} (hcount : 0 ≤ count) (source : RandomSource) :
    lines count source = .ok (((drafts count.toNat).run source).1.map Draft.line) := by
  rw [lines, if_neg (Int.not_lt.mpr hcount), replicate_eq]
  rfl

/-! ### What every source gives -/

/-- The magnitude is read back from six digits as a number from one to thousand. -/
def IsReadable (x : Float) : Prop :=
  ∃ y, Decimal.readFloat? (Decimal.briefText x) = some y ∧ 1.0 ≤ y ∧ y ≤ 1000.0

/-- Every magnitude that the source gives, now or later, is readable. -/
def HasReadable (source : RandomSource) : Prop :=
  ∀ k, IsReadable (magnitude { source with usedFractions := k }).1

/-- What is chosen has the property, as long as the magnitudes are readable, and they stay so. -/
def Gives {β : Type} (P : β → Prop) (r : Random β) : Prop :=
  ∀ s, HasReadable s → P (r.run s).1 ∧ HasReadable (r.run s).2

section Gives

variable {β γ : Type} {P : β → Prop} {Q : γ → Prop}

lemma gives_pure {b : β} (h : P b) : Gives P (pure b) := fun _ hs => ⟨h, hs⟩

lemma Gives.bind {r : Random β} {f : β → Random γ} (h : Gives P r) (hf : ∀ b, P b → Gives Q (f b)) :
    Gives Q (r >>= f) := by
  intro s hs
  obtain ⟨hb, hs'⟩ := h s hs
  exact hf _ hb _ hs'

lemma gives_pick [Inhabited β] {bs : List β} (hne : bs ≠ []) : Gives (· ∈ bs) (pick bs) := by
  intro s hs
  have hpos : (0 : Int) < bs.length := by exact_mod_cast List.length_pos_iff.mpr hne
  have hlt : (s.integers s.usedIntegers % bs.length).toNat < bs.length := by
    have hbelow := Int.emod_lt_of_pos (s.integers s.usedIntegers) hpos
    omega
  refine ⟨?_, hs⟩
  change bs[(s.integers s.usedIntegers % bs.length).toNat]?.getD default ∈ bs
  rw [List.getElem?_eq_getElem hlt]
  exact List.getElem_mem hlt

lemma gives_magnitude : Gives IsReadable magnitude := fun s hs => ⟨hs s.usedFractions, hs⟩

end Gives

/-! ### Drafts -/

/-- The dimensions of the first two units: the one that is drawn, or a length and a mass. -/
inductive HasDimensions : Operator → Option Dimension → Dimension → Dimension → Prop where
  | drawn {op : Operator} (hop : op.isAdditive = true) (e : Dimension) :
    HasDimensions op (some e) e e
  | mixed {op : Operator} (hop : op.isAdditive = false) : HasDimensions op none .length .mass

lemma HasDimensions.eq_or {op : Operator} {e? : Option Dimension} {e₁ e₂ : Dimension}
    (h : HasDimensions op e? e₁ e₂) :
    op.isAdditive = true ∧ e? = some e₁ ∧ e₁ = e₂ ∨
      op.isAdditive = false ∧ e? = none ∧ e₁ = .length ∧ e₂ = .mass := by
  cases h with
  | drawn hop e => exact .inl ⟨hop, rfl, rfl⟩
  | mixed hop => exact .inr ⟨hop, rfl, rfl, rfl⟩

/-- What is known of every draft. -/
structure Draft.IsDrawn (d : Draft) : Prop where
  first : ∃ e₁ e₂, HasDimensions d.op₁ d.dimension? e₁ e₂ ∧ d.u₁ ∈ unitNames e₁ ∧
    d.u₂ ∈ unitNames e₂
  third : d.u₃ ∈ unitNames .length
  x₁ : IsReadable d.x₁
  x₂ : IsReadable d.x₂
  x₃ : IsReadable d.x₃

lemma unitNames_ne_nil {e : Dimension} (he : e ∈ dimensions) : unitNames e ≠ [] := by
  cases e with
  | compound => simp [dimensions] at he
  | _ => simp [unitNames]

lemma gives_firstDraft (op : Operator) :
    Gives (fun p => ∃ e₁ e₂, HasDimensions op p.1 e₁ e₂ ∧ p.2.1 ∈ unitNames e₁ ∧
      p.2.2 ∈ unitNames e₂) (firstDraft op) := by
  cases hop : op.isAdditive with
  | true =>
    have hfirst : firstDraft op = pick dimensions >>= fun e => pick (unitNames e) >>= fun u =>
        pick (unitNames e) >>= fun v => pure (some e, u, v) := by
      cases op <;> first | rfl | cases hop
    rw [hfirst]
    refine (gives_pick (by simp [dimensions])).bind fun e he => ?_
    refine (gives_pick (unitNames_ne_nil he)).bind fun u hu => ?_
    refine (gives_pick (unitNames_ne_nil he)).bind fun v hv => ?_
    exact gives_pure ⟨e, e, .drawn hop e, hu, hv⟩
  | false =>
    have hfirst : firstDraft op = pick (unitNames .length) >>= fun u =>
        pick (unitNames .mass) >>= fun v => pure (none, u, v) := by
      cases op <;> first | rfl | cases hop
    rw [hfirst]
    refine (gives_pick (by simp [unitNames])).bind fun u hu => ?_
    refine (gives_pick (by simp [unitNames])).bind fun v hv => ?_
    exact gives_pure ⟨.length, .mass, .mixed hop, hu, hv⟩

lemma gives_draft : Gives Draft.IsDrawn draft := by
  refine (gives_pick (by simp [operators])).bind fun op₁ _ => ?_
  refine (gives_pick (by simp [operators])).bind fun op₂ _ => ?_
  refine (gives_firstDraft op₁).bind fun p hp => ?_
  refine (gives_pick (by simp [unitNames])).bind fun u₃ hu₃ => ?_
  refine gives_magnitude.bind fun x₁ hx₁ => ?_
  refine gives_magnitude.bind fun x₂ hx₂ => ?_
  refine gives_magnitude.bind fun x₃ hx₃ => ?_
  exact gives_pure ⟨hp, hu₃, hx₁, hx₂, hx₃⟩

lemma gives_drafts (n : Nat) :
    Gives (fun ds => ds.length = n ∧ ∀ d ∈ ds, d.IsDrawn) (drafts n) := by
  induction n with
  | zero => exact gives_pure ⟨rfl, by simp⟩
  | succ n ih =>
    refine gives_draft.bind fun d hd => ih.bind fun ds hds => ?_
    exact gives_pure ⟨by simp [hds.1], List.forall_mem_cons.mpr ⟨hd, hds.2⟩⟩

end Generator

end Metrology
