import Metrology.Proofs.Generator.Evaluation
import Metrology.Proofs.Sheet.Records

/-!
# Lines that are drawn

The line of a draft holds its eight words with a space between each two, and these are three
operands with two operators between them. So it is read, and it has a value or two units that do not
fit together, depending on the operators and the dimension that is drawn.
-/

namespace Metrology

/-! ### Texts within one line -/

namespace Text

lemma isUnbroken_of_isBlank {l : List Char} (h : ∀ c ∈ l, isBlank c = false) : IsUnbroken l :=
  ⟨fun hc => absurd (h _ hc) (by decide), fun hc => absurd (h _ hc) (by decide)⟩

lemma IsUnbroken.append {l l' : List Char} (h : IsUnbroken l) (h' : IsUnbroken l') :
    IsUnbroken (l ++ l') := by
  simp only [IsUnbroken, List.mem_append, not_or]
  exact ⟨⟨h.1, h'.1⟩, h.2, h'.2⟩

lemma notMem_intercalate {c : Char} {ws : List String} (hc : c ≠ ' ')
    (h : ∀ w ∈ ws, c ∉ w.toList) : c ∉ (" ".intercalate ws).toList := by
  rw [String.toList_intercalate]
  intro hmem
  obtain hblank | ⟨_, hw, hcw⟩ := mem_intercalate hmem
  · exact hc hblank
  · obtain ⟨w, hws, rfl⟩ := List.mem_map.mp hw
    exact h w hws hcw

lemma isUnbroken_intercalate {ws : List String} (h : ∀ w ∈ ws, IsUnbroken w.toList) :
    IsUnbroken (" ".intercalate ws).toList :=
  ⟨notMem_intercalate (by decide) fun w hw => (h w hw).1,
    notMem_intercalate (by decide) fun w hw => (h w hw).2⟩

end Text

namespace Generator

open Binary64

variable {d : Draft}

/-! ### Operands -/

lemma map_find?_unitNames (e : Dimension) :
    (unitNames e).map (UnitTable.builtIn (α := Float)).find? = e.units.map some := by
  cases e <;> rfl

/-- A unit that is drawn from a dimension is a built-in unit of this dimension. -/
lemma exists_unit {e : Dimension} {name : String} (h : name ∈ unitNames e) :
    ∃ u : Unit Float, u.HasSpelling name.toList ∧ u.IsSimpleOf e := by
  have hfind : (UnitTable.builtIn (α := Float)).find? name ∈
      (unitNames e).map (UnitTable.builtIn (α := Float)).find? := List.mem_map_of_mem h
  rw [map_find?_unitNames] at hfind
  obtain ⟨u, hu, hname⟩ := List.mem_map.mp hfind
  obtain ⟨hbuiltIn, hdimension⟩ := List.mem_filter.mp hu
  refine ⟨.simple u, .simple ?_, u, hbuiltIn, rfl, by simpa using hdimension⟩
  rw [SimpleUnit.HasName, String.ofList_toList, hname]

lemma exists_operand {e : Dimension} {x : Float} {name : String} (hx : IsReadable x)
    (hname : name ∈ unitNames e) :
    ∃ m, Line.IsOperand (Decimal.briefText x) name m ∧ m.IsOrdinary ∧ m.unit.dimension = e := by
  obtain ⟨y, hy, hone, hthousand⟩ := hx
  obtain ⟨u, hu, hsimple⟩ := exists_unit hname
  have hwithin := within_of_le_of_le hone hthousand
  have hdimension := hsimple.dimension_eq
  refine ⟨⟨y, u, hwithin.isFinite⟩, ⟨hy, hu⟩, ⟨?_, hwithin⟩, hdimension⟩
  rwa [hdimension]

/-! ### Words -/

def Draft.words (d : Draft) : List String :=
  [Decimal.briefText d.x₁, d.u₁, d.op₁.symbol, Decimal.briefText d.x₂, d.u₂, d.op₂.symbol,
    Decimal.briefText d.x₃, d.u₃]

lemma Draft.line_eq_intercalate (d : Draft) : d.line = " ".intercalate d.words := by
  simp [line, words, operandText, String.append_assoc]

/-- The operands of a draft's line. -/
structure Draft.Reads (d : Draft) (m₁ m₂ m₃ : Measurement Float) : Prop where
  isExpression : Line.IsExpression d.words ([m₁, m₂, m₃], [d.op₁, d.op₂])
  isWord : ∀ w ∈ d.words, Text.IsWord w.toList
  first : m₁.IsOrdinary
  second : m₂.IsOrdinary
  third : m₃.IsOrdinary
  dimensions : HasDimensions d.op₁ d.dimension? m₁.unit.dimension m₂.unit.dimension
  length : m₃.unit.dimension = .length

lemma isWord_symbol (op : Operator) : Text.IsWord op.symbol.toList := by
  cases op <;> decide

lemma Draft.IsDrawn.exists_reads (hd : d.IsDrawn) : ∃ m₁ m₂ m₃, d.Reads m₁ m₂ m₃ := by
  obtain ⟨e₁, e₂, hdimensions, hu₁, hu₂⟩ := hd.first
  obtain ⟨m₁, hm₁, h₁, rfl⟩ := exists_operand hd.x₁ hu₁
  obtain ⟨m₂, hm₂, h₂, rfl⟩ := exists_operand hd.x₂ hu₂
  obtain ⟨m₃, hm₃, h₃, hlength⟩ := exists_operand hd.x₃ hd.third
  have hword : ∀ {x name m}, Line.IsOperand (Decimal.briefText x) name m →
      Text.IsWord (Decimal.briefText x).toList ∧ Text.IsWord name.toList := fun hm =>
    ⟨Decimal.isWord_of_readFloat? (fun _ hc => Decimal.isBlank_of_mem_briefText hc) hm.magnitude,
      hm.unit.isWord⟩
  refine ⟨m₁, m₂, m₃, .joined hm₁ (.joined hm₂ (.operand hm₃)), ?_, h₁, h₂, h₃, hdimensions,
    hlength⟩
  simp [words, isWord_symbol, hword hm₁, hword hm₂, hword hm₃]

/-! ### The line -/

section Reads

variable {m₁ m₂ m₃ : Measurement Float} (h : d.Reads m₁ m₂ m₃)
include h

lemma Draft.Reads.strip_eq : Text.strip d.line = d.line := by
  rw [line_eq_intercalate, Text.strip_intercalate h.isWord]

lemma Draft.Reads.read_eq : Line.read d.line = .ok ([m₁, m₂, m₃], [d.op₁, d.op₂]) := by
  refine Line.read_eq_ok_of_isExpression ?_
  rw [line_eq_intercalate, Text.words_intercalate h.isWord]
  exact h.isExpression

/-- No line ends inside the line. -/
lemma Draft.Reads.isUnbroken : Text.IsUnbroken d.line.toList := by
  rw [line_eq_intercalate]
  exact Text.isUnbroken_intercalate fun w hw => Text.isUnbroken_of_isBlank (h.isWord w hw).2

end Reads

/-- Can everything in the draft be combined? Either all units are lengths, or the three operands are
multiplied. -/
def Draft.Combines (d : Draft) : Prop :=
  d.op₁.isAdditive = true ∧ d.dimension? = some .length ∨
    d.op₁.isAdditive = false ∧ d.op₂.isAdditive = false

lemma Draft.Reads.evaluate_operands {m₁ m₂ m₃ : Measurement Float} (h : d.Reads m₁ m₂ m₃) :
    (d.Combines → ∃ r, Expression.evaluate [m₁, m₂, m₃] ([d.op₁, d.op₂].map .operator) = .ok r) ∧
      (¬ d.Combines → ∃ f, Expression.evaluate [m₁, m₂, m₃] ([d.op₁, d.op₂].map .operator) =
        .error f ∧ f.IsIncompatible) := by
  have hlength := h.length
  rcases h.dimensions.eq_or with ⟨hop, hdrawn, h₁₂⟩ | ⟨hop, -, hfirst, hsecond⟩
  · constructor
    · intro hcombines
      have hdimension : some m₁.unit.dimension = some .length := by
        rcases hcombines with ⟨-, hdim⟩ | ⟨hop', -⟩
        · exact hdrawn.symm.trans hdim
        · rw [hop] at hop'
          cases hop'
      rw [Option.some_inj, h₁₂, ← hlength] at hdimension
      exact exists_evaluate_of_isAdditive hop h.first h.second h.third h₁₂ hdimension
    · intro hcombines
      refine evaluate_eq_error_of_isAdditive hop h.first h.second h.third h₁₂ ?_
      intro h₂₃
      exact hcombines (.inl ⟨hop, by rw [hdrawn, h₁₂, h₂₃, hlength]⟩)
  · have h₁₂ : m₁.unit.dimension ≠ m₂.unit.dimension := by
      rw [hfirst, hsecond]
      rintro ⟨⟩
    obtain ⟨hvalue, hfault⟩ := evaluate_of_not_isAdditive hop h.first h.second h.third h₁₂
    constructor
    · rintro (⟨hop', -⟩ | ⟨-, hop₂⟩)
      · rw [hop] at hop'
        cases hop'
      · exact hvalue hop₂
    · intro hcombines
      refine hfault (Bool.eq_true_of_not_eq_false fun hop₂ => ?_)
      exact hcombines (.inr ⟨hop, hop₂⟩)

/-- The line of a draft has a value if everything can be combined, and otherwise two units in it do
not fit together. -/
lemma Draft.Reads.evaluate {m₁ m₂ m₃ : Measurement Float} (h : d.Reads m₁ m₂ m₃) :
    (d.Combines → ∃ r, Line.evaluate d.line = .ok (([m₁, m₂, m₃], [d.op₁, d.op₂]), r)) ∧
      (¬ d.Combines → ∃ f, Line.evaluate d.line = .error f ∧ f.IsIncompatible) := by
  obtain ⟨hvalue, hfault⟩ := h.evaluate_operands
  refine ⟨fun hcombines => ?_, fun hcombines => ?_⟩
  · obtain ⟨r, hr⟩ := hvalue hcombines
    exact ⟨r, Line.evaluate_eq_ok_iff.mpr ⟨h.read_eq, hr⟩⟩
  · obtain ⟨f, hf, hincompatible⟩ := hfault hcombines
    refine ⟨f, ?_, hincompatible⟩
    rw [Line.evaluate, h.read_eq, ok_bind, hf, error_bind]

end Generator

end Metrology
