import Metrology.Proofs.Measurement.RoundTrip
import Metrology.Proofs.Unit.Spelling
import Metrology.Sheet.Line

/-!
# The grammar of lines

A line is read if its words are operands with an operator between each two of them, where an
operand is a number and the spelling of a unit. Any other line is refused for the first operand or
operator that is not one. What is written by this grammar is read back.
-/

namespace Metrology

lemma Text.isWord_of_mem_words {s w : String} (h : w ∈ words s) : IsWord w.toList := by
  obtain ⟨p, hp, rfl⟩ := List.mem_map.mp h
  rw [String.toList_ofList]
  exact ne_nil_and_not_cut_of_mem_fullPieces hp

namespace Line

/-! ### Operands -/

/-- The two words are a number and the spelling of a unit. -/
structure IsOperand (word name : String) (m : Measurement Float) : Prop where
  magnitude : Decimal.readFloat? word = some m.magnitude
  unit : m.unit.HasSpelling name.toList

/-- The two words, of which the first has the given number in the line, are no operand for this
reason. The unit is looked at first. -/
inductive BreaksOperand (line : String) (token : Nat) (word name : String) :
    Fault Float → Prop where
  | unit (hname : ∀ u : Unit Float, ¬ u.HasSpelling name.toList) :
      BreaksOperand line token word name (.unreadable line (.unknownUnitAt (token + 1) name))
  | number {u : Unit Float} (hu : u.HasSpelling name.toList)
      (hword : Decimal.readFloat? word = none) :
      BreaksOperand line token word name
        (.unreadable (word ++ " " ++ name) (.notANumber word))
  | infinite {u : Unit Float} {x : Float} (hu : u.HasSpelling name.toList)
      (hword : Decimal.readFloat? word = some x) (hx : x.isFinite = false) :
      BreaksOperand line token word name
        (.unreadable (word ++ " " ++ name) (.notFinite word))

section Operand

variable {line word name : String} {token : Nat} (hword : Text.IsWord word.toList)
  (hname : Text.IsWord name.toList)

include hword hname

/-- Once the unit is known, the magnitude decides. -/
lemma readOperand_of_hasSpelling {u : Unit Float} (hu : u.HasSpelling name.toList) :
    readOperand line token word name =
      match Decimal.readFloat? word with
      | none => .error (.unreadable (word ++ " " ++ name) (.notANumber word))
      | some x =>
        if x.isFinite then Measurement.ofMagnitude x u
        else .error (.unreadable (word ++ " " ++ name) (.notFinite word)) := by
  have hvalid : isValidUnitName name = true := (Unit.isValidUnitName_iff hname).mpr ⟨u, hu⟩
  have hunit : Measurement.readUnit (word ++ " " ++ name) name.toList = .ok u := by
    rw [Measurement.readUnit, String.ofList_toList, (Unit.read_eq_ok_iff hname).mpr hu]
  rw [readOperand, if_pos hvalid, Measurement.read_append_eq hword hname.1
    (fun c hc => hname.2 c (List.mem_of_mem_head? hc)), hunit, Measurement.readMagnitude,
    Decimal.readFloat?, Decimal.dropPadding_eq_self hword.2]
  cases Decimal.literal? word.toList with
  | none => simp
  | some l =>
    simp only [Option.map_some]
    split <;> simp

lemma readOperand_eq_ok_of_isOperand {m : Measurement Float} (h : IsOperand word name m) :
    readOperand line token word name = .ok m := by
  have hfinite : m.magnitude.isFinite = true := m.finite
  rw [readOperand_of_hasSpelling hword hname h.unit, h.magnitude]
  dsimp only
  rw [if_pos hfinite]
  exact Measurement.ofMagnitude_eq_ok.mpr ⟨rfl, rfl⟩

lemma readOperand_eq_error_of_breaksOperand {f : Fault Float}
    (h : BreaksOperand line token word name f) :
    readOperand line token word name = .error f := by
  cases h with
  | unit h =>
    have hvalid : ¬ isValidUnitName name = true := by
      rw [Unit.isValidUnitName_iff hname]
      rintro ⟨u, hu⟩
      exact h u hu
    rw [readOperand, if_neg hvalid]
    rfl
  | number hu hnone => rw [readOperand_of_hasSpelling hword hname hu, hnone]
  | infinite hu hsome hx =>
    rw [readOperand_of_hasSpelling hword hname hu, hsome]
    dsimp only
    rw [if_neg (by simp [hx])]

end Operand

/-- Two words are an operand or there is a reason why not. -/
lemma exists_isOperand_or_breaksOperand (line : String) (token : Nat) (word name : String) :
    (∃ m, IsOperand word name m) ∨ ∃ f, BreaksOperand line token word name f := by
  by_cases hname : ∃ u : Unit Float, u.HasSpelling name.toList
  · obtain ⟨u, hu⟩ := hname
    cases hword : Decimal.readFloat? word with
    | none => exact .inr ⟨_, .number hu hword⟩
    | some x =>
      cases hx : x.isFinite with
      | true => exact .inl ⟨⟨x, u, hx⟩, hword, hu⟩
      | false => exact .inr ⟨_, .infinite hu hword hx⟩
  · exact .inr ⟨_, .unit (not_exists.mp hname)⟩

/-! ### Words -/

/-- The words are operands with an operator between each two of them. -/
inductive IsExpression : List String → LineParts → Prop where
  | operand {x u : String} {m : Measurement Float} (h : IsOperand x u m) :
      IsExpression [x, u] ([m], [])
  | joined {x u : String} {m : Measurement Float} {op : Operator} {ws : List String}
      {parts : LineParts} (h : IsOperand x u m) (hrest : IsExpression ws parts) :
      IsExpression (x :: u :: op.symbol :: ws) (m :: parts.1, op :: parts.2)

/-- The words, of which the first has the given number in the line, are no expression for this
reason: it is the leftmost of all. -/
inductive BreaksExpression (line : String) : Nat → List String → Fault Float → Prop where
  | pair {token : Nat} {ws : List String} (h : ws.length < 2) :
      BreaksExpression line token ws (.unreadable line (.pairExpectedAt token))
  | operand {token : Nat} {x u : String} {ws : List String} {f : Fault Float}
      (h : BreaksOperand line token x u f) : BreaksExpression line token (x :: u :: ws) f
  | operator {token : Nat} {x u s : String} {ws : List String} {m : Measurement Float}
      (h : IsOperand x u m) (hs : ∀ op : Operator, s ≠ op.symbol) :
      BreaksExpression line token (x :: u :: s :: ws)
        (.unreadable line (.operatorExpected (token + 2) s))
  | joined {token : Nat} {x u : String} {ws : List String} {m : Measurement Float} {op : Operator}
      {f : Fault Float} (h : IsOperand x u m) (hrest : BreaksExpression line (token + 3) ws f) :
      BreaksExpression line token (x :: u :: op.symbol :: ws) f

/-- There is one operator fewer than operands. -/
lemma IsExpression.length_eq {ws : List String} {parts : LineParts} (h : IsExpression ws parts) :
    parts.1.length = parts.2.length + 1 := by
  induction h with
  | operand => rfl
  | joined _ _ ih => simp [ih]

lemma readWords_eq_ok {line : String} {ws : List String} {parts : LineParts}
    (h : IsExpression ws parts) (hws : ∀ w ∈ ws, Text.IsWord w.toList) (token : Nat) :
    readWords line token ws = .ok parts := by
  induction h generalizing token with
  | @operand x u m h =>
    obtain ⟨hx, hws⟩ := List.forall_mem_cons.mp hws
    obtain ⟨hu, -⟩ := List.forall_mem_cons.mp hws
    rw [readWords, readOperand_eq_ok_of_isOperand hx hu h]
    rfl
  | @joined x u m op ws parts h _ ih =>
    obtain ⟨hx, hws⟩ := List.forall_mem_cons.mp hws
    obtain ⟨hu, hws⟩ := List.forall_mem_cons.mp hws
    obtain ⟨-, hws⟩ := List.forall_mem_cons.mp hws
    rw [readWords, readOperand_eq_ok_of_isOperand hx hu h, ok_bind, Operator.ofSymbol?_symbol]
    dsimp only
    rw [ih hws, ok_bind]
    rfl

lemma readWords_eq_error {line : String} {token : Nat} {ws : List String} {f : Fault Float}
    (h : BreaksExpression line token ws f) (hws : ∀ w ∈ ws, Text.IsWord w.toList) :
    readWords line token ws = .error f := by
  induction h with
  | @pair token ws h =>
    match ws with
    | [] => rfl
    | [_] => rfl
  | @operand token x u ws f h =>
    obtain ⟨hx, hws⟩ := List.forall_mem_cons.mp hws
    obtain ⟨hu, -⟩ := List.forall_mem_cons.mp hws
    have hread := readOperand_eq_error_of_breaksOperand hx hu h
    cases ws with
    | nil => rw [readWords, hread, error_bind]
    | cons s ws => rw [readWords, hread, error_bind]
  | @operator token x u s ws m h hs =>
    obtain ⟨hx, hws⟩ := List.forall_mem_cons.mp hws
    obtain ⟨hu, -⟩ := List.forall_mem_cons.mp hws
    have hnone : Operator.ofSymbol? s = none := by
      rw [Option.eq_none_iff_forall_ne_some]
      intro op hop
      exact hs op (Operator.ofSymbol?_eq_some_iff.mp hop)
    rw [readWords, readOperand_eq_ok_of_isOperand hx hu h, ok_bind, hnone]
    rfl
  | @joined token x u ws m op f h _ ih =>
    obtain ⟨hx, hws⟩ := List.forall_mem_cons.mp hws
    obtain ⟨hu, hws⟩ := List.forall_mem_cons.mp hws
    obtain ⟨-, hws⟩ := List.forall_mem_cons.mp hws
    rw [readWords, readOperand_eq_ok_of_isOperand hx hu h, ok_bind, Operator.ofSymbol?_symbol]
    dsimp only
    rw [ih hws, error_bind]

/-- Words are an expression or there is a reason why not. -/
lemma exists_isExpression_or_breaksExpression (line : String) (token : Nat) (ws : List String) :
    (∃ parts, IsExpression ws parts) ∨ ∃ f, BreaksExpression line token ws f := by
  match ws with
  | [] | [_] => exact .inr ⟨_, .pair (by simp)⟩
  | [x, u] =>
    rcases exists_isOperand_or_breaksOperand line token x u with ⟨m, hm⟩ | ⟨f, hf⟩
    · exact .inl ⟨_, .operand hm⟩
    · exact .inr ⟨f, .operand hf⟩
  | x :: u :: s :: ws =>
    rcases exists_isOperand_or_breaksOperand line token x u with ⟨m, hm⟩ | ⟨f, hf⟩
    · by_cases hs : ∃ op : Operator, s = op.symbol
      · obtain ⟨op, rfl⟩ := hs
        rcases exists_isExpression_or_breaksExpression line (token + 3) ws with
          ⟨parts, hparts⟩ | ⟨f, hf⟩
        · exact .inl ⟨_, .joined hm hparts⟩
        · exact .inr ⟨f, .joined hm hf⟩
      · exact .inr ⟨_, .operator hm (not_exists.mp hs)⟩
    · exact .inr ⟨f, .operand hf⟩

/-! ### Lines -/

/-- The line is no expression for this reason. -/
inductive BreaksLine (line : String) : Fault Float → Prop where
  | empty (h : Text.words line = []) : BreaksLine line (.unreadable line .noExpression)
  | words {f : Fault Float} (h : Text.words line ≠ [])
      (hwords : BreaksExpression line 1 (Text.words line) f) : BreaksLine line f

lemma BreaksOperand.exists_eq_unreadable {line word name : String} {token : Nat} {f : Fault Float}
    (h : BreaksOperand line token word name f) : ∃ text why, f = .unreadable text why := by
  cases h with
  | unit | number | infinite => exact ⟨_, _, rfl⟩

lemma BreaksExpression.exists_eq_unreadable {line : String} {token : Nat} {ws : List String}
    {f : Fault Float} (h : BreaksExpression line token ws f) :
    ∃ text why, f = .unreadable text why := by
  induction h with
  | pair | operator => exact ⟨_, _, rfl⟩
  | operand h => exact h.exists_eq_unreadable
  | joined _ _ ih => exact ih

lemma BreaksLine.exists_eq_unreadable {line : String} {f : Fault Float} (h : BreaksLine line f) :
    ∃ text why, f = .unreadable text why := by
  cases h with
  | empty => exact ⟨_, _, rfl⟩
  | words _ h => exact h.exists_eq_unreadable

lemma read_eq_ok_of_isExpression {line : String} {parts : LineParts}
    (h : IsExpression (Text.words line) parts) : read line = .ok parts := by
  have hread : readWords line 1 (Text.words line) = .ok parts :=
    readWords_eq_ok h (fun _ => Text.isWord_of_mem_words) 1
  unfold read
  split
  · next hnil =>
    rw [hnil] at h
    cases h
  · exact hread

lemma read_eq_error_of_breaksLine {line : String} {f : Fault Float} (h : BreaksLine line f) :
    read line = .error f := by
  cases h with
  | empty h =>
    rw [read, h]
    rfl
  | words hne h =>
    have hread := readWords_eq_error h fun _ => Text.isWord_of_mem_words
    unfold read
    split
    · next hnil => exact absurd hnil hne
    · exact hread

lemma exists_isExpression_or_breaksLine (line : String) :
    (∃ parts, IsExpression (Text.words line) parts) ∨ ∃ f, BreaksLine line f := by
  by_cases hne : Text.words line = []
  · exact .inr ⟨_, .empty hne⟩
  · rcases exists_isExpression_or_breaksExpression line 1 (Text.words line) with h | ⟨f, hf⟩
    · exact .inl h
    · exact .inr ⟨f, .words hne hf⟩

/-- What is read is an expression, and what is refused is none for the reason given. -/
lemma read_eq_ok_iff_and_read_eq_error_iff (line : String) :
    (∀ parts, read line = .ok parts ↔ IsExpression (Text.words line) parts) ∧
      ∀ f, read line = .error f ↔ BreaksLine line f :=
  eq_ok_iff_and_eq_error_iff (fun _ => read_eq_ok_of_isExpression)
    (fun _ => read_eq_error_of_breaksLine) (exists_isExpression_or_breaksLine line)

/-! ### Writing -/

/-- The words of operands with the operators between them. -/
def writeWords : List (Measurement Float) → List Operator → List String
  | [], _ => []
  | m :: _, [] => [Decimal.exactText m.magnitude, m.unit.gluedName]
  | m :: ms, op :: ops =>
    Decimal.exactText m.magnitude :: m.unit.gluedName :: op.symbol :: writeWords ms ops

/-- Write operands with the operators between them on one line. -/
def write (parts : LineParts) : String := " ".intercalate (writeWords parts.1 parts.2)

/-- The magnitude is read back from its digits, and the unit has a name without nesting. -/
structure IsWritable (m : Measurement Float) : Prop where
  magnitude : Decimal.readFloat? (Decimal.exactText m.magnitude) = some m.magnitude
  unit : m.unit.IsGluable

lemma IsWritable.isOperand {m : Measurement Float} (h : IsWritable m) :
    IsOperand (Decimal.exactText m.magnitude) m.unit.gluedName m :=
  ⟨h.magnitude, Unit.hasSpelling_gluedName h.unit⟩

lemma isExpression_writeWords {ms : List (Measurement Float)} {ops : List Operator}
    (hms : ∀ m ∈ ms, IsWritable m) (hlength : ms.length = ops.length + 1) :
    IsExpression (writeWords ms ops) (ms, ops) := by
  match ms, ops with
  | [m], [] => exact .operand (hms m (by simp)).isOperand
  | m :: n :: ms, op :: ops =>
    obtain ⟨hm, hms⟩ := List.forall_mem_cons.mp hms
    exact .joined hm.isOperand (isExpression_writeWords hms (by simpa using hlength))

lemma isWord_of_mem_writeWords {ms : List (Measurement Float)} {ops : List Operator}
    (hms : ∀ m ∈ ms, IsWritable m) : ∀ w ∈ writeWords ms ops, Text.IsWord w.toList := by
  have hnumber : ∀ {m}, IsWritable m → Text.IsWord (Decimal.exactText m.magnitude).toList :=
    fun hm => Decimal.isWord_of_readFloat? (fun _ hc => Decimal.isBlank_of_mem_exactText hc)
      hm.magnitude
  have hunit : ∀ {m}, IsWritable m → Text.IsWord m.unit.gluedName.toList :=
    fun hm => hm.isOperand.unit.isWord
  match ms, ops with
  | [], _ => simp [writeWords]
  | m :: _, [] =>
    have hm := hms m (by simp)
    simp [writeWords, hnumber hm, hunit hm]
  | m :: ms, op :: ops =>
    obtain ⟨hm, hms⟩ := List.forall_mem_cons.mp hms
    have hsymbol : Text.IsWord op.symbol.toList := by cases op <;> decide
    simp only [writeWords, List.forall_mem_cons]
    exact ⟨hnumber hm, hunit hm, hsymbol, isWord_of_mem_writeWords hms⟩

lemma words_write {parts : LineParts} (hms : ∀ m ∈ parts.1, IsWritable m) :
    Text.words (write parts) = writeWords parts.1 parts.2 :=
  Text.words_intercalate (isWord_of_mem_writeWords hms)

/-- The lines that are read are the expressions, and their operands and operators are what is read,
one operator fewer than operands. Any other line is refused as unreadable, for the leftmost operand
or operator that is none. Operands with operators between them are read back from the line on which
they are written. -/
theorem read_iff_isExpression (line : String) (parts : LineParts) :
    (read line = .ok parts ↔ IsExpression (Text.words line) parts) ∧
      (read line = .ok parts → parts.1.length = parts.2.length + 1) ∧
      (∀ f, read line = .error f ↔ BreaksLine line f) ∧
      (∀ f, read line = .error f → ∃ text why, f = .unreadable text why) ∧
      (parts.1.length = parts.2.length + 1 → (∀ m ∈ parts.1, IsWritable m) →
        read (write parts) = .ok parts) := by
  obtain ⟨hok, herror⟩ := read_eq_ok_iff_and_read_eq_error_iff line
  refine ⟨hok parts, ?_, herror, ?_, ?_⟩
  · intro h
    exact ((hok parts).mp h).length_eq
  · intro f h
    exact ((herror f).mp h).exists_eq_unreadable
  · intro hlength hms
    apply read_eq_ok_of_isExpression
    rw [words_write hms]
    exact isExpression_writeWords hms hlength

/-- A speed and a product of units are read back. Behind them only an operator can stand. -/
theorem read_write_of_speed :
    ∃ m n : Measurement Float, write ([m, n], [.mul]) = "72.0 km/hr * -0.5 kg*m" ∧
      (∀ k ∈ [m, n], IsWritable k) ∧
      read "72.0 km/hr * -0.5 kg*m" = .ok ([m, n], [.mul]) ∧
      read "72.0 km/hr * -0.5 kg*m x" = .error
        (.unreadable "72.0 km/hr * -0.5 kg*m x" (.operatorExpected 6 "x")) := by
  let u : Unit Float := .per (.simple .kilometer) (.simple .hour)
  let v : Unit Float := .compound (.snoc (.single (.simple .kilogram)) .times (.simple .meter))
  have hu : u.IsGluable :=
    ⟨by simp [u, Unit.per, SimpleUnit.builtIn],
      by simp [u, Unit.IsFlat, Unit.per, Unit.isCompound], fun _ => rfl⟩
  have hv : v.IsGluable :=
    ⟨by simp [v, SimpleUnit.builtIn], by simp [v, Unit.IsFlat, Unit.isCompound], fun _ => rfl⟩
  let m : Measurement Float := ⟨72.0, u, by decide +kernel⟩
  let n : Measurement Float := ⟨-0.5, v, by decide +kernel⟩
  have hm : IsWritable m := ⟨by decide +kernel, hu⟩
  have hn : IsWritable n := ⟨by decide +kernel, hv⟩
  have hmn : ∀ k ∈ [m, n], IsWritable k := by
    simp [hm, hn]
  have htext : write ([m, n], [.mul]) = "72.0 km/hr * -0.5 kg*m" := by decide +kernel
  have hwords : Text.words "72.0 km/hr * -0.5 kg*m x" =
      [Decimal.exactText m.magnitude, m.unit.gluedName, Operator.mul.symbol,
        Decimal.exactText n.magnitude, n.unit.gluedName, "x"] := by decide +kernel
  have hbreaks : BreaksLine "72.0 km/hr * -0.5 kg*m x"
      (.unreadable "72.0 km/hr * -0.5 kg*m x" (.operatorExpected 6 "x")) := by
    refine .words (by simp [hwords]) ?_
    rw [hwords]
    exact .joined hm.isOperand (.operator hn.isOperand fun op => by cases op <;> decide)
  refine ⟨m, n, htext, hmn, ?_, ?_⟩
  · rw [← htext]
    exact (read_iff_isExpression "" ([m, n], [.mul])).2.2.2.2 rfl hmn
  · exact ((read_iff_isExpression _ ([m, n], [.mul])).2.2.1 _).mpr hbreaks

end Line

end Metrology
