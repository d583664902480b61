import Metrology.Proofs.Unit.BuiltIn

/-!
# Unique reading of names

A plain unit is one that its name shows as it is: a leading component is simple, and any later one
is simple or has several components, so that it stands in parentheses. Two plain units over the
built-in kinds have the same name only if they are the same unit.

Names grow at their right end, like compounds, and are read from there. What stands before a name
ends in an opening parenthesis, if anything does, and what stands before a component ends in a
blank.
-/

namespace Metrology

variable {α : Type}

/-! ### Text before a word -/

/-- A word at the end of a text is as long as its characters allow. -/
lemma append_word_inj {p : Char → Bool} {a b w x : List Char} (hw : ∀ c ∈ w, p c = true)
    (hx : ∀ c ∈ x, p c = true) (ha : ∀ c ∈ a.getLast?, p c = false)
    (hb : ∀ c ∈ b.getLast?, p c = false) (h : a ++ w = b ++ x) : a = b ∧ w = x := by
  -- what one text has more than the other before its word would be part of the other's word
  have key : ∀ {a s : List Char}, (∀ c ∈ s, p c = true) →
      (∀ c ∈ (a ++ s).getLast?, p c = false) → s = [] := by
    intro a s hs hlast
    by_contra hne
    have hmem : s.getLast hne ∈ s := List.getLast_mem hne
    have hfalse := hlast (s.getLast hne) (by
      rw [List.getLast?_append, List.getLast?_eq_some_getLast hne]
      simp)
    rw [hs _ hmem] at hfalse
    cases hfalse
  rcases List.append_eq_append_iff.mp h with ⟨s, rfl, rfl⟩ | ⟨s, rfl, rfl⟩
  · obtain rfl := key (fun c hc => hw c (List.mem_append_left _ hc)) hb
    simp
  · obtain rfl := key (fun c hc => hx c (List.mem_append_left _ hc)) ha
    simp

/-- Does nothing stand there, or an opening parenthesis at the end? -/
def IsOpening (h : List Char) : Prop := ∀ c ∈ h.getLast?, c = '('

lemma isOpening_nil : IsOpening [] := by simp [IsOpening]

lemma IsOpening.not_isAlpha {h : List Char} (hh : IsOpening h) :
    ∀ c ∈ h.getLast?, c.isAlpha = false := by
  intro c hc
  rw [hh c hc]
  rfl

lemma isOpening_append (h : List Char) : IsOpening (h ++ ['(']) := by
  intro c hc
  simpa [eq_comm] using hc

/-! ### Names of components -/

/-- The name as it stands behind a sign. -/
def Unit.component (u : Unit α) : String := if u.isJoined then "(" ++ u.name ++ ")" else u.name

@[simp] lemma Unit.name_simple (u : SimpleUnit α) : (Unit.simple u).name = u.symbol := by
  simp [Unit.name]

@[simp] lemma Unit.name_compound (c : Compound α) : (Unit.compound c).name = c.name := by
  simp [Unit.name]

@[simp] lemma Compound.name_single (u : Unit α) : (Compound.single u).name = u.name := by
  simp [Compound.name]

lemma Compound.name_snoc (c : Compound α) (j : Join) (u : Unit α) :
    (c.snoc j u).name = c.name ++ " " ++ j.sign ++ " " ++ u.component := by
  simp [Compound.name, Unit.component]

lemma Compound.toList_name_snoc (c : Compound α) (j : Join) (u : Unit α) :
    (c.snoc j u).name.toList =
      c.name.toList ++ ' ' :: j.sign.toList ++ [' '] ++ u.component.toList := by
  simp [Compound.name_snoc]

@[simp] lemma Unit.component_simple (u : SimpleUnit α) :
    (Unit.simple u).component = u.symbol := by simp [Unit.component, Unit.isJoined]

lemma Unit.component_of_isJoined {u : Unit α} (h : u.isJoined = true) :
    u.component.toList = '(' :: u.name.toList ++ [')'] := by
  simp [Unit.component, h]

/-- A sign can be told from what stands before it. -/
lemma append_sign_inj {a b : List Char} {j k : Join}
    (h : a ++ ' ' :: j.sign.toList = b ++ ' ' :: k.sign.toList) : a = b ∧ j = k := by
  obtain ⟨rfl, hjk⟩ := List.append_inj' h (by cases j <;> cases k <;> rfl)
  cases j <;> cases k <;> simp_all [Join.sign]

/-! ### Plain units -/

mutual

/-- Does a component with this name behind a sign have this structure? -/
def Unit.IsPlain : Unit α → Prop
  | .simple _ => True
  | .compound c => (Unit.compound c).isJoined = true ∧ c.IsPlain

/-- Does a compound with this name have this structure? -/
def Compound.IsPlain : Compound α → Prop
  | .single u => u.isCompound = false
  | .snoc c _ u => c.IsPlain ∧ u.IsPlain

end

@[simp] lemma Unit.isPlain_simple (u : SimpleUnit α) : (Unit.simple u).IsPlain := by
  simp [Unit.IsPlain]

@[simp] lemma Unit.isPlain_compound (c : Compound α) :
    (Unit.compound c).IsPlain ↔ (Unit.compound c).isJoined = true ∧ c.IsPlain := by
  simp [Unit.IsPlain]

@[simp] lemma Compound.isPlain_single (u : Unit α) :
    (Compound.single u).IsPlain ↔ ∃ v, u = .simple v := by
  cases u <;> simp [Compound.IsPlain, Unit.isCompound]

@[simp] lemma Compound.isPlain_snoc (c : Compound α) (j : Join) (u : Unit α) :
    (c.snoc j u).IsPlain ↔ c.IsPlain ∧ u.IsPlain := by simp [Compound.IsPlain]

/-! ### Unique reading -/

variable [Magnitude α]

/-- A symbol at the end of a text is told from what stands before it. -/
lemma append_symbol_inj {u v : SimpleUnit α} (hu : u ∈ SimpleUnit.builtIn)
    (hv : v ∈ SimpleUnit.builtIn) {a b : List Char} (ha : ∀ c ∈ a.getLast?, c.isAlpha = false)
    (hb : ∀ c ∈ b.getLast?, c.isAlpha = false)
    (h : a ++ u.symbol.toList = b ++ v.symbol.toList) : a = b ∧ u = v := by
  obtain ⟨hab, hs⟩ := append_word_inj (SimpleUnit.symbol_letters hu).2
    (SimpleUnit.symbol_letters hv).2 ha hb h
  exact ⟨hab, SimpleUnit.symbol_injOn_builtIn hu hv (String.toList_inj.mp hs)⟩

/-- A symbol does not end in a parenthesis. -/
lemma append_symbol_ne {u : SimpleUnit α} (hu : u ∈ SimpleUnit.builtIn) (a b : List Char) :
    a ++ u.symbol.toList ≠ b ++ [')'] := by
  intro h
  obtain ⟨hne, hletters⟩ := SimpleUnit.symbol_letters hu
  have hlast := congrArg List.getLast? h
  rw [List.getLast?_append, List.getLast?_eq_some_getLast hne] at hlast
  have := hletters _ (List.getLast_mem hne)
  simp_all

/-- A lone symbol does not read like a symbol behind a sign. -/
lemma append_symbol_ne_snoc {u : SimpleUnit α} (hu : u ∈ SimpleUnit.builtIn) {d : Compound α}
    {k : Join} {v : Unit α} (hv : v.IsBuiltIn) (pv : v.IsPlain) {a b : List Char}
    (ha : IsOpening a) : a ++ u.symbol.toList ≠ b ++ (d.snoc k v).name.toList := by
  intro h
  simp only [Compound.toList_name_snoc, ← List.append_assoc] at h
  match v with
  | .simple v =>
    rw [Unit.isBuiltIn_simple] at hv
    rw [Unit.component_simple] at h
    generalize b ++ d.name.toList ++ ' ' :: k.sign.toList = t at h
    obtain ⟨rfl, -⟩ := append_symbol_inj hu hv ha.not_isAlpha (by simp) h
    exact absurd (ha ' ' (by simp)) (by decide)
  | .compound e =>
    rw [Unit.isPlain_compound] at pv
    rw [Unit.component_of_isJoined pv.1, ← List.append_assoc] at h
    exact append_symbol_ne hu _ _ h

mutual

/-- A component can be told from what stands before it. -/
lemma Unit.append_component_inj {u v : Unit α} (hu : u.IsBuiltIn) (hv : v.IsBuiltIn)
    (pu : u.IsPlain) (pv : v.IsPlain) {a b : List Char}
    (h : a ++ [' '] ++ u.component.toList = b ++ [' '] ++ v.component.toList) :
    a = b ∧ u = v := by
  match u, v with
  | .simple u, .simple v =>
    simp only [Unit.isBuiltIn_simple, Unit.component_simple] at hu hv h
    obtain ⟨hab, rfl⟩ := append_symbol_inj hu hv (by simp) (by simp) h
    exact ⟨List.append_left_inj _ |>.mp hab, rfl⟩
  | .simple u, .compound d =>
    simp only [Unit.isBuiltIn_simple, Unit.component_simple, Unit.isPlain_compound] at hu h pv
    rw [Unit.component_of_isJoined pv.1, ← List.append_assoc] at h
    exact absurd h (append_symbol_ne hu _ _)
  | .compound c, .simple v =>
    simp only [Unit.isBuiltIn_simple, Unit.component_simple, Unit.isPlain_compound] at hv h pu
    rw [Unit.component_of_isJoined pu.1, ← List.append_assoc] at h
    exact absurd h.symm (append_symbol_ne hv _ _)
  | .compound c, .compound d =>
    rw [Unit.isPlain_compound] at pu pv
    rw [Unit.isBuiltIn_compound] at hu hv
    rw [Unit.component_of_isJoined pu.1, Unit.component_of_isJoined pv.1, ← List.append_assoc,
      ← List.append_assoc, List.append_left_inj] at h
    have h' : (a ++ [' '] ++ ['(']) ++ c.name.toList = (b ++ [' '] ++ ['(']) ++ d.name.toList := by
      simpa using h
    obtain ⟨hab, rfl⟩ := Compound.append_name_inj hu hv pu.2 pv.2 (isOpening_append _)
      (isOpening_append _) h'
    simp_all

/-- The name of a compound can be told from what stands before it. -/
lemma Compound.append_name_inj {c d : Compound α} (hc : c.IsBuiltIn) (hd : d.IsBuiltIn)
    (pc : c.IsPlain) (pd : d.IsPlain) {a b : List Char} (ha : IsOpening a) (hb : IsOpening b)
    (h : a ++ c.name.toList = b ++ d.name.toList) : a = b ∧ c = d := by
  match c, d with
  | .single u, .single v =>
    rw [Compound.isPlain_single] at pc pd
    obtain ⟨u, rfl⟩ := pc
    obtain ⟨v, rfl⟩ := pd
    simp only [Compound.isBuiltIn_single, Unit.isBuiltIn_simple, Compound.name_single,
      Unit.name_simple] at hc hd h
    obtain ⟨rfl, rfl⟩ := append_symbol_inj hc hd ha.not_isAlpha hb.not_isAlpha h
    exact ⟨rfl, rfl⟩
  | .single u, .snoc d k v =>
    rw [Compound.isPlain_single] at pc
    obtain ⟨u, rfl⟩ := pc
    rw [Compound.isBuiltIn_snoc] at hd
    rw [Compound.isPlain_snoc] at pd
    simp only [Compound.isBuiltIn_single, Unit.isBuiltIn_simple, Compound.name_single,
      Unit.name_simple] at hc h
    exact absurd h (append_symbol_ne_snoc hc hd.2 pd.2 ha)
  | .snoc c j u, .single v =>
    rw [Compound.isPlain_single] at pd
    obtain ⟨v, rfl⟩ := pd
    rw [Compound.isBuiltIn_snoc] at hc
    rw [Compound.isPlain_snoc] at pc
    simp only [Compound.isBuiltIn_single, Unit.isBuiltIn_simple, Compound.name_single,
      Unit.name_simple] at hd h
    exact absurd h.symm (append_symbol_ne_snoc hd hc.2 pc.2 hb)
  | .snoc c j u, .snoc d k v =>
    rw [Compound.isBuiltIn_snoc] at hc hd
    rw [Compound.isPlain_snoc] at pc pd
    simp only [Compound.toList_name_snoc, ← List.append_assoc] at h
    obtain ⟨hsign, rfl⟩ := Unit.append_component_inj hc.2 hd.2 pc.2 pd.2 h
    obtain ⟨hname, rfl⟩ := append_sign_inj hsign
    obtain ⟨rfl, rfl⟩ := Compound.append_name_inj hc.1 hd.1 pc.1 pd.1 ha hb hname
    exact ⟨rfl, rfl⟩

end

/-- Plain compounds over the built-in kinds can be told by their names. -/
lemma Compound.name_inj {c d : Compound α} (hc : c.IsBuiltIn) (hd : d.IsBuiltIn)
    (pc : c.IsPlain) (pd : d.IsPlain) (h : c.name = d.name) : c = d :=
  (Compound.append_name_inj hc hd pc pd isOpening_nil isOpening_nil (by simp [h])).2

/-- A compound with a sign does not have the name of a simple unit. -/
lemma symbol_ne_name {u : SimpleUnit α} (hu : u ∈ SimpleUnit.builtIn) {c : Compound α}
    (hc : c.IsBuiltIn) (pc : (Unit.compound c).IsPlain) : u.symbol ≠ c.name := by
  rw [Unit.isPlain_compound] at pc
  match c with
  | .single v => simp [Unit.isJoined] at pc
  | .snoc d k v =>
    intro h
    rw [Compound.isBuiltIn_snoc] at hc
    rw [Compound.isPlain_snoc] at pc
    have h' : [] ++ u.symbol.toList = [] ++ (d.snoc k v).name.toList := by rw [h]
    exact append_symbol_ne_snoc hu hc.2 pc.2.2 isOpening_nil h'

/-- Plain units over the built-in kinds can be told by their names. -/
lemma Unit.name_inj {u v : Unit α} (hu : u.IsBuiltIn) (hv : v.IsBuiltIn) (pu : u.IsPlain)
    (pv : v.IsPlain) (h : u.name = v.name) : u = v := by
  match u, v with
  | .simple u, .simple v =>
    simp only [isBuiltIn_simple, name_simple] at hu hv h
    rw [SimpleUnit.symbol_injOn_builtIn hu hv h]
  | .simple u, .compound d =>
    simp only [isBuiltIn_simple, isBuiltIn_compound, name_simple, name_compound] at hu hv h
    exact absurd h (symbol_ne_name hu hv pv)
  | .compound c, .simple v =>
    simp only [isBuiltIn_simple, isBuiltIn_compound, name_simple, name_compound] at hu hv h
    exact absurd h.symm (symbol_ne_name hv hu pu)
  | .compound c, .compound d =>
    simp only [isBuiltIn_compound, isPlain_compound, name_compound] at hu hv pu pv h
    rw [Compound.name_inj hu hv pu.2 pv.2 h]

end Metrology
