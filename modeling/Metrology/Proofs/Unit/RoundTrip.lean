import Metrology.Proofs.Unit.Reading
import Metrology.Proofs.Unit.Spelling

/-!
# Names that are read back

A unit without nesting is read back from its name. The name of a nested unit has a parenthesis in
front of a symbol, and no unit has such a name, so that it is refused.
-/

namespace Metrology

variable {α : Type}

/-! ### Names of compounds -/

namespace Compound

/-- A compound's name holds the last sign. -/
lemma isCompoundName_name_snoc (c : Compound α) (j : Join) (u : Unit α) :
    isCompoundName (c.snoc j u).name = true := by
  rw [isCompoundName, List.any_eq_true]
  cases j with
  | times => exact ⟨'*', by simp [toList_name_snoc, Join.sign], rfl⟩
  | per => exact ⟨'/', by simp [toList_name_snoc, Join.sign], rfl⟩

lemma isCompoundName_name {c : Compound α} (h : (Unit.compound c).isJoined = true) :
    isCompoundName c.name = true := by
  match c with
  | .single u => simp [Unit.isJoined] at h
  | .snoc c j u => exact isCompoundName_name_snoc c j u

lemma nameTokens_name_snoc (c : Compound α) (j : Join) (u : Unit α) :
    nameTokens (c.snoc j u).name.toList =
      nameTokens c.name.toList ++ .sign j :: nameTokens u.component.toList := by
  rw [toList_name_snoc, nameTokens_append_sign]

/-- The name of a compound of simple units, without blanks. -/
def compactName : Compound α → String
  | .single u => u.name
  | .snoc c j u => c.compactName ++ j.sign ++ u.name

@[simp] lemma compactName_single (u : Unit α) : (single u).compactName = u.name := by
  simp [compactName]

@[simp] lemma compactName_snoc (c : Compound α) (j : Join) (u : Unit α) :
    (c.snoc j u).compactName = c.compactName ++ j.sign ++ u.name := by simp [compactName]

lemma compactName_append_replicate (c : Compound α) (j : Join) (u : Unit α) (n : Nat) :
    (c.append (List.replicate n (j, u))).compactName =
      c.compactName ++ String.join (List.replicate n (j.sign ++ u.name)) := by
  induction n generalizing c with
  | zero => simp [append]
  | succ n ih =>
    rw [append_replicate_succ, ih, compactName_snoc, List.replicate_succ, String.join_cons]
    simp only [String.append_assoc]

/-- The blanks in a name make no difference to its tokens. -/
lemma nameTokens_compactName {c : Compound α} (hflat : ∀ u ∈ c.units, u.isCompound = false) :
    nameTokens c.compactName.toList = nameTokens c.name.toList := by
  match c with
  | .single u => simp
  | .snoc c j (.compound d) => cases hflat (.compound d) (by simp)
  | .snoc c j (.simple v) =>
    have hrest : ∀ u ∈ c.units, u.isCompound = false := fun u hu => hflat u (by simp [hu])
    have hsign : ∀ a ∈ (j.sign.toList ++ v.symbol.toList).head?, isNameChar a = false := by
      cases j <;> simp [Join.sign, isNameChar, Join.ofChar?]
    rw [compactName_snoc, String.toList_append, String.toList_append, List.append_assoc,
      Unit.name_simple, nameTokens_append _ hsign, nameTokens_sign_append,
      nameTokens_compactName hrest, nameTokens_name_snoc, Unit.component_simple]

end Compound

variable [Magnitude α]

/-! ### Names of simple units -/

namespace SimpleUnit

variable {u : SimpleUnit α} (hu : u ∈ builtIn)

include hu

lemma not_isBlank_of_mem_symbol {c : Char} (hc : c ∈ u.symbol.toList) :
    Text.isBlank c = false :=
  Text.isBlank_of_isAlpha ((symbol_letters hu).2 c hc)

lemma exists_symbol_eq_cons : ∃ a s, u.symbol.toList = a :: s ∧ a.isAlpha = true := by
  obtain ⟨hne, hletters⟩ := symbol_letters hu
  obtain ⟨a, s, hs⟩ := List.exists_cons_of_ne_nil hne
  exact ⟨a, s, hs, hletters a (by simp [hs])⟩

end SimpleUnit

/-! ### The ends of names -/

lemma Compound.exists_name_eq_cons {c : Compound α} (hc : c.IsBuiltIn) (pc : c.IsPlain) :
    ∃ a s, c.name.toList = a :: s ∧ a.isAlpha = true := by
  match c with
  | .single u =>
    obtain ⟨v, rfl⟩ := (Compound.isPlain_single u).mp pc
    simpa using SimpleUnit.exists_symbol_eq_cons (by simpa using hc)
  | .snoc c j u =>
    rw [Compound.isBuiltIn_snoc] at hc
    rw [Compound.isPlain_snoc] at pc
    obtain ⟨a, s, hs, ha⟩ := Compound.exists_name_eq_cons hc.1 pc.1
    exact ⟨a, s ++ ' ' :: j.sign.toList ++ [' '] ++ u.component.toList,
      by simp [Compound.toList_name_snoc, hs], ha⟩

/-- A name begins with a letter. -/
lemma Unit.exists_name_eq_cons {u : Unit α} (hu : u.IsBuiltIn) (pu : u.IsPlain) :
    ∃ a s, u.name.toList = a :: s ∧ a.isAlpha = true := by
  match u with
  | .simple u => simpa using SimpleUnit.exists_symbol_eq_cons (by simpa using hu)
  | .compound c =>
    rw [Unit.isBuiltIn_compound] at hu
    rw [Unit.isPlain_compound] at pu
    simpa using Compound.exists_name_eq_cons hu pu.2

/-- What stands behind a sign ends with a letter or a parenthesis. -/
lemma Unit.exists_component_eq_append {u : Unit α} (hu : u.IsBuiltIn) (pu : u.IsPlain) :
    ∃ s b, u.component.toList = s ++ [b] ∧ Text.isBlank b = false := by
  match u with
  | .simple u =>
    rw [Unit.isBuiltIn_simple] at hu
    rw [Unit.component_simple]
    obtain ⟨hne, -⟩ := SimpleUnit.symbol_letters hu
    exact ⟨_, _, (List.dropLast_append_getLast hne).symm,
      SimpleUnit.not_isBlank_of_mem_symbol hu (List.getLast_mem hne)⟩
  | .compound c =>
    rw [Unit.isPlain_compound] at pu
    exact ⟨'(' :: c.name.toList, ')', by simp [Unit.component_of_isJoined pu.1], by decide⟩

/-- A name is stripped already. -/
lemma Unit.strip_name {u : Unit α} (hu : u.IsBuiltIn) (pu : u.IsPlain) :
    Text.strip u.name = u.name := by
  match u with
  | .simple u =>
    rw [Unit.isBuiltIn_simple] at hu
    rw [Unit.name_simple]
    exact Text.strip_eq_self
      (fun c hc => SimpleUnit.not_isBlank_of_mem_symbol hu (List.mem_of_mem_head? hc))
      (fun c hc => SimpleUnit.not_isBlank_of_mem_symbol hu (List.mem_of_mem_getLast? hc))
  | .compound (.single u) => simp [Unit.isJoined] at pu
  | .compound (.snoc c j u) =>
    rw [Unit.isPlain_compound] at pu
    rw [Unit.isBuiltIn_compound] at hu
    rw [Unit.name_compound]
    obtain ⟨a, s, hs, ha⟩ := Compound.exists_name_eq_cons hu pu.2
    rw [Compound.isBuiltIn_snoc] at hu
    rw [Compound.isPlain_snoc] at pu
    obtain ⟨t, b, ht, hb⟩ := Unit.exists_component_eq_append hu.2 pu.2.2
    apply Text.strip_eq_self
    · intro c hc
      rw [hs] at hc
      obtain rfl : a = c := by simpa using hc
      exact Text.isBlank_of_isAlpha ha
    · intro c hc
      rw [Compound.toList_name_snoc, ht, ← List.append_assoc, List.getLast?_concat] at hc
      obtain rfl : b = c := by simpa using hc
      exact hb

/-! ### Units without nesting -/

namespace Compound

lemma hasSpelling_compactName {c : Compound α} (hc : c.IsBuiltIn)
    (hflat : ∀ u ∈ c.units, u.isCompound = false) : c.HasSpelling c.compactName.toList := by
  match c with
  | .single (.compound d) => cases hflat (.compound d) (by simp)
  | .snoc c j (.compound d) => cases hflat (.compound d) (by simp)
  | .single (.simple u) =>
    have hu : u ∈ SimpleUnit.builtIn := by simpa using hc
    simpa using HasSpelling.single (SimpleUnit.hasName_symbol hu)
  | .snoc c j (.simple v) =>
    obtain ⟨hcb, hv⟩ : c.IsBuiltIn ∧ v ∈ SimpleUnit.builtIn := by simpa using hc
    have hspell := hasSpelling_compactName hcb fun u hu => hflat u (by simp [hu])
    simpa using hspell.snoc (SimpleUnit.hasName_symbol hv) (j := j)

/-- A flat compound is read back from every text with the tokens of its name. -/
lemma read_of_nameTokens {c : Compound α} (hc : c.IsBuiltIn)
    (hflat : ∀ u ∈ c.units, u.isCompound = false) {text : String}
    (h : nameTokens text.toList = nameTokens c.name.toList) : read text = .ok c :=
  (hasSpelling_compactName hc hflat).read_of_nameTokens
    (h.trans (nameTokens_compactName hflat).symm)

lemma isWord_compactName {c : Compound α} (hc : c.IsBuiltIn)
    (hflat : ∀ u ∈ c.units, u.isCompound = false) : Text.IsWord c.compactName.toList :=
  (hasSpelling_compactName hc hflat).isWord

end Compound

namespace Unit

/-- A flat unit is read back from its name. -/
lemma read_name {u : Unit α} (hu : u.IsBuiltIn) (pu : u.IsPlain) (hflat : u.IsFlat) :
    read u.name = .ok u := by
  cases u with
  | simple u =>
    rw [isBuiltIn_simple] at hu
    have hname := SimpleUnit.hasName_symbol hu
    rw [name_simple]
    exact (read_eq_ok_iff hname.isWord).mpr (.simple hname)
  | compound c =>
    have hstrip := strip_name hu pu
    rw [isBuiltIn_compound] at hu
    rw [isPlain_compound] at pu
    rw [name_compound] at hstrip ⊢
    simp [read, hstrip, Compound.isCompoundName_name pu.1, Compound.read_of_nameTokens hu hflat rfl]

lemma read_compactName {c : Compound α} (hc : c.IsBuiltIn)
    (hflat : ∀ u ∈ c.units, u.isCompound = false) (h : (Unit.compound c).isJoined = true) :
    read c.compactName = .ok (.compound c) :=
  (read_eq_ok_iff (Compound.isWord_compactName hc hflat)).mpr
    (.compound h (Compound.hasSpelling_compactName hc hflat))

/-- The name of the unit without its blanks. -/
def gluedName (u : Unit α) : String := String.ofList (u.name.toList.filter fun c => !Text.isBlank c)

/-- The unit is a built-in simple unit, or a compound of at least two of them. -/
structure IsGluable (u : Unit α) : Prop where
  isBuiltIn : u.IsBuiltIn
  isFlat : u.IsFlat
  isJoined : u.isCompound = true → u.isJoined = true

/-- Without its blanks the name of a flat unit spells the unit. -/
lemma hasSpelling_gluedName {u : Unit α} (hu : u.IsGluable) : u.HasSpelling u.gluedName.toList := by
  rw [gluedName, String.toList_ofList]
  cases u with
  | simple u =>
    have hbuiltIn : u ∈ SimpleUnit.builtIn := by simpa using hu.isBuiltIn
    have hname := SimpleUnit.hasName_symbol hbuiltIn
    rw [name_simple, Text.filter_of_isWord hname.isWord]
    exact .simple hname
  | compound c =>
    rw [name_compound]
    have hbuiltIn : c.IsBuiltIn := by simpa using hu.isBuiltIn
    have hread : Compound.read c.name = .ok c := Compound.read_of_nameTokens hbuiltIn hu.isFlat rfl
    exact .compound (hu.isJoined rfl) (Compound.hasSpelling_of_read hread)

end Unit

/-! ### Nested units -/

lemma exists_eq_cons_cons {β : Type} {xs us : List β} {w a b : β}
    (h : xs ++ [w] = a :: b :: us) (hl : 2 ≤ xs.length) : ∃ us', xs = a :: b :: us' := by
  match xs with
  | x :: y :: zs =>
    obtain ⟨rfl, rfl, -⟩ : x = a ∧ y = b ∧ zs ++ [w] = us := by simpa using h
    exact ⟨zs, rfl⟩

namespace Compound

/-- No unit has a name with a parenthesis. -/
lemma readComponent_parenthesis (text : String) (s : List Char) :
    (readComponent text ('(' :: s) : Result α (Unit α)) =
      .error (.unreadable text (.unknownUnit (String.ofList ('(' :: s)))) := by
  have hmem : '(' ∈ (String.ofList ('(' :: s)).toList := by simp
  have hnone : (UnitTable.builtIn (α := α)).find? (String.ofList ('(' :: s)) = none :=
    UnitTable.find?_eq_none ⟨'(', hmem, rfl⟩
  rw [readComponent, hnone]
  rfl

/-- A nested second component is the third token of the name, which begins with a parenthesis. -/
lemma nameTokens_name_of_units {c d : Compound α} {u : SimpleUnit α} {us : List (Unit α)}
    (hc : c.units = .simple u :: .compound d :: us) (hu : u ∈ SimpleUnit.builtIn)
    (hd : (Unit.compound d).isJoined = true) :
    ∃ j s r, nameTokens c.name.toList =
      .name u.symbol.toList :: .sign j :: .name ('(' :: s) :: r := by
  match c with
  | .single v => simp at hc
  | .snoc (.single w) j v =>
    obtain ⟨rfl, rfl, -⟩ : w = .simple u ∧ v = .compound d ∧ [] = us := by simpa using hc
    have hparen : isNameChar '(' = true := by decide
    obtain ⟨s, r, hs⟩ := nameTokens_cons_isNameChar hparen (d.name.toList ++ [')'])
    have hcomponent : nameTokens (Unit.compound d).component.toList = .name ('(' :: s) :: r := by
      rw [Unit.component_of_isJoined hd, Unit.name_compound, List.cons_append, hs]
    refine ⟨j, s, r, ?_⟩
    rw [nameTokens_name_snoc, hcomponent, name_single, Unit.name_simple,
      (SimpleUnit.hasName_symbol hu).nameTokens_eq]
    rfl
  | .snoc (.snoc c j v) k w =>
    have hlength : 2 ≤ (c.snoc j v).units.length := by simp [length_units]
    obtain ⟨us', hus⟩ := exists_eq_cons_cons hc hlength
    obtain ⟨l, s, r, hs⟩ := nameTokens_name_of_units hus hu hd
    exact ⟨l, s, r ++ .sign k :: nameTokens w.component.toList, by
      rw [nameTokens_name_snoc, hs]
      rfl⟩

end Compound

/-- The name of a layered unit with a nested component is refused, for the part of it that begins
with the parenthesis. -/
lemma Unit.IsLayered.read_name_of_not_isFlat {u : Unit α} (hu : u.IsLayered) (hn : ¬ u.IsFlat) :
    ∃ s, (Unit.read u.name : Result α (Unit α)) =
      .error (.unreadable u.name (.unknownUnit (String.ofList ('(' :: s)))) := by
  have hstrip := strip_name hu.isBuiltIn hu.isPlain
  cases hu with
  | simple hu => exact absurd trivial hn
  | @compound c first second rest hfirst hsecond hrest hc =>
    cases hsecond with
    | @simple second hsecond =>
      have hflat : ∀ u ∈ c.units, u.isCompound = false := by
        rw [hc]
        simp [isCompound]
      exact absurd hflat hn
    | @compound d _ _ _ _ _ _ hd =>
      obtain ⟨j, s, r, htokens⟩ :=
        Compound.nameTokens_name_of_units hc hfirst (Compound.isJoined_of_units_eq hd)
      have hsign : isCompoundName c.name = true :=
        Compound.isCompoundName_name (Compound.isJoined_of_units_eq hc)
      have hread : (Compound.read c.name : Result α (Compound α)) =
          .error (.unreadable c.name (.unknownUnit (String.ofList ('(' :: s)))) := by
        rw [Compound.read, htokens]
        simp only [(SimpleUnit.hasName_symbol hfirst).readComponent_eq, ok_bind, Compound.readRest,
          Compound.readComponent_parenthesis, error_bind]
      refine ⟨s, ?_⟩
      rw [read, hstrip, name_compound]
      simp only [hsign, if_true, hread, error_bind]

end Metrology
