import Metrology.Proofs.Unit.BuiltIn
import Metrology.Proofs.Unit.Tokens

/-!
# Spellings of units

A unit is spelled without blanks: by one of its names or, if it is a compound, by names of its
components with the signs between them. A word is read as the unit that it spells, and a word that
spells no unit is refused.
-/

namespace Metrology

variable {α : Type} [Magnitude α]

/-! ### The table of names -/

namespace UnitTable

lemma find?_symbol {u : SimpleUnit α} (hu : u ∈ SimpleUnit.builtIn) :
    builtIn.find? u.symbol = some u := by
  have hall : (SimpleUnit.builtIn (α := α)).map (fun u => (builtIn (α := α)).find? u.symbol) =
      SimpleUnit.builtIn.map some := rfl
  exact List.map_inj_left.mp hall u hu

lemma names_builtIn : names (builtIn : UnitTable α) =
    ["mg", "milligrams", "cg", "centigrams", "g", "grams", "kg", "kilograms", "mm",
      "millimeters", "cm", "centimeters", "m", "meters", "km", "kilometers", "s", "seconds",
      "min", "minutes", "hr", "hours", "mL", "ml", "milliliters", "cL", "cl", "centiliters", "L",
      "l", "liters", "kL", "kl", "kiloliters"] := rfl

/-- All names of units are words of letters. -/
lemma find?_eq_none {name : String} (h : ∃ c ∈ name.toList, c.isAlpha = false) :
    (builtIn : UnitTable α).find? name = none := by
  have hletters : ∀ s ∈ names (builtIn : UnitTable α), ∀ c ∈ s.toList, c.isAlpha = true := by
    rw [names_builtIn]
    simp
  rw [find?, List.lookup_eq_none_iff]
  intro p hp
  obtain ⟨c, hc, hfalse⟩ := h
  rw [bne_iff_ne]
  rintro rfl
  have htrue := hletters p.1 (List.mem_map_of_mem hp) c hc
  rw [hfalse] at htrue
  cases htrue

end UnitTable

/-! ### Spellings -/

/-- Is this one of the names of the built-in unit? -/
def SimpleUnit.HasName (u : SimpleUnit α) (s : List Char) : Prop :=
  UnitTable.builtIn.find? (String.ofList s) = some u

/-- The text is a name for each component, with the signs between them and nothing else. -/
inductive Compound.HasSpelling : Compound α → List Char → Prop where
  | single {u : SimpleUnit α} {s : List Char} (hu : u.HasName s) :
      HasSpelling (.single (.simple u)) s
  | snoc {c : Compound α} {j : Join} {u : SimpleUnit α} {s t : List Char} (hc : c.HasSpelling s)
      (hu : u.HasName t) : HasSpelling (c.snoc j (.simple u)) (s ++ (j.sign.toList ++ t))

/-- The text is a name of a built-in unit, or spells a compound of such units with a sign at
least. -/
inductive Unit.HasSpelling : Unit α → List Char → Prop where
  | simple {u : SimpleUnit α} {s : List Char} (hu : u.HasName s) : HasSpelling (.simple u) s
  | compound {c : Compound α} {s : List Char} (hj : (Unit.compound c).isJoined = true)
      (hc : c.HasSpelling s) : HasSpelling (.compound c) s

/-! ### Names -/

namespace SimpleUnit.HasName

variable {u : SimpleUnit α} {s : List Char} (hu : u.HasName s)

include hu

lemma isAlpha_of_mem : ∀ c ∈ s, c.isAlpha = true := by
  intro c hc
  by_contra hfalse
  have hnone : UnitTable.builtIn.find? (String.ofList s) = (none : Option (SimpleUnit α)) :=
    UnitTable.find?_eq_none ⟨c, by simpa using hc, by simpa using hfalse⟩
  rw [HasName, hnone] at hu
  cases hu

lemma ne_nil : s ≠ [] := by
  rintro rfl
  have hnone : UnitTable.builtIn.find? (String.ofList []) = (none : Option (SimpleUnit α)) := rfl
  rw [HasName, hnone] at hu
  cases hu

lemma isWord : Text.IsWord s :=
  ⟨hu.ne_nil, fun c hc => Text.isBlank_of_isAlpha (hu.isAlpha_of_mem c hc)⟩

lemma nameTokens_eq : nameTokens s = [.name s] :=
  nameTokens_word hu.ne_nil fun c hc => isNameChar_of_isAlpha (hu.isAlpha_of_mem c hc)

lemma any_sign_eq : (s.any fun a => (Join.ofChar? a).isSome) = false := by
  rw [List.any_eq_false]
  intro c hc
  have hname := isNameChar_of_isAlpha (hu.isAlpha_of_mem c hc)
  simp only [isNameChar, Bool.and_eq_true, Option.isNone_iff_eq_none] at hname
  simp [hname.2]

lemma readComponent_eq (text : String) : Compound.readComponent text s = .ok (.simple u) := by
  rw [Compound.readComponent, hu]
  rfl

end SimpleUnit.HasName

lemma SimpleUnit.HasName.resolve_eq {name : String} {u : SimpleUnit α}
    (hu : u.HasName name.toList) : resolve name = .ok u := by
  rw [HasName, String.ofList_toList] at hu
  rw [resolve, hu]
  rfl

lemma SimpleUnit.hasName_symbol {u : SimpleUnit α} (hu : u ∈ builtIn) :
    u.HasName u.symbol.toList := by
  rw [HasName, String.ofList_toList, UnitTable.find?_symbol hu]

lemma SimpleUnit.hasName_of_resolve {name : String} {u : SimpleUnit α} (h : resolve name = .ok u) :
    u.HasName name.toList := by
  unfold resolve at h
  split at h
  · next hfind =>
    cases h
    rwa [HasName, String.ofList_toList]
  · cases h

lemma Compound.hasName_of_readComponent {text : String} {s : List Char} {u : Unit α}
    (h : readComponent text s = .ok u) : ∃ v : SimpleUnit α, v.HasName s ∧ u = .simple v := by
  unfold readComponent at h
  split at h
  · next v hfind =>
    cases h
    exact ⟨v, hfind, rfl⟩
  · cases h

/-! ### Tokens -/

/-- The characters that a token was cut from. -/
def NameToken.chars : NameToken → List Char
  | .sign j => j.sign.toList
  | .name s => s

lemma chars_consNameChar (c : Char) (behind : List Char) (ts : List NameToken) :
    (consNameChar c behind ts).flatMap NameToken.chars = c :: ts.flatMap NameToken.chars := by
  unfold consNameChar
  split <;> rfl

/-- Nothing but blanks is lost between the tokens of a text. -/
lemma chars_nameTokens (s : List Char) :
    (nameTokens s).flatMap NameToken.chars = s.filter fun c => !Text.isBlank c := by
  induction s with
  | nil => rfl
  | cons c s ih =>
    rw [nameTokens]
    cases hblank : Text.isBlank c with
    | true => simp [hblank, ih]
    | false =>
      rw [List.filter_cons_of_pos (by simp [hblank]), if_neg Bool.false_ne_true, ← ih]
      cases hsign : Join.ofChar? c with
      | none => exact chars_consNameChar c s _
      | some j => simp [NameToken.chars, Join.toList_sign_of_ofChar? hsign]

/-! ### Compounds -/

namespace Compound

/-- What can be read can be read on from there. -/
lemma readRest_append {text : String} {c d : Compound α} {token : Nat} {ts : List NameToken}
    (h : readRest text c token ts = .ok d) (ts' : List NameToken) :
    readRest text c token (ts ++ ts') = readRest text d (token + ts.length) ts' := by
  match ts with
  | [] =>
    cases h
    rfl
  | .name s :: r => simp [readRest] at h
  | [.sign j] => simp [readRest] at h
  | .sign j :: .sign k :: r => simp [readRest] at h
  | .sign j :: .name s :: r =>
    rw [readRest, bind_eq_ok] at h
    obtain ⟨u, hu, h⟩ := h
    have hlength : token + (.sign j :: .name s :: r : List NameToken).length =
        token + 2 + r.length := by
      simp only [List.length_cons]
      omega
    rw [List.cons_append, List.cons_append, readRest, hu, ok_bind, readRest_append h ts', hlength]

/-- What is read behind a compound is spelled behind it. -/
lemma HasSpelling.of_readRest {text : String} {c d : Compound α} {token : Nat} {s : List Char}
    {ts : List NameToken} (hc : c.HasSpelling s) (h : readRest text c token ts = .ok d) :
    d.HasSpelling (s ++ ts.flatMap NameToken.chars) := by
  match ts with
  | [] =>
    cases h
    simpa using hc
  | .name t :: r => simp [readRest] at h
  | [.sign j] => simp [readRest] at h
  | .sign j :: .sign k :: r => simp [readRest] at h
  | .sign j :: .name t :: r =>
    rw [readRest, bind_eq_ok] at h
    obtain ⟨u, hu, h⟩ := h
    obtain ⟨v, hv, rfl⟩ := hasName_of_readComponent hu
    simpa [NameToken.chars] using (hc.snoc hv (j := j)).of_readRest h

lemma hasSpelling_of_read {text : String} {c : Compound α} (h : read text = .ok c) :
    c.HasSpelling (text.toList.filter fun a => !Text.isBlank a) := by
  rw [← chars_nameTokens]
  unfold read at h
  split at h
  · cases h
  · cases h
  · next s r htokens =>
    obtain ⟨u, hu, h⟩ := bind_eq_ok.mp h
    obtain ⟨v, hv, rfl⟩ := hasName_of_readComponent hu
    rw [htokens]
    exact (HasSpelling.single hv).of_readRest h

namespace HasSpelling

variable {c : Compound α} {s : List Char} (hc : c.HasSpelling s)

include hc

/-- The tokens of a spelling are read one component after the other, whatever text they are from. -/
lemma readRest_eq (text : String) : ∃ (u : SimpleUnit α) (t : List Char) (r : List NameToken),
    u.HasName t ∧ nameTokens s = .name t :: r ∧
      readRest text (.single (.simple u)) 2 r = .ok c := by
  induction hc with
  | @single u s hu => exact ⟨u, s, [], hu, hu.nameTokens_eq, rfl⟩
  | @snoc c j v s t _ hv ih =>
    obtain ⟨u, w, r, hu, hr, hread⟩ := ih
    refine ⟨u, w, r ++ [.sign j, .name t], hu, ?_, ?_⟩
    · rw [nameTokens_append s (j.not_isNameChar_sign t), hr, nameTokens_sign_append, hv.nameTokens_eq]
      rfl
    · rw [readRest_append hread, readRest, hv.readComponent_eq]
      rfl

/-- A compound is read from every text with the tokens of its spelling. -/
lemma read_of_nameTokens {text : String} (h : nameTokens text.toList = nameTokens s) :
    read text = .ok c := by
  obtain ⟨u, t, r, hu, hr, hread⟩ := hc.readRest_eq text
  rw [read, h, hr]
  simp [hu.readComponent_eq, hread]

lemma isWord : Text.IsWord s := by
  induction hc with
  | single hu => exact hu.isWord
  | @snoc c j u s t _ hu ih =>
    have hsign : Text.IsWord j.sign.toList := by cases j <;> decide
    refine ⟨by simp [hu.ne_nil], ?_⟩
    exact List.forall_mem_append.mpr ⟨ih.2, List.forall_mem_append.mpr ⟨hsign.2, hu.isWord.2⟩⟩

/-- A spelling shows the signs of its compound. -/
lemma any_sign_eq : (s.any fun a => (Join.ofChar? a).isSome) = (Unit.compound c).isJoined := by
  induction hc with
  | single hu => exact hu.any_sign_eq
  | @snoc c j u s t _ _ _ =>
    rw [Unit.isJoined, List.any_eq_true]
    cases j with
    | times => exact ⟨'*', by simp [Join.sign], rfl⟩
    | per => exact ⟨'/', by simp [Join.sign], rfl⟩

end HasSpelling

/-- A word is read as the compound that it spells, and as no other. -/
lemma read_eq_ok_iff {name : String} {c : Compound α} (hword : Text.IsWord name.toList) :
    read name = .ok c ↔ c.HasSpelling name.toList := by
  constructor
  · intro h
    rw [← Text.filter_of_isWord hword]
    exact hasSpelling_of_read h
  · intro hc
    exact hc.read_of_nameTokens rfl

end Compound

/-! ### Units -/

namespace Unit

lemma HasSpelling.isWord {u : Unit α} {s : List Char} (hu : u.HasSpelling s) : Text.IsWord s := by
  cases hu with
  | simple hu => exact hu.isWord
  | compound _ hc => exact hc.isWord

variable {name : String} (hword : Text.IsWord name.toList)

include hword

/-- A word is read as the unit that it spells, and as no other. -/
lemma read_eq_ok_iff {u : Unit α} : read name = .ok u ↔ u.HasSpelling name.toList := by
  simp only [read, Text.strip_of_isWord hword]
  constructor
  · intro h
    split at h
    · next hsign =>
      obtain ⟨c, hc, h⟩ := bind_eq_ok.mp h
      cases h
      have hspell := (Compound.read_eq_ok_iff hword).mp hc
      exact .compound (hspell.any_sign_eq ▸ hsign) hspell
    · obtain ⟨v, hv, h⟩ := bind_eq_ok.mp h
      cases h
      exact .simple (SimpleUnit.hasName_of_resolve hv)
  · intro h
    cases h with
    | simple hu =>
      rw [isCompoundName, hu.any_sign_eq, if_neg Bool.false_ne_true, hu.resolve_eq]
      rfl
    | compound hj hc =>
      rw [isCompoundName, hc.any_sign_eq, if_pos hj, (Compound.read_eq_ok_iff hword).mpr hc]
      rfl

/-- The words that are valid names are the spellings. -/
lemma isValidUnitName_iff :
    isValidUnitName name = true ↔ ∃ u : Unit Float, u.HasSpelling name.toList := by
  rw [isValidUnitName, Bool.or_eq_true, Bool.and_eq_true]
  constructor
  · rintro (h | ⟨hsign, h⟩)
    · obtain ⟨u, hu⟩ := Option.isSome_iff_exists.mp h
      rw [← String.ofList_toList (s := name)] at hu
      exact ⟨.simple u, .simple hu⟩
    · cases hread : (Compound.read name : Result Float (Compound Float)) with
      | error f => simp [hread, Except.toBool] at h
      | ok c =>
        have hspell := (Compound.read_eq_ok_iff hword).mp hread
        exact ⟨.compound c, .compound (hspell.any_sign_eq ▸ hsign) hspell⟩
  · rintro ⟨u, hu⟩
    cases hu with
    | @simple v _ hv =>
      have hfind : UnitTable.builtIn.find? (String.ofList name.toList) = some v := hv
      rw [String.ofList_toList] at hfind
      exact .inl (by rw [isUnitName, hfind]; rfl)
    | compound hj hc =>
      refine .inr ⟨by rw [isCompoundName, hc.any_sign_eq, hj], ?_⟩
      rw [(Compound.read_eq_ok_iff hword).mpr hc]
      rfl

end Unit

end Metrology
