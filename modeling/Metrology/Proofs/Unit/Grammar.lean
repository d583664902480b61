import Metrology.Proofs.Unit.Faults
import Metrology.Proofs.Unit.RoundTrip

/-!
# The grammar of unit names

A compound is written by names of its components and the signs between them, with blanks in front
of and behind each of them or none. A text is read as the compound that is written there, and no
other text is read. A unit's name is one of its texts, so that whatever is read is read again from
its name.
-/

namespace Metrology

variable {α : Type} [Magnitude α]

/-! ### Texts of compounds -/

/-- The text is a name for each component and the signs between them, with any blanks in front of
names and signs. -/
inductive Compound.IsWritten : Compound α → List Char → Prop where
  | single {u : SimpleUnit α} {b s : List Char} (hb : Text.IsBlanks b) (hu : u.HasName s) :
      IsWritten (.single (.simple u)) (b ++ s)
  | snoc {c : Compound α} {j : Join} {u : SimpleUnit α} {s b b' t : List Char}
      (hc : c.IsWritten s) (hb : Text.IsBlanks b) (hb' : Text.IsBlanks b') (hu : u.HasName t) :
      IsWritten (c.snoc j (.simple u)) (s ++ (b ++ j.sign.toList ++ (b' ++ t)))

/-- The compound is written in the text, with any blanks at the end. -/
def Compound.HasText (c : Compound α) (s : List Char) : Prop :=
  ∃ t b, c.IsWritten t ∧ Text.IsBlanks b ∧ s = t ++ b

/-! ### Tokens and blanks -/

lemma nameTokens_blanks_append {b : List Char} (hb : Text.IsBlanks b) (s : List Char) :
    nameTokens (b ++ s) = nameTokens s := by
  induction b with
  | nil => rfl
  | cons c b ih =>
    obtain ⟨hc, hb⟩ := List.forall_mem_cons.mp hb
    rw [List.cons_append, nameTokens_cons_blank hc, ih hb]

lemma nameTokens_of_isBlanks {b : List Char} (hb : Text.IsBlanks b) : nameTokens b = [] := by
  simpa [nameTokens] using nameTokens_blanks_append hb []

/-- No name goes on with a blank. -/
lemma not_isNameChar_of_isBlanks {b s : List Char} (hb : Text.IsBlanks b)
    (hs : ∀ c ∈ s.head?, isNameChar c = false) : ∀ c ∈ (b ++ s).head?, isNameChar c = false := by
  cases b with
  | nil => simpa using hs
  | cons a b =>
    have ha : Text.isBlank a = true := hb a List.mem_cons_self
    simp [isNameChar, ha]

lemma nameTokens_append_blanks (s : List Char) {b : List Char} (hb : Text.IsBlanks b) :
    nameTokens (s ++ b) = nameTokens s := by
  have hend : ∀ c ∈ b.head?, isNameChar c = false := by
    simpa using not_isNameChar_of_isBlanks hb (s := []) (by simp)
  rw [nameTokens_append s hend, nameTokens_of_isBlanks hb, List.append_nil]

/-- A text without tokens has blanks alone. -/
lemma isBlanks_of_nameTokens {s : List Char} (h : nameTokens s = []) : Text.IsBlanks s := by
  have hchars := chars_nameTokens s
  rw [h, List.flatMap_nil, eq_comm, List.filter_eq_nil_iff] at hchars
  intro c hc
  simpa using hchars c hc

/-- The first token of a text stands behind blanks and in front of the other tokens. -/
lemma exists_of_nameTokens_eq_cons {s : List Char} {t : NameToken} {ts : List NameToken}
    (h : nameTokens s = t :: ts) :
    ∃ b r, Text.IsBlanks b ∧ s = b ++ (t.chars ++ r) ∧ nameTokens r = ts := by
  induction s generalizing t ts with
  | nil => cases h
  | cons c s ih =>
    rw [nameTokens] at h
    cases hblank : Text.isBlank c with
    | true =>
      rw [hblank, if_pos rfl] at h
      obtain ⟨b, r, hb, rfl, hr⟩ := ih h
      exact ⟨c :: b, r, hb.cons hblank, rfl, hr⟩
    | false =>
      rw [hblank, if_neg Bool.false_ne_true] at h
      cases hsign : Join.ofChar? c with
      | some j =>
        rw [hsign] at h
        cases h
        exact ⟨[], s, Text.isBlanks_nil, by
          simp [NameToken.chars, Join.toList_sign_of_ofChar? hsign], rfl⟩
      | none =>
        rw [hsign] at h
        by_cases hs : ∀ a ∈ s.head?, isNameChar a = false
        · rw [consNameChar_of_not_isNameChar hs] at h
          cases h
          exact ⟨[], s, Text.isBlanks_nil, rfl, rfl⟩
        · -- The name goes on: no blank stands between its first character and the others.
          obtain ⟨a, r, rfl, ha⟩ : ∃ a r, s = a :: r ∧ isNameChar a = true := by
            cases s with
            | nil => simp at hs
            | cons a r => exact ⟨a, r, rfl, by simpa using hs⟩
          obtain ⟨w, ts', hw⟩ := nameTokens_cons_isNameChar ha r
          rw [hw, consNameChar_name ha] at h
          cases h
          obtain ⟨b, r', hb, hr, hts⟩ := ih hw
          cases b with
          | nil => exact ⟨[], r', Text.isBlanks_nil, by rw [hr]; rfl, hts⟩
          | cons b₁ b =>
            obtain rfl : a = b₁ := (List.cons.inj hr).1
            simp [isNameChar, hb a List.mem_cons_self] at ha

/-! ### Reading compounds -/

namespace Compound

/-- What is read behind a compound is written behind it. -/
lemma IsWritten.of_readRest {text : String} {c d : Compound α} {token : Nat} {s r : List Char}
    {ts : List NameToken} (hc : c.IsWritten s) (h : readRest text c token ts = .ok d)
    (hr : nameTokens r = ts) : d.HasText (s ++ r) := by
  match ts with
  | [] =>
    cases h
    exact ⟨s, r, hc, isBlanks_of_nameTokens hr, rfl⟩
  | .name t :: ts => simp [readRest] at h
  | [.sign j] => simp [readRest] at h
  | .sign j :: .sign k :: ts => simp [readRest] at h
  | .sign j :: .name t :: ts =>
    rw [readRest, bind_eq_ok] at h
    obtain ⟨u, hu, h⟩ := h
    obtain ⟨v, hv, rfl⟩ := hasName_of_readComponent hu
    obtain ⟨b, r₁, hb, rfl, hr₁⟩ := exists_of_nameTokens_eq_cons hr
    obtain ⟨b', r₂, hb', rfl, hr₂⟩ := exists_of_nameTokens_eq_cons hr₁
    simpa [NameToken.chars] using (hc.snoc hb hb' hv).of_readRest h hr₂

/-- A compound that is read is written in every text with the same tokens. -/
lemma hasText_of_read {text : String} {c : Compound α} {s : List Char} (h : read text = .ok c)
    (hs : nameTokens s = nameTokens text.toList) : c.HasText s := by
  unfold read at h
  split at h
  · cases h
  · cases h
  · next t ts htokens =>
    obtain ⟨u, hu, h⟩ := bind_eq_ok.mp h
    obtain ⟨v, hv, rfl⟩ := hasName_of_readComponent hu
    obtain ⟨b, r, hb, rfl, hr⟩ := exists_of_nameTokens_eq_cons (hs.trans htokens)
    simpa [NameToken.chars] using (IsWritten.single hb hv).of_readRest h hr

/-- The blanks in a text make no difference to the tokens. -/
lemma IsWritten.exists_hasSpelling {c : Compound α} {s : List Char} (hc : c.IsWritten s) :
    ∃ t, c.HasSpelling t ∧ nameTokens s = nameTokens t := by
  induction hc with
  | single hb hu => exact ⟨_, .single hu, nameTokens_blanks_append hb _⟩
  | @snoc c j u s b b' t _ hb hb' hu ih =>
    obtain ⟨r, hr, htokens⟩ := ih
    refine ⟨r ++ (j.sign.toList ++ t), hr.snoc hu, ?_⟩
    have hend : ∀ a ∈ (b ++ (j.sign.toList ++ (b' ++ t))).head?, isNameChar a = false :=
      not_isNameChar_of_isBlanks hb (j.not_isNameChar_sign _)
    rw [List.append_assoc b, nameTokens_append s hend, nameTokens_blanks_append hb,
      nameTokens_sign_append, nameTokens_blanks_append hb',
      nameTokens_append r (j.not_isNameChar_sign t), nameTokens_sign_append, htokens]

/-- A compound is read from every text with the tokens of a text that it is written in. -/
lemma HasText.read_of_nameTokens {c : Compound α} {s : List Char} (hc : c.HasText s)
    {text : String} (h : nameTokens text.toList = nameTokens s) : read text = .ok c := by
  obtain ⟨t, b, ht, hb, rfl⟩ := hc
  obtain ⟨r, hr, htokens⟩ := ht.exists_hasSpelling
  rw [nameTokens_append_blanks t hb, htokens] at h
  exact hr.read_of_nameTokens h

/-- The compound is read from the texts that it is written in, and from no others. -/
lemma read_eq_ok_iff_hasText {text : String} {c : Compound α} :
    read text = .ok c ↔ c.HasText text.toList :=
  ⟨fun h => hasText_of_read h rfl, fun hc => hc.read_of_nameTokens rfl⟩

/-- What is read is read again from its name. -/
lemma read_name_of_read {text : String} {c : Compound α} (h : read text = .ok c) :
    read c.name = .ok c := by
  obtain ⟨u, us, hu, hus, -, hunits⟩ := units_of_read h
  have hbuiltIn : ∀ v ∈ c.units, v.IsBuiltIn := by
    rw [hunits]
    simpa using ⟨hu, hus⟩
  have hflat : ∀ v ∈ c.units, v.isCompound = false := by
    rw [hunits]
    simp [Unit.isCompound]
  exact read_of_nameTokens (isBuiltIn_of_units hbuiltIn) hflat rfl

/-- A text that a compound is read from shows the signs of the compound. -/
lemma isCompoundName_of_read {text : String} {c : Compound α} (h : read text = .ok c) :
    isCompoundName text = (Unit.compound c).isJoined := by
  have hsign : ∀ a, (!Text.isBlank a && (Join.ofChar? a).isSome) = (Join.ofChar? a).isSome := by
    intro a
    cases ha : (Join.ofChar? a).isSome with
    | false => exact Bool.and_false _
    | true =>
      rw [isBlank_eq_false_of_isSome_ofChar? ha]
      rfl
  rw [← (hasSpelling_of_read h).any_sign_eq, isCompoundName, List.any_filter]
  simp only [hsign]

end Compound

/-! ### Texts of units -/

/-- The text is a name of a built-in unit with any blanks around it, or a compound of such units
with a sign at least is written in it. -/
inductive Unit.HasText : Unit α → List Char → Prop where
  | simple {u : SimpleUnit α} {b s b' : List Char} (hb : Text.IsBlanks b) (hu : u.HasName s)
      (hb' : Text.IsBlanks b') : HasText (.simple u) (b ++ s ++ b')
  | compound {c : Compound α} {s : List Char} (hj : (Unit.compound c).isJoined = true)
      (hc : c.HasText s) : HasText (.compound c) s

lemma nameTokens_strip (s : String) : nameTokens (Text.strip s).toList = nameTokens s.toList := by
  obtain ⟨b, b', hb, hb', hs⟩ := Text.exists_eq_append_strip s
  rw [hs, nameTokens_append_blanks _ hb', nameTokens_blanks_append hb]

/-- Blanks are no signs. -/
lemma isCompoundName_strip (s : String) : isCompoundName (Text.strip s) = isCompoundName s := by
  have hblanks : ∀ {b : List Char}, Text.IsBlanks b →
      (b.any fun c => (Join.ofChar? c).isSome) = false := by
    intro b hb
    rw [List.any_eq_false]
    intro c hc hsign
    have hblank := hb c hc
    rw [isBlank_eq_false_of_isSome_ofChar? hsign] at hblank
    cases hblank
  obtain ⟨b, b', hb, hb', hs⟩ := Text.exists_eq_append_strip s
  simp [isCompoundName, hs, hblanks hb, hblanks hb']

namespace Unit

lemma hasText_of_read {name : String} {u : Unit α} (h : read name = .ok u) :
    u.HasText name.toList := by
  rw [read] at h
  split at h
  · next hsign =>
    obtain ⟨c, hc, h⟩ := bind_eq_ok.mp h
    cases h
    exact .compound (Compound.isCompoundName_of_read hc ▸ hsign)
      (Compound.hasText_of_read hc (nameTokens_strip name).symm)
  · obtain ⟨v, hv, h⟩ := bind_eq_ok.mp h
    cases h
    obtain ⟨b, b', hb, hb', hname⟩ := Text.exists_eq_append_strip name
    rw [hname]
    exact .simple hb (SimpleUnit.hasName_of_resolve hv) hb'

lemma HasText.read_eq {name : String} {u : Unit α} (h : u.HasText name.toList) :
    read name = .ok u := by
  rw [read]
  generalize hs : name.toList = s at h
  cases h with
  | @simple v b w b' hb hv hb' =>
    have hw : v.HasName (String.ofList w).toList := by rwa [String.toList_ofList]
    rw [Text.strip_of_isWord_of_isBlanks hs hb hv.isWord hb', isCompoundName, hw.any_sign_eq,
      if_neg Bool.false_ne_true, hw.resolve_eq]
    rfl
  | compound hj hc =>
    have htokens : nameTokens (Text.strip name).toList = nameTokens s := by
      rw [nameTokens_strip, hs]
    have hread := hc.read_of_nameTokens htokens
    rw [if_pos ((Compound.isCompoundName_of_read hread).trans hj), hread]
    rfl

/-- The unit is read from the texts that it is written in, and from no others. -/
lemma read_eq_ok_iff_hasText {name : String} {u : Unit α} :
    read name = .ok u ↔ u.HasText name.toList :=
  ⟨hasText_of_read, HasText.read_eq⟩

/-- A text without signs in which no unit is written holds an unknown name. -/
lemma read_eq_error_of_unknown {name : String} (hsign : isCompoundName name = false)
    (h : ∀ u : Unit α, ¬ u.HasText name.toList) :
    (read name : Result α (Unit α)) = .error (.unknownUnit (Text.strip name)) := by
  cases hread : (read name : Result α (Unit α)) with
  | ok u => exact absurd (read_eq_ok_iff_hasText.mp hread) (h u)
  | error f =>
    simp only [read, isCompoundName_strip, hsign, Bool.false_eq_true, if_false] at hread
    unfold SimpleUnit.resolve at hread
    split at hread
    · cases hread
    · exact hread.symm

/-- A text with signs is read as a compound. -/
lemma read_of_isCompoundName {name : String} (hsign : isCompoundName name = true) :
    (read name : Result α (Unit α)) =
      Compound.read (Text.strip name) >>= fun c => .ok (.compound c) := by
  simp only [read, isCompoundName_strip, hsign, if_true]
  rfl

/-- What is read is read again from its name. -/
lemma read_name_of_read {name : String} {u : Unit α} (h : read name = .ok u) :
    read u.name = .ok u :=
  have hu := isLayered_of_read h
  read_name hu.isBuiltIn hu.isPlain (isFlat_of_read h)

end Unit

/-! ### The grammar -/

/-- A compound is read from exactly the texts that it is written in; any other text is refused as
unreadable. Names are normal forms: what is read, as a compound or as any unit, is read again from
its name. -/
theorem Compound.read_iff_hasText (text : String) :
    (∀ c : Compound α, read text = .ok c ↔ c.HasText text.toList) ∧
      (∀ f : Fault α, read text = .error f → ∃ why, f = .unreadable text why) ∧
      (∀ c : Compound α, read text = .ok c → read c.name = .ok c) ∧
      ∀ u : Unit α, Unit.read text = .ok u → Unit.read u.name = .ok u :=
  ⟨fun _ => read_eq_ok_iff_hasText, (yields_read text).fault, fun _ => read_name_of_read,
    fun _ => Unit.read_name_of_read⟩

/-- The text ` kilometers*kg /hr ` is read as the compound with the name `km * kg / hr`. -/
theorem Compound.read_of_blanks_and_aliases :
    ∃ c : Compound Rat, read " kilometers*kg /hr " = .ok c ∧
      c.HasText " kilometers*kg /hr ".toList ∧ c.name = "km * kg / hr" ∧
      read c.name = .ok c := by
  have hblank : Text.IsBlanks [' '] := by decide
  have hkilometer : SimpleUnit.HasName (α := Rat) .kilometer "kilometers".toList := rfl
  have hkilogram : SimpleUnit.HasName (α := Rat) .kilogram "kg".toList := rfl
  have hhour : SimpleUnit.HasName (α := Rat) .hour "hr".toList := rfl
  have hwritten := ((IsWritten.single hblank hkilometer).snoc Text.isBlanks_nil Text.isBlanks_nil
    hkilogram (j := .times)).snoc hblank Text.isBlanks_nil hhour (j := .per)
  have htext := (⟨_, [' '], hwritten, hblank, by decide⟩ :
    HasText _ " kilometers*kg /hr ".toList)
  obtain ⟨hiff, -, hname, -⟩ := read_iff_hasText (α := Rat) " kilometers*kg /hr "
  have hread := (hiff _).mpr htext
  exact ⟨_, hread, htext, rfl, hname _ hread⟩

end Metrology
