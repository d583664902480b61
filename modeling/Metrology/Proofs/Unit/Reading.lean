import Metrology.Proofs.Unit.Layered
import Metrology.Unit.Reading

/-!
# Units that are read

A name without signs is read as a simple unit, and one with signs as a compound of two or more
simple units. So what is read is layered.
-/

namespace Metrology

variable {α : Type} [Magnitude α]

/-! ### Tokens -/

lemma isBlank_eq_false_of_isSome_ofChar? {c : Char} (h : (Join.ofChar? c).isSome = true) :
    Text.isBlank c = false := by
  unfold Join.ofChar? at h
  split at h
  · next hc =>
    rw [hc]
    decide
  · split at h
    · next hc =>
      rw [hc]
      decide
    · cases h

lemma mem_consNameChar {j : Join} {c : Char} {behind : List Char} {ts : List NameToken}
    (h : .sign j ∈ ts) : .sign j ∈ consNameChar c behind ts := by
  unfold consNameChar
  split
  · simpa using h
  · exact List.mem_cons_of_mem _ h

/-- A sign in a text is one of the text's tokens. -/
lemma exists_sign_mem_nameTokens {s : List Char}
    (h : ∃ c ∈ s, (Join.ofChar? c).isSome = true) : ∃ j, .sign j ∈ nameTokens s := by
  induction s with
  | nil => simp at h
  | cons a s ih =>
    rw [nameTokens]
    cases ha : Join.ofChar? a with
    | some j =>
      rw [isBlank_eq_false_of_isSome_ofChar? (by simp [ha])]
      exact ⟨j, List.mem_cons_self⟩
    | none =>
      obtain ⟨j, hj⟩ := ih (by simpa [ha] using h)
      refine ⟨j, ?_⟩
      split
      · exact hj
      · exact mem_consNameChar hj

/-! ### Simple units -/

lemma UnitTable.mem_of_find?_builtIn {name : String} {u : SimpleUnit α}
    (h : UnitTable.builtIn.find? name = some u) : u ∈ SimpleUnit.builtIn := by
  obtain ⟨l₁, l₂, hl, -⟩ := List.lookup_eq_some_iff.mp h
  have hmem : (name, u) ∈ (UnitTable.builtIn : UnitTable α) := by
    rw [hl]
    simp
  obtain ⟨v, hv, hname⟩ := List.mem_flatMap.mp hmem
  obtain ⟨_, -, heq⟩ := List.mem_map.mp hname
  cases heq
  exact hv

lemma SimpleUnit.mem_builtIn_of_resolve {name : String} {u : SimpleUnit α}
    (h : resolve name = .ok u) : u ∈ builtIn := by
  unfold resolve at h
  split at h
  · next hfind =>
    cases h
    exact UnitTable.mem_of_find?_builtIn hfind
  · cases h

/-! ### Compounds -/

namespace Compound

lemma exists_simple_of_readComponent {text : String} {name : List Char} {u : Unit α}
    (h : readComponent text name = .ok u) : ∃ v ∈ SimpleUnit.builtIn, u = .simple v := by
  unfold readComponent at h
  split at h
  · next v hfind =>
    cases h
    exact ⟨v, UnitTable.mem_of_find?_builtIn hfind, rfl⟩
  · cases h

/-- Two tokens, a sign and a name, are read for each further component. -/
lemma units_of_readRest {text : String} {c d : Compound α} {token : Nat} {ts : List NameToken}
    (h : readRest text c token ts = .ok d) :
    ∃ us : List (SimpleUnit α), (∀ u ∈ us, u ∈ SimpleUnit.builtIn) ∧
      ts.length = 2 * us.length ∧ d.units = c.units ++ us.map .simple := by
  match ts with
  | [] =>
    cases h
    exact ⟨[], by simp⟩
  | .name s :: r => simp [readRest] at h
  | [.sign j] => simp [readRest] at h
  | .sign j :: .sign k :: r => simp [readRest] at h
  | .sign j :: .name s :: r =>
    rw [readRest, bind_eq_ok] at h
    obtain ⟨u, hu, h⟩ := h
    obtain ⟨v, hv, rfl⟩ := exists_simple_of_readComponent hu
    obtain ⟨us, hus, hlength, hd⟩ := units_of_readRest h
    refine ⟨v :: us, List.forall_mem_cons.mpr ⟨hv, hus⟩, ?_, ?_⟩
    · simp only [List.length_cons, hlength]
      omega
    · simp [hd]

lemma units_of_read {text : String} {c : Compound α} (h : read text = .ok c) :
    ∃ (u : SimpleUnit α) (us : List (SimpleUnit α)), u ∈ SimpleUnit.builtIn ∧
      (∀ u ∈ us, u ∈ SimpleUnit.builtIn) ∧ (∃ s r, nameTokens text.toList = .name s :: r ∧
        r.length = 2 * us.length) ∧ c.units = .simple u :: us.map .simple := by
  unfold read at h
  split at h
  · cases h
  · cases h
  · next s r htokens =>
    obtain ⟨u, hu, h⟩ := bind_eq_ok.mp h
    obtain ⟨v, hv, rfl⟩ := exists_simple_of_readComponent hu
    obtain ⟨us, hus, hlength, hc⟩ := units_of_readRest h
    exact ⟨v, us, hv, hus, ⟨s, r, htokens, hlength⟩, by simpa using hc⟩

lemma isLayered_of_read {text : String} {c : Compound α} (hsign : isCompoundName text = true)
    (h : read text = .ok c) : (Unit.compound c).IsLayered := by
  obtain ⟨u, us, hu, hus, ⟨s, r, htokens, hlength⟩, hc⟩ := units_of_read h
  obtain ⟨j, hj⟩ := exists_sign_mem_nameTokens (by simpa [isCompoundName] using hsign)
  cases us with
  | nil =>
    obtain rfl : r = [] := List.length_eq_zero_iff.mp hlength
    simp [htokens] at hj
  | cons v vs =>
    obtain ⟨hv, hvs⟩ := List.forall_mem_cons.mp hus
    exact .compound hu (.simple hv) hvs hc

end Compound

lemma Unit.isLayered_of_read {name : String} {u : Unit α} (h : read name = .ok u) :
    u.IsLayered := by
  simp only [read] at h
  split at h
  · next hsign =>
    obtain ⟨c, hc, h⟩ := bind_eq_ok.mp h
    cases h
    exact Compound.isLayered_of_read hsign hc
  · obtain ⟨v, hv, h⟩ := bind_eq_ok.mp h
    cases h
    exact .simple (SimpleUnit.mem_builtIn_of_resolve hv)

/-- What is read is not nested. -/
lemma Unit.isFlat_of_read {name : String} {u : Unit α} (h : read name = .ok u) : u.IsFlat := by
  simp only [read] at h
  split at h
  · obtain ⟨c, hc, h⟩ := bind_eq_ok.mp h
    cases h
    obtain ⟨v, vs, -, -, -, hunits⟩ := Compound.units_of_read hc
    have hflat : ∀ u ∈ c.units, u.isCompound = false := by
      rw [hunits]
      simp [isCompound]
    exact hflat
  · obtain ⟨v, -, h⟩ := bind_eq_ok.mp h
    cases h
    exact trivial

end Metrology
