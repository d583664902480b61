import Metrology.Proofs.Unit.Name

/-!
# Units as their names read

The name of a unit reads as a plain compound: a leading compound is continued by what follows it,
and so is a later component that has no parentheses though its name holds a sign. Such a component
is a compound of one component. Where it is divided out, its further factors read as if they were
not, and the dimensions of the unit are not those its name shows.
-/

namespace Metrology

variable {α : Type}

/-! ### Reading a name -/

/-- Continue a compound with the components of another, the first of them behind a sign. -/
def Compound.splice (c : Compound α) (j : Join) : Compound α → Compound α
  | .single u => c.snoc j u
  | .snoc d k u => (c.splice j d).snoc k u

@[simp] lemma Compound.splice_single (c : Compound α) (j : Join) (u : Unit α) :
    c.splice j (.single u) = c.snoc j u := by simp [Compound.splice]

@[simp] lemma Compound.splice_snoc (c d : Compound α) (j k : Join) (u : Unit α) :
    c.splice j (d.snoc k u) = (c.splice j d).snoc k u := by simp [Compound.splice]

mutual

/-- The plain compound that the name shows. -/
def Unit.asWritten : Unit α → Compound α
  | .simple u => .single (.simple u)
  | .compound c => c.asWritten

/-- The plain compound that the name of a compound shows. -/
def Compound.asWritten : Compound α → Compound α
  | .single u => u.asWritten
  | .snoc c j u =>
    if u.isJoined then c.asWritten.snoc j (.compound u.asWritten)
    else c.asWritten.splice j u.asWritten

end

@[simp] lemma Unit.asWritten_simple (u : SimpleUnit α) :
    (Unit.simple u).asWritten = .single (.simple u) := by simp [Unit.asWritten]

@[simp] lemma Unit.asWritten_compound (c : Compound α) :
    (Unit.compound c).asWritten = c.asWritten := by simp [Unit.asWritten]

@[simp] lemma Compound.asWritten_single (u : Unit α) :
    (Compound.single u).asWritten = u.asWritten := by simp [Compound.asWritten]

lemma Compound.asWritten_snoc_of_isJoined (c : Compound α) (j : Join) {u : Unit α}
    (h : u.isJoined = true) :
    (c.snoc j u).asWritten = c.asWritten.snoc j (.compound u.asWritten) := by
  simp [Compound.asWritten, h]

lemma Compound.asWritten_snoc_of_not_isJoined (c : Compound α) (j : Join) {u : Unit α}
    (h : u.isJoined = false) : (c.snoc j u).asWritten = c.asWritten.splice j u.asWritten := by
  simp [Compound.asWritten, h]

/-! ### The compound has the name and is plain -/

lemma Compound.isJoined_splice (c d : Compound α) (j : Join) :
    (Unit.compound (c.splice j d)).isJoined = true := by
  cases d with
  | single u => simp [Unit.isJoined]
  | snoc d k u => simp [Unit.isJoined]

lemma Unit.isJoined_asWritten {u : Unit α} (h : u.isJoined = true) :
    (Unit.compound u.asWritten).isJoined = true := by
  match u with
  | .simple u => simp [isJoined] at h
  | .compound (.single u) => simp [isJoined] at h
  | .compound (.snoc c j u) =>
    rw [Unit.asWritten_compound]
    cases hu : u.isJoined with
    | true => simp [Compound.asWritten_snoc_of_isJoined c j hu, isJoined]
    | false =>
      rw [Compound.asWritten_snoc_of_not_isJoined c j hu]
      exact Compound.isJoined_splice _ _ _

lemma Compound.isPlain_splice {c d : Compound α} (j : Join) (hc : c.IsPlain) (hd : d.IsPlain) :
    (c.splice j d).IsPlain := by
  match d with
  | .single u =>
    obtain ⟨v, rfl⟩ := (Compound.isPlain_single u).mp hd
    simp [hc]
  | .snoc d k u =>
    rw [Compound.isPlain_snoc] at hd
    simp [Compound.isPlain_splice j hc hd.1, hd.2]

mutual

lemma Unit.isPlain_asWritten (u : Unit α) : u.asWritten.IsPlain := by
  match u with
  | .simple u => simp
  | .compound c =>
    rw [Unit.asWritten_compound]
    exact Compound.isPlain_asWritten c

lemma Compound.isPlain_asWritten (c : Compound α) : c.asWritten.IsPlain := by
  match c with
  | .single u =>
    rw [Compound.asWritten_single]
    exact Unit.isPlain_asWritten u
  | .snoc c j u =>
    cases h : u.isJoined with
    | true =>
      rw [Compound.asWritten_snoc_of_isJoined c j h]
      simp [Compound.isPlain_asWritten c, Unit.isPlain_asWritten u, Unit.isJoined_asWritten h]
    | false =>
      rw [Compound.asWritten_snoc_of_not_isJoined c j h]
      exact Compound.isPlain_splice j (Compound.isPlain_asWritten c) (Unit.isPlain_asWritten u)

end

/-- Behind a sign, a plain compound adds its name. -/
lemma Compound.name_splice (c : Compound α) (j : Join) {d : Compound α} (hd : d.IsPlain) :
    (c.splice j d).name = c.name ++ " " ++ j.sign ++ " " ++ d.name := by
  match d with
  | .single u =>
    obtain ⟨v, rfl⟩ := (Compound.isPlain_single u).mp hd
    simp [Compound.name_snoc]
  | .snoc d k u =>
    rw [Compound.isPlain_snoc] at hd
    simp [Compound.name_snoc, Compound.name_splice c j hd.1, String.append_assoc]

lemma Unit.component_of_not_isJoined {u : Unit α} (h : u.isJoined = false) :
    u.component = u.name := by simp [component, h]

mutual

lemma Unit.name_asWritten (u : Unit α) : u.asWritten.name = u.name := by
  match u with
  | .simple u => simp
  | .compound c => simp [Compound.name_asWritten c]

lemma Compound.name_asWritten (c : Compound α) : c.asWritten.name = c.name := by
  match c with
  | .single u => simp [Unit.name_asWritten u]
  | .snoc c j u =>
    cases h : u.isJoined with
    | true =>
      rw [Compound.asWritten_snoc_of_isJoined c j h, Compound.name_snoc, Compound.name_snoc,
        Compound.name_asWritten c]
      simp [Unit.component, Unit.isJoined_asWritten h, h, Unit.name_asWritten u]
    | false =>
      rw [Compound.asWritten_snoc_of_not_isJoined c j h,
        Compound.name_splice _ _ (Unit.isPlain_asWritten u), Compound.name_snoc,
        Compound.name_asWritten c, Unit.name_asWritten u, Unit.component_of_not_isJoined h]

end

end Metrology
