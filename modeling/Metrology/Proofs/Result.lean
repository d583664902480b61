import Mathlib.Tactic.Lemma
import Metrology.Fault

/-!
# Results

Steps that may fail, taken apart: a chain of them succeeds exactly if each step does. What is known
of the values and the faults of single steps is known of the chain.
-/

namespace Metrology

variable {ε β γ : Type}

@[simp] lemma ok_bind (b : β) (f : β → Except ε γ) : (Except.ok b >>= f) = f b := rfl

@[simp] lemma error_bind (e : ε) (f : β → Except ε γ) :
    (Except.error e >>= f) = Except.error e := rfl

@[simp] lemma bind_ok (x : Except ε β) : (x >>= fun b => Except.ok b) = x := by
  cases x <;> rfl

@[simp] lemma pure_eq_ok (b : β) : (pure b : Except ε β) = Except.ok b := rfl

@[simp] lemma throw_eq_error (e : ε) : (throw e : Except ε β) = Except.error e := rfl

lemma bind_eq_ok {x : Except ε β} {f : β → Except ε γ} {c : γ} :
    x >>= f = .ok c ↔ ∃ b, x = .ok b ∧ f b = .ok c := by
  cases x with
  | error e => simp
  | ok b => simp

lemma eq_ok_of_toOption_eq_some {x : Except ε β} {b : β} (h : x.toOption = some b) : x = .ok b := by
  cases x with
  | error e => cases h
  | ok c => exact congrArg Except.ok (Option.some.inj h)

lemma length_eq_of_mapM_eq_ok {f : β → Except ε γ} {l : List β} {l' : List γ}
    (h : l.mapM f = .ok l') : l.length = l'.length := by
  induction l generalizing l' with
  | nil =>
    obtain rfl : [] = l' := by simpa using h
    rfl
  | cons b l ih =>
    rw [List.mapM_cons, bind_eq_ok] at h
    obtain ⟨c, -, h⟩ := h
    rw [bind_eq_ok] at h
    obtain ⟨l'', hl, h⟩ := h
    cases h
    simp [ih hl]

/-- What a result is can be read off two descriptions, one of values and one of faults, if one of
them always applies. -/
lemma eq_ok_iff_and_eq_error_iff {x : Except ε β} {P : β → Prop} {E : ε → Prop}
    (hok : ∀ b, P b → x = .ok b) (herror : ∀ e, E e → x = .error e)
    (h : (∃ b, P b) ∨ ∃ e, E e) : (∀ b, x = .ok b ↔ P b) ∧ ∀ e, x = .error e ↔ E e := by
  refine ⟨fun b => ⟨fun hx => ?_, hok b⟩, fun e => ⟨fun hx => ?_, herror e⟩⟩
  · rcases h with ⟨c, hc⟩ | ⟨e, he⟩
    · obtain rfl : c = b := Except.ok.inj ((hok c hc).symm.trans hx)
      exact hc
    · cases (herror e he).symm.trans hx
  · rcases h with ⟨c, hc⟩ | ⟨f, hf⟩
    · cases (hok c hc).symm.trans hx
    · obtain rfl : f = e := Except.error.inj ((herror f hf).symm.trans hx)
      exact hf

/-! ### What results may be -/

/-- A value of the result has the one property, a fault the other. -/
structure Yields (E : ε → Prop) (P : β → Prop) (x : Except ε β) : Prop where
  value : ∀ b, x = .ok b → P b
  fault : ∀ e, x = .error e → E e

section Yields

variable {E E' : ε → Prop} {P P' : β → Prop} {Q : γ → Prop} {x : Except ε β}

@[simp] lemma yields_ok {b : β} : Yields E P (.ok b) ↔ P b := by
  constructor
  · intro h
    exact h.value b rfl
  · intro hb
    exact ⟨fun c hc => Except.ok.inj hc ▸ hb, nofun⟩

@[simp] lemma yields_error {e : ε} : Yields E P (.error e) ↔ E e := by
  constructor
  · intro h
    exact h.fault e rfl
  · intro he
    exact ⟨nofun, fun f hf => Except.error.inj hf ▸ he⟩

lemma Yields.bind {f : β → Except ε γ} (h : Yields E P x)
    (hf : ∀ b, x = .ok b → P b → Yields E Q (f b)) : Yields E Q (x >>= f) := by
  cases x with
  | error e => exact yields_error.mpr (h.fault e rfl)
  | ok b => exact hf b rfl (h.value b rfl)

lemma Yields.mono (h : Yields E P x) (hE : ∀ e, E e → E' e) (hP : ∀ b, P b → P' b) :
    Yields E' P' x :=
  ⟨fun b hb => hP b (h.value b hb), fun e he => hE e (h.fault e he)⟩

lemma yields_mapM {f : β → Except ε γ} {l : List β} (h : ∀ b ∈ l, Yields E Q (f b)) :
    Yields E (fun cs => ∀ c ∈ cs, Q c) (l.mapM f) := by
  induction l with
  | nil => exact yields_ok.mpr (by simp)
  | cons b l ih =>
    obtain ⟨hb, hl⟩ := List.forall_mem_cons.mp h
    rw [List.mapM_cons]
    refine hb.bind fun c _ hc => (ih hl).bind fun cs _ hcs => ?_
    exact yields_ok.mpr (List.forall_mem_cons.mpr ⟨hc, hcs⟩)

end Yields

end Metrology
