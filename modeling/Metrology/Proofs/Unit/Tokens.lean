import Metrology.Proofs.Text.Blank
import Metrology.Unit.Reading

/-!
# Tokens of names

A text is cut into tokens piece by piece: where the next character cannot continue a name, the
tokens of what is before it and of what is behind it are independent.
-/

namespace Metrology

/-! ### Characters of names -/

lemma isNameChar_of_isAlpha {c : Char} (h : c.isAlpha = true) : isNameChar c = true := by
  have hsign : Join.ofChar? c = none := by
    unfold Join.ofChar?
    split
    · next hc =>
      rw [hc] at h
      cases h
    · split
      · next hc =>
        rw [hc] at h
        cases h
      · rfl
  simp [isNameChar, Text.isBlank_of_isAlpha h, hsign]

lemma Join.toList_sign_of_ofChar? {c : Char} {j : Join} (h : ofChar? c = some j) :
    j.sign.toList = [c] := by
  unfold ofChar? at h
  split at h
  · next hc =>
    cases h
    rw [hc]
    rfl
  · split at h
    · next hc =>
      cases h
      rw [hc]
      rfl
    · cases h

lemma Join.not_isNameChar_sign (j : Join) (s : List Char) :
    ∀ c ∈ (j.sign.toList ++ s).head?, isNameChar c = false := by
  cases j <;> simp [Join.sign, isNameChar, Join.ofChar?]

lemma consNameChar_of_not_isNameChar {c : Char} {s : List Char} {ts : List NameToken}
    (h : ∀ a ∈ s.head?, isNameChar a = false) : consNameChar c s ts = .name [c] :: ts := by
  have hs : s.head?.any isNameChar = false := by
    cases s with
    | nil => rfl
    | cons a s => simpa using h
  unfold consNameChar
  rw [hs]
  split
  · simp_all
  · rfl

lemma consNameChar_name {c a : Char} (h : isNameChar a = true) (s w : List Char)
    (ts : List NameToken) : consNameChar c (a :: s) (.name w :: ts) = .name (c :: w) :: ts := by
  simp [consNameChar, h]

/-! ### One character -/

lemma nameTokens_cons_blank {c : Char} (h : Text.isBlank c = true) (s : List Char) :
    nameTokens (c :: s) = nameTokens s := by
  rw [nameTokens, if_pos h]

/-- A text that begins with a character of a name begins with a name. -/
lemma nameTokens_cons_isNameChar {c : Char} (h : isNameChar c = true) (s : List Char) :
    ∃ w ts, nameTokens (c :: s) = .name (c :: w) :: ts := by
  have hparts : Text.isBlank c = false ∧ Join.ofChar? c = none := by
    simpa [isNameChar] using h
  rw [nameTokens, if_neg (by simp [hparts.1]), hparts.2]
  cases s with
  | nil => exact ⟨[], nameTokens [], rfl⟩
  | cons a s =>
    by_cases ha : isNameChar a = true
    · obtain ⟨w, ts, hw⟩ := nameTokens_cons_isNameChar ha s
      exact ⟨a :: w, ts, by rw [hw, consNameChar_name ha]⟩
    · exact ⟨[], nameTokens (a :: s), consNameChar_of_not_isNameChar (by simpa using ha)⟩

/-! ### Two texts -/

/-- Where a text does not go on with a name, its tokens can be found on their own. -/
lemma nameTokens_append (s : List Char) {t : List Char}
    (h : ∀ c ∈ t.head?, isNameChar c = false) :
    nameTokens (s ++ t) = nameTokens s ++ nameTokens t := by
  induction s with
  | nil => rfl
  | cons c s ih =>
    rw [List.cons_append, nameTokens, nameTokens, ih]
    split
    · rfl
    · split
      · rfl
      · cases s with
        | nil =>
          rw [List.nil_append, consNameChar_of_not_isNameChar h,
            consNameChar_of_not_isNameChar (by simp)]
          rfl
        | cons a s =>
          by_cases ha : isNameChar a = true
          · obtain ⟨w, ts, hw⟩ := nameTokens_cons_isNameChar ha s
            rw [hw, List.cons_append, List.cons_append, consNameChar_name ha,
              consNameChar_name ha, List.cons_append]
          · have hhead : ∀ r : List Char, ∀ b ∈ (a :: r).head?, isNameChar b = false := by
              intro r b hb
              obtain rfl : a = b := by simpa using hb
              simpa using ha
            rw [List.cons_append, consNameChar_of_not_isNameChar (hhead _),
              consNameChar_of_not_isNameChar (hhead _), List.cons_append]

/-- A word of name characters is one token. -/
lemma nameTokens_word {w : List Char} (hne : w ≠ []) (hw : ∀ c ∈ w, isNameChar c = true) :
    nameTokens w = [.name w] := by
  induction w with
  | nil => exact absurd rfl hne
  | cons c w ih =>
    obtain ⟨hc, hw⟩ := List.forall_mem_cons.mp hw
    have hparts : Text.isBlank c = false ∧ Join.ofChar? c = none := by
      simpa [isNameChar] using hc
    rw [nameTokens, if_neg (by simp [hparts.1]), hparts.2]
    cases w with
    | nil => rfl
    | cons a w =>
      rw [ih (by simp) hw]
      exact consNameChar_name (hw a List.mem_cons_self) w (a :: w) []

/-- A sign is one token. -/
lemma nameTokens_sign_append (j : Join) (s : List Char) :
    nameTokens (j.sign.toList ++ s) = .sign j :: nameTokens s := by
  cases j <;> simp [Join.sign, nameTokens, Text.isBlank, Join.ofChar?]

/-- A sign between blanks separates the tokens before it from those behind it. -/
lemma nameTokens_append_sign (s t : List Char) (j : Join) :
    nameTokens (s ++ ' ' :: j.sign.toList ++ [' '] ++ t) =
      nameTokens s ++ .sign j :: nameTokens t := by
  have hblank : Text.isBlank ' ' = true := by decide
  have hsplit : s ++ ' ' :: j.sign.toList ++ [' '] ++ t =
      s ++ (' ' :: (j.sign.toList ++ ' ' :: t)) := by simp
  rw [hsplit, nameTokens_append s (by simp [isNameChar, hblank]), nameTokens_cons_blank hblank,
    nameTokens_sign_append, nameTokens_cons_blank hblank]

end Metrology
