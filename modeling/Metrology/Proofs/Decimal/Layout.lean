import Metrology.Decimal.Layout
import Metrology.Decimal.Literal
import Metrology.Proofs.Text.Blank

/-!
# The characters of a number

A number is written with decimal digits and a few marks, in any layout. None of them is a blank, so
that a number is one word.
-/

namespace Metrology.Decimal

/-- The characters other than digits that stand in numbers. -/
def marks : List Char := ['-', '+', '.', 'e', 'i', 'n', 'f', 'a']

/-- Does the character stand in numbers? -/
def IsNumeral (c : Char) : Prop := c.isDigit = true ∨ c ∈ marks

lemma isNumeral_of_mem_marks {c : Char} (h : c ∈ marks) : IsNumeral c := .inr h

lemma isNumeral_of_mem_toDigits {n : Nat} {c : Char} (h : c ∈ Nat.toDigits 10 n) : IsNumeral c :=
  .inl (Nat.isDigit_of_mem_toDigits (by decide) (by decide) h)

lemma isNumeral_of_mem_replicate {n : Nat} {c : Char} (h : c ∈ List.replicate n '0') :
    IsNumeral c := by
  rw [List.eq_of_mem_replicate h]
  exact .inl rfl

lemma IsNumeral.isBlank {c : Char} (h : IsNumeral c) : Text.isBlank c = false := by
  rcases h with h | h
  · exact Text.isBlank_of_isDigit h
  · simp only [marks, List.mem_cons, List.not_mem_nil, or_false] at h
    rcases h with rfl | rfl | rfl | rfl | rfl | rfl | rfl | rfl <;> decide

/-! ### Layouts -/

lemma isNumeral_of_mem_exponentText {e : Int} {c : Char} (h : c ∈ exponentText e) :
    IsNumeral c := by
  simp only [exponentText, List.cons_append, List.mem_cons, List.mem_append] at h
  rcases h with rfl | h | h
  · split <;> exact isNumeral_of_mem_marks (by decide)
  · exact isNumeral_of_mem_replicate h
  · exact isNumeral_of_mem_toDigits h

lemma isNumeral_of_mem_pointed {keepsPoint : Bool} {whole behind : List Char} {c : Char}
    (hwhole : ∀ c ∈ whole, IsNumeral c) (hbehind : ∀ c ∈ behind, IsNumeral c)
    (h : c ∈ pointed keepsPoint whole behind) : IsNumeral c := by
  have hpoint : IsNumeral '.' := isNumeral_of_mem_marks (by decide)
  unfold pointed at h
  split at h
  · split at h
    · simp only [List.mem_append, List.mem_cons, List.not_mem_nil, or_false] at h
      rcases h with h | rfl | rfl
      · exact hwhole c h
      · exact hpoint
      · exact .inl rfl
    · exact hwhole c h
  · rw [List.mem_append, List.mem_cons] at h
    rcases h with h | rfl | h
    · exact hwhole c h
    · exact hpoint
    · exact hbehind c h

lemma Layout.isNumeral_of_mem_positive {l : Layout} {s : Significand} {c : Char}
    (h : c ∈ l.positive s) : IsNumeral c := by
  have htake : ∀ {n : Nat}, ∀ c ∈ (Nat.toDigits 10 s.digits).take n, IsNumeral c :=
    fun c hc => isNumeral_of_mem_toDigits (List.mem_of_mem_take hc)
  have hdrop : ∀ {n : Nat}, ∀ c ∈ (Nat.toDigits 10 s.digits).drop n, IsNumeral c :=
    fun c hc => isNumeral_of_mem_toDigits (List.mem_of_mem_drop hc)
  simp only [positive] at h
  split at h
  · rw [List.mem_append, List.mem_cons] at h
    rcases h with h | rfl | h
    · exact isNumeral_of_mem_pointed htake hdrop h
    · exact isNumeral_of_mem_marks (by decide)
    · exact isNumeral_of_mem_exponentText h
  · split at h
    · refine isNumeral_of_mem_pointed ?_ ?_ h
      · intro c hc
        rw [List.mem_singleton.mp hc]
        exact .inl rfl
      · exact List.forall_mem_append.mpr
          ⟨fun c hc => isNumeral_of_mem_replicate hc, fun c hc => isNumeral_of_mem_toDigits hc⟩
    · refine isNumeral_of_mem_pointed ?_ hdrop h
      exact List.forall_mem_append.mpr ⟨htake, fun c hc => isNumeral_of_mem_replicate hc⟩

/-- A double is written with digits and marks only. -/
lemma Layout.isNumeral_of_mem_write {l : Layout} {digits : Nat → Int → Bool → Significand}
    {p : Parts} {c : Char} (h : c ∈ l.write digits p) : IsNumeral c := by
  have hsign : ∀ {negative : Bool}, c ∈ (if negative then ['-'] else []) → IsNumeral c := by
    intro negative hc
    cases negative with
    | false => simp at hc
    | true => exact isNumeral_of_mem_marks (by simp_all [marks])
  cases p with
  | nan =>
    simp only [write, List.mem_cons, List.not_mem_nil, or_false] at h
    exact isNumeral_of_mem_marks (by rcases h with rfl | rfl | rfl <;> decide)
  | infinite negative =>
    simp only [write, List.mem_append, List.mem_cons, List.not_mem_nil, or_false] at h
    rcases h with h | h
    · exact hsign h
    · exact isNumeral_of_mem_marks (by rcases h with rfl | rfl | rfl <;> decide)
  | finite negative m q narrowBelow =>
    simp only [write, List.mem_append] at h
    rcases h with h | h
    · exact hsign h
    · split at h
      · refine isNumeral_of_mem_pointed ?_ (by simp) h
        intro c hc
        rw [List.mem_singleton.mp hc]
        exact .inl rfl
      · exact isNumeral_of_mem_positive h

/-- The text of a double is one word. -/
lemma isBlank_of_mem_exactText {x : Float} {c : Char} (h : c ∈ (exactText x).toList) :
    Text.isBlank c = false := by
  rw [exactText, String.toList_ofList] at h
  exact (Layout.isNumeral_of_mem_write h).isBlank

lemma isBlank_of_mem_briefText {x : Float} {c : Char} (h : c ∈ (briefText x).toList) :
    Text.isBlank c = false := by
  rw [briefText, String.toList_ofList] at h
  exact (Layout.isNumeral_of_mem_write h).isBlank

/-! ### Reading a word -/

/-- A word has no blanks around it that could be ignored. -/
lemma dropPadding_eq_self {s : List Char} (h : ∀ c ∈ s, Text.isBlank c = false) :
    dropPadding s = s := by
  have hpad : ∀ {t : List Char}, (∀ c ∈ t, Text.isBlank c = false) → t.dropWhile isPadding = t := by
    intro t ht
    cases t with
    | nil => rfl
    | cons c r => simp [isPadding, ht c List.mem_cons_self]
  rw [dropPadding, hpad h, hpad (by simpa using h), List.reverse_reverse]

/-- A text without blanks is read as a double by its literal. -/
lemma literal?_of_readFloat? {text : String} {y : Float}
    (htext : ∀ c ∈ text.toList, Text.isBlank c = false) (h : readFloat? text = some y) :
    text.toList ≠ [] ∧ ∃ l, literal? text.toList = some l ∧ l.toFloat = y := by
  rw [readFloat?, dropPadding_eq_self htext, Option.map_eq_some_iff] at h
  refine ⟨?_, h⟩
  intro hnil
  rw [hnil] at h
  obtain ⟨l, hl, -⟩ := h
  cases hl

lemma isWord_of_readFloat? {text : String} {y : Float}
    (htext : ∀ c ∈ text.toList, Text.isBlank c = false) (h : readFloat? text = some y) :
    Text.IsWord text.toList := ⟨(literal?_of_readFloat? htext h).1, htext⟩

end Metrology.Decimal
