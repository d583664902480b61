/-!
# Pieces of a text

A text is cut at every character of some class. There is one piece more than there are such
characters, and a piece between two neighbouring ones is empty.
-/

namespace Metrology.Text

/-- The pieces of a text between the characters for which `cut` holds. -/
def pieces (cut : Char → Bool) : List Char → List (List Char)
  | [] => [[]]
  | c :: r =>
    if cut c then [] :: pieces cut r
    else match pieces cut r with
      | [] => [[c]]
      | p :: ps => (c :: p) :: ps

def fullPieces (cut : Char → Bool) (s : List Char) : List (List Char) :=
  (pieces cut s).filter fun p => !p.isEmpty

variable {cut : Char → Bool}

@[simp] theorem pieces_nil : pieces cut [] = [[]] := rfl

theorem pieces_ne_nil (s : List Char) : pieces cut s ≠ [] := by
  cases s with
  | nil => simp
  | cons c r =>
    simp only [pieces]
    split
    · simp
    · split <;> simp

/-- No piece holds a character at which the text is cut. -/
theorem not_cut_of_mem_pieces {s p : List Char} (hp : p ∈ pieces cut s) :
    ∀ c ∈ p, cut c = false := by
  induction s generalizing p with
  | nil =>
    rw [pieces_nil, List.mem_singleton] at hp
    rw [hp]
    intro c hc
    cases hc
  | cons a r ih =>
    simp only [pieces] at hp
    split at hp
    · rcases List.mem_cons.mp hp with rfl | h
      · intro c hc
        cases hc
      · exact ih h
    · next ha =>
      split at hp
      · next heq => exact absurd heq (pieces_ne_nil r)
      · next q qs heq =>
        rcases List.mem_cons.mp hp with rfl | h
        · intro c hc
          rcases List.mem_cons.mp hc with rfl | hq
          · simpa using ha
          · exact ih (heq ▸ List.mem_cons_self) c hq
        · exact ih (heq ▸ List.mem_cons_of_mem q h)

/-- A full piece holds some character, and none at which the text is cut. -/
theorem ne_nil_and_not_cut_of_mem_fullPieces {s p : List Char} (hp : p ∈ fullPieces cut s) :
    p ≠ [] ∧ ∀ c ∈ p, cut c = false := by
  obtain ⟨hmem, hne⟩ := List.mem_filter.mp hp
  refine ⟨?_, not_cut_of_mem_pieces hmem⟩
  rintro rfl
  cases hne

end Metrology.Text
