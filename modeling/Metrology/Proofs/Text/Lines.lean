import Mathlib.Data.List.Basic
import Metrology.Text.Lines

/-!
# The lines of a text

A text is its lines, each closed by a line feed, a carriage return or the two together; only the
last line may lack its ending. This says which lines a text has, so that the lines of two texts are
those of the texts one behind the other, as long as the first one is closed by a line feed.
-/

namespace Metrology.Text

/-- The text is part of one line. -/
def IsUnbroken (l : List Char) : Prop := '\n' ∉ l ∧ '\r' ∉ l

/-- The text consists of these lines. -/
inductive HasLines : List Char → List (List Char) → Prop where
  | nil : HasLines [] []
  /-- The last line may lack its ending, and then it is not empty. -/
  | last {l : List Char} (hl : IsUnbroken l) (hne : l ≠ []) : HasLines l [l]
  | feed {l s : List Char} {ls : List (List Char)} (hl : IsUnbroken l) (h : HasLines s ls) :
      HasLines (l ++ '\n' :: s) (l :: ls)
  | carriage {l s : List Char} {ls : List (List Char)} (hl : IsUnbroken l)
      (hs : s.head? ≠ some '\n') (h : HasLines s ls) : HasLines (l ++ '\r' :: s) (l :: ls)
  | both {l s : List Char} {ls : List (List Char)} (hl : IsUnbroken l) (h : HasLines s ls) :
      HasLines (l ++ '\r' :: '\n' :: s) (l :: ls)

lemma isUnbroken_nil : IsUnbroken [] := by simp [IsUnbroken]

lemma isUnbroken_cons {c : Char} {l : List Char} :
    IsUnbroken (c :: l) ↔ c ≠ '\n' ∧ c ≠ '\r' ∧ IsUnbroken l := by
  simp only [IsUnbroken, List.mem_cons, not_or]
  constructor
  · rintro ⟨⟨hn, hln⟩, hr, hlr⟩
    exact ⟨Ne.symm hn, Ne.symm hr, hln, hlr⟩
  · rintro ⟨hn, hr, hln, hlr⟩
    exact ⟨⟨Ne.symm hn, hln⟩, Ne.symm hr, hlr⟩

/-! ### Cutting a text -/

/-- A character that is no ending stands at the beginning of the first line. -/
lemma linesOf_cons {c : Char} (hn : c ≠ '\n') (hr : c ≠ '\r') (s : List Char) :
    linesOf (c :: s) = (c :: (linesOf s).headD []) :: (linesOf s).tail := by
  rw [linesOf]
  · split <;> simp_all
  · exact fun _ h _ => hr h
  · exact hr
  · exact hn

lemma linesOf_feed (s : List Char) : linesOf ('\n' :: s) = [] :: linesOf s := by
  rw [linesOf]

lemma linesOf_carriage {s : List Char} (hs : s.head? ≠ some '\n') :
    linesOf ('\r' :: s) = [] :: linesOf s := by
  rw [linesOf]
  rintro t rfl
  exact hs rfl

lemma linesOf_both (s : List Char) : linesOf ('\r' :: '\n' :: s) = [] :: linesOf s := by
  rw [linesOf]

/-- What is unbroken belongs to the first line of what follows. -/
lemma linesOf_append {l : List Char} (hl : IsUnbroken l) {s : List Char} {ls : List (List Char)}
    (h : linesOf s = [] :: ls) : linesOf (l ++ s) = l :: ls := by
  induction l with
  | nil => exact h
  | cons c l ih =>
    obtain ⟨hn, hr, hl⟩ := isUnbroken_cons.mp hl
    rw [List.cons_append, linesOf_cons hn hr, ih hl]
    rfl

lemma HasLines.linesOf_eq {s : List Char} {ls : List (List Char)} (h : HasLines s ls) :
    linesOf s = ls := by
  induction h with
  | nil => rfl
  | @last l hl hne =>
    induction l with
    | nil => exact absurd rfl hne
    | cons c l ih =>
      obtain ⟨hn, hr, hl⟩ := isUnbroken_cons.mp hl
      rw [linesOf_cons hn hr]
      by_cases hnil : l = []
      · rw [hnil]
        rfl
      · rw [ih hl hnil]
        rfl
  | feed hl _ ih => exact linesOf_append hl (by rw [linesOf_feed, ih])
  | carriage hl hs _ ih => exact linesOf_append hl (by rw [linesOf_carriage hs, ih])
  | both hl _ ih => exact linesOf_append hl (by rw [linesOf_both, ih])

/-- A character that is no ending lengthens the first line, or makes the only one. -/
lemma HasLines.cons {c : Char} (hn : c ≠ '\n') (hr : c ≠ '\r') {s : List Char}
    {ls : List (List Char)} (h : HasLines s ls) :
    HasLines (c :: s) ((c :: ls.headD []) :: ls.tail) := by
  have hcons : ∀ {l : List Char}, IsUnbroken l → IsUnbroken (c :: l) := fun hl =>
    isUnbroken_cons.mpr ⟨hn, hr, hl⟩
  cases h with
  | nil => exact .last (hcons isUnbroken_nil) (by simp)
  | last hl _ => exact .last (hcons hl) (by simp)
  | feed hl h => exact .feed (hcons hl) h
  | carriage hl hs h => exact .carriage (hcons hl) hs h
  | both hl h => exact .both (hcons hl) h

lemma hasLines_linesOf (s : List Char) : HasLines s (linesOf s) := by
  cases s with
  | nil => exact .nil
  | cons c s =>
    by_cases hn : c = '\n'
    · rw [hn, linesOf_feed]
      exact .feed isUnbroken_nil (hasLines_linesOf s)
    by_cases hr : c = '\r'
    · by_cases hs : s.head? = some '\n'
      · obtain ⟨t, rfl⟩ := List.head?_eq_some_iff.mp hs
        rw [hr, linesOf_both]
        exact .both isUnbroken_nil (hasLines_linesOf t)
      · rw [hr, linesOf_carriage hs]
        exact .carriage isUnbroken_nil hs (hasLines_linesOf s)
    · rw [linesOf_cons hn hr]
      exact (hasLines_linesOf s).cons hn hr
termination_by s.length

/-- A text has the lines that it is cut into, and no others. -/
lemma hasLines_iff {s : List Char} {ls : List (List Char)} : HasLines s ls ↔ linesOf s = ls := by
  constructor
  · exact HasLines.linesOf_eq
  · rintro rfl
    exact hasLines_linesOf s

/-! ### Two texts -/

/-- Behind a line feed new lines begin. -/
lemma HasLines.append {s t : List Char} {ls ls' : List (List Char)} (h : HasLines s ls)
    (ht : HasLines t ls') (hs : ∀ c ∈ s.getLast?, c = '\n') : HasLines (s ++ t) (ls ++ ls') := by
  have hbehind : ∀ {u v : List Char}, (∀ c ∈ (u ++ v).getLast?, c = '\n') →
      ∀ c ∈ v.getLast?, c = '\n' :=
    fun h c hc => h c (List.mem_getLast?_append_of_mem_getLast? hc)
  induction h with
  | nil => exact ht
  | @last l hl hne =>
    have hfeed : l.getLast hne = '\n' := hs _ (List.getLast?_eq_some_getLast hne)
    exact absurd (hfeed ▸ List.getLast_mem hne) hl.1
  | @feed l s ls hl _ ih =>
    rw [List.append_cons] at hs
    rw [List.append_assoc, List.cons_append, List.cons_append]
    exact .feed hl (ih (hbehind hs))
  | @carriage l s ls hl hhead _ ih =>
    cases s with
    | nil => exact absurd (hs '\r' (by simp)) (by decide)
    | cons a s =>
      rw [List.append_cons] at hs
      rw [List.append_assoc, List.cons_append, List.cons_append]
      exact .carriage hl hhead (ih (hbehind hs))
  | @both l s ls hl _ ih =>
    rw [List.append_cons, List.append_cons] at hs
    rw [List.append_assoc, List.cons_append, List.cons_append, List.cons_append]
    exact .both hl (ih (hbehind hs))

/-! ### Lines as strings -/

lemma hasLines_iff_map_lines {s : String} {ls : List (List Char)} :
    HasLines s.toList ls ↔ (lines s).map String.toList = ls := by
  have h : (lines s).map String.toList = linesOf s.toList := by
    simp [lines, Function.comp_def]
  rw [h, hasLines_iff]

lemma lines_append {s : String} (t : String) (h : s.toList.getLast? = some '\n') :
    lines (s ++ t) = lines s ++ lines t := by
  have hclosed : ∀ c ∈ s.toList.getLast?, c = '\n' := by
    intro c hc
    rw [h] at hc
    exact (Option.some.inj hc).symm
  have happend := (hasLines_linesOf s.toList).append (hasLines_linesOf t.toList) hclosed
  rw [lines, String.toList_append, happend.linesOf_eq, List.map_append]
  rfl

end Metrology.Text
