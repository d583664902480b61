import Mathlib.Data.List.Basic
import Mathlib.Data.List.TakeWhile
import Metrology.Text.Blank

/-!
# Texts with few blanks

Digits and letters are no blanks. A text that neither begins nor ends with a blank is stripped
already, and a blank behind a word separates it from the rest. Words with blanks between them are
the words of the text.
-/

namespace Metrology.Text

/-! ### Characters that are no blanks -/

/-- The visible characters of ASCII are no blanks. -/
lemma isBlank_of_isVisible {c : Char} (h : 33 ≤ c.toNat ∧ c.toNat ≤ 126) : isBlank c = false := by
  simp only [isBlank, Bool.or_eq_false_iff, Bool.and_eq_false_iff, beq_eq_false_iff_ne,
    decide_eq_false_iff_not]
  omega

lemma isBlank_of_isDigit {c : Char} (h : c.isDigit = true) : isBlank c = false := by
  simp only [Char.isDigit, ge_iff_le, Bool.and_eq_true, decide_eq_true_eq,
    UInt32.le_iff_toNat_le] at h
  change 48 ≤ c.toNat ∧ c.toNat ≤ 57 at h
  exact isBlank_of_isVisible (by omega)

lemma isBlank_of_isAlpha {c : Char} (h : c.isAlpha = true) : isBlank c = false := by
  change (decide (65 ≤ c.val ∧ c.val ≤ 90) ||
    (decide (97 ≤ c.val) && decide (c.val ≤ 122))) = true at h
  simp only [Bool.or_eq_true, Bool.and_eq_true, decide_eq_true_eq, UInt32.le_iff_toNat_le] at h
  change (65 ≤ c.toNat ∧ c.toNat ≤ 90) ∨ (97 ≤ c.toNat ∧ c.toNat ≤ 122) at h
  exact isBlank_of_isVisible (by omega)

/-- Is the text made of blanks alone? -/
def IsBlanks (s : List Char) : Prop := ∀ c ∈ s, isBlank c = true

lemma isBlanks_iff {s : List Char} : IsBlanks s ↔ s.all isBlank = true := by simp [IsBlanks]

instance (s : List Char) : Decidable (IsBlanks s) := decidable_of_iff _ isBlanks_iff.symm

lemma isBlanks_nil : IsBlanks [] := by simp [IsBlanks]

lemma IsBlanks.cons {c : Char} {s : List Char} (hc : isBlank c = true) (hs : IsBlanks s) :
    IsBlanks (c :: s) := List.forall_mem_cons.mpr ⟨hc, hs⟩

/-! ### Stripping -/

lemma stripLeft_eq_self {s : List Char} (h : ∀ c ∈ s.head?, isBlank c = false) :
    stripLeft s = s := by
  cases s with
  | nil => rfl
  | cons c r => simp [stripLeft, h c rfl]

lemma stripRight_eq_self {s : List Char} (h : ∀ c ∈ s.getLast?, isBlank c = false) :
    stripRight s = s := by
  have hr : stripLeft s.reverse = s.reverse := stripLeft_eq_self (by simpa using h)
  rw [stripLeft] at hr
  rw [stripRight, hr, List.reverse_reverse]

lemma stripLeft_eq_nil_iff {s : List Char} : stripLeft s = [] ↔ IsBlanks s :=
  List.dropWhile_eq_nil_iff

lemma not_isBlank_head?_stripLeft (s : List Char) :
    ∀ c ∈ (stripLeft s).head?, isBlank c = false := by
  intro c hc
  have h := List.head?_dropWhile_not isBlank s
  rw [← stripLeft, Option.mem_def.mp hc] at h
  exact h

lemma stripLeft_blanks_append {b s : List Char} (hb : IsBlanks b) :
    stripLeft (b ++ s) = stripLeft s := List.dropWhile_append_of_pos hb

lemma stripRight_append_blanks {s b : List Char} (hb : IsBlanks b) :
    stripRight (s ++ b) = stripRight s := by
  have hr : IsBlanks b.reverse := fun c hc => hb c (List.mem_reverse.mp hc)
  rw [stripRight, List.reverse_append, List.dropWhile_append_of_pos hr, stripRight]

lemma strip_eq_self {s : String} (hhead : ∀ c ∈ s.toList.head?, isBlank c = false)
    (hlast : ∀ c ∈ s.toList.getLast?, isBlank c = false) : strip s = s := by
  rw [strip, stripChars, stripLeft_eq_self hhead, stripRight_eq_self hlast, String.ofList_toList]

/-- Blanks alone are lost in front. -/
lemma exists_eq_append_stripLeft (s : List Char) : ∃ b, IsBlanks b ∧ s = b ++ stripLeft s :=
  ⟨s.takeWhile isBlank, isBlanks_iff.mpr List.all_takeWhile,
    List.takeWhile_append_dropWhile.symm⟩

lemma exists_eq_stripRight_append (s : List Char) : ∃ b, IsBlanks b ∧ s = stripRight s ++ b := by
  obtain ⟨b, hb, hs⟩ := exists_eq_append_stripLeft s.reverse
  refine ⟨b.reverse, fun c hc => hb c (List.mem_reverse.mp hc), ?_⟩
  rw [stripRight, ← stripLeft, ← List.reverse_append, ← hs, List.reverse_reverse]

/-- Blanks alone are lost at the ends. -/
lemma exists_eq_append_strip (s : String) :
    ∃ b b', IsBlanks b ∧ IsBlanks b' ∧ s.toList = b ++ (strip s).toList ++ b' := by
  obtain ⟨b, hb, hs⟩ := exists_eq_append_stripLeft s.toList
  obtain ⟨b', hb', hs'⟩ := exists_eq_stripRight_append (stripLeft s.toList)
  refine ⟨b, b', hb, hb', ?_⟩
  rw [strip, stripChars, String.toList_ofList, List.append_assoc, ← hs', ← hs]

/-! ### Words -/

section Pieces

variable {cut : Char → Bool}

/-- A text is cut on both sides of a cut independently. -/
lemma pieces_append (s t : List Char) {b : Char} (hb : cut b = true) :
    pieces cut (s ++ b :: t) = pieces cut s ++ pieces cut t := by
  induction s with
  | nil => simp [pieces, hb]
  | cons a s ih =>
    obtain ⟨p, ps, hs⟩ := List.exists_cons_of_ne_nil (pieces_ne_nil s : pieces cut s ≠ [])
    cases ha : cut a with
    | true => simp [pieces, ha, ih]
    | false => simp [pieces, ha, ih, hs]

lemma pieces_of_not_cut {s : List Char} (h : ∀ c ∈ s, cut c = false) : pieces cut s = [s] := by
  induction s with
  | nil => rfl
  | cons a s ih =>
    obtain ⟨ha, hs⟩ := List.forall_mem_cons.mp h
    simp [pieces, ha, ih hs]

lemma fullPieces_append (s t : List Char) {b : Char} (hb : cut b = true) :
    fullPieces cut (s ++ b :: t) = fullPieces cut s ++ fullPieces cut t := by
  rw [fullPieces, pieces_append s t hb, List.filter_append, ← fullPieces, ← fullPieces]

lemma fullPieces_of_not_cut {s : List Char} (h : ∀ c ∈ s, cut c = false) (hne : s ≠ []) :
    fullPieces cut s = [s] := by
  simp [fullPieces, pieces_of_not_cut h, hne]

/-- What is joined is read back, if the cut is made where it was joined. -/
lemma fullPieces_intercalate {b : Char} (hb : cut b = true) {ps : List (List Char)}
    (h : ∀ p ∈ ps, p ≠ [] ∧ ∀ c ∈ p, cut c = false) : fullPieces cut ([b].intercalate ps) = ps := by
  match ps with
  | [] => rfl
  | [p] =>
    obtain ⟨hne, hp⟩ := h p (by simp)
    rw [List.intercalate_singleton, fullPieces_of_not_cut hp hne]
  | p :: q :: ps =>
    obtain ⟨⟨hne, hp⟩, hps⟩ := List.forall_mem_cons.mp h
    rw [List.intercalate_cons_cons, List.append_assoc, List.singleton_append,
      fullPieces_append _ _ hb, fullPieces_of_not_cut hp hne]
    exact congrArg (p :: ·) (fullPieces_intercalate hb hps)

lemma intercalate_ne_nil {s p : List Char} (hp : p ≠ []) (ps : List (List Char)) :
    s.intercalate (p :: ps) ≠ [] := by
  cases ps with
  | nil => simpa using hp
  | cons q ps => simp [List.intercalate_cons_cons, hp]

/-- A text that is joined from pieces begins and ends with characters of the pieces. -/
lemma not_cut_of_mem_ends {ps : List (List Char)} (h : ∀ p ∈ ps, p ≠ [] ∧ ∀ c ∈ p, cut c = false)
    (b : Char) :
    (∀ c ∈ ([b].intercalate ps).head?, cut c = false) ∧
      ∀ c ∈ ([b].intercalate ps).getLast?, cut c = false := by
  match ps with
  | [] => simp
  | [p] =>
    obtain ⟨-, hp⟩ := h p (by simp)
    rw [List.intercalate_singleton]
    exact ⟨fun c hc => hp c (List.mem_of_mem_head? hc),
      fun c hc => hp c (List.mem_of_mem_getLast? hc)⟩
  | p :: q :: ps =>
    obtain ⟨⟨hne, hp⟩, hps⟩ := List.forall_mem_cons.mp h
    rw [List.intercalate_cons_cons, List.append_assoc]
    constructor
    · intro c hc
      rw [List.head?_append_of_ne_nil _ hne] at hc
      exact hp c (List.mem_of_mem_head? hc)
    · intro c hc
      rw [← List.append_assoc, List.getLast?_append_of_ne_nil _
        (intercalate_ne_nil (hps q (by simp)).1 ps)] at hc
      exact (not_cut_of_mem_ends hps b).2 c hc

/-- A text that is joined from pieces has no further characters than the joints. -/
lemma mem_intercalate {b c : Char} {ps : List (List Char)} (h : c ∈ [b].intercalate ps) :
    c = b ∨ ∃ p ∈ ps, c ∈ p := by
  match ps with
  | [] => cases h
  | [p] => exact .inr ⟨p, by simp, by simpa using h⟩
  | p :: q :: ps =>
    rw [List.intercalate_cons_cons, List.mem_append, List.mem_append, List.mem_singleton] at h
    rcases h with (h | h) | h
    · exact .inr ⟨p, by simp, h⟩
    · exact .inl h
    · refine (mem_intercalate h).imp_right ?_
      rintro ⟨r, hr, hc⟩
      exact ⟨r, List.mem_cons_of_mem p hr, hc⟩

end Pieces

/-- Is the text a word? -/
def IsWord (s : List Char) : Prop := s ≠ [] ∧ ∀ c ∈ s, isBlank c = false

lemma isWord_iff {s : List Char} :
    IsWord s ↔ (!s.isEmpty && s.all fun c => !isBlank c) = true := by
  simp [IsWord]

instance (s : List Char) : Decidable (IsWord s) := decidable_of_iff _ isWord_iff.symm

lemma strip_of_isWord {s : String} (h : IsWord s.toList) : strip s = s :=
  strip_eq_self (fun c hc => h.2 c (List.mem_of_mem_head? hc))
    fun c hc => h.2 c (List.mem_of_mem_getLast? hc)

/-- A word is what is left of it with blanks around it. -/
lemma strip_of_isWord_of_isBlanks {s : String} {b w b' : List Char} (hs : s.toList = b ++ w ++ b')
    (hb : IsBlanks b) (hw : IsWord w) (hb' : IsBlanks b') : strip s = String.ofList w := by
  have hhead : ∀ c ∈ (w ++ b').head?, isBlank c = false := by
    intro c hc
    rw [List.head?_append_of_ne_nil _ hw.1] at hc
    exact hw.2 c (List.mem_of_mem_head? hc)
  rw [strip, stripChars, hs, List.append_assoc, stripLeft_blanks_append hb,
    stripLeft_eq_self hhead, stripRight_append_blanks hb',
    stripRight_eq_self fun c hc => hw.2 c (List.mem_of_mem_getLast? hc)]

lemma filter_of_isWord {s : List Char} (h : IsWord s) : s.filter (fun c => !isBlank c) = s :=
  List.filter_eq_self.mpr fun c hc => by simp [h.2 c hc]

lemma wordsOf_intercalate {ws : List (List Char)} (h : ∀ w ∈ ws, IsWord w) :
    wordsOf ([' '].intercalate ws) = ws := fullPieces_intercalate (by decide) h

/-- Words are read back from a text that has a blank between each two of them. -/
lemma words_intercalate {ws : List String} (h : ∀ w ∈ ws, IsWord w.toList) :
    words (" ".intercalate ws) = ws := by
  have hlists : ∀ w ∈ ws.map String.toList, IsWord w := List.forall_mem_map.mpr h
  rw [words, String.toList_intercalate]
  change (wordsOf ([' '].intercalate (ws.map String.toList))).map String.ofList = ws
  rw [wordsOf_intercalate hlists, List.map_map]
  simp [Function.comp_def]

lemma strip_intercalate {ws : List String} (h : ∀ w ∈ ws, IsWord w.toList) :
    strip (" ".intercalate ws) = " ".intercalate ws := by
  have hlists : ∀ w ∈ ws.map String.toList, IsWord w := List.forall_mem_map.mpr h
  have hends := not_cut_of_mem_ends hlists ' '
  have hlist : (" ".intercalate ws).toList = [' '].intercalate (ws.map String.toList) :=
    String.toList_intercalate
  exact strip_eq_self (hlist ▸ hends.1) (hlist ▸ hends.2)

/-! ### The first word -/

/-- The text begins with the word, any blanks in front of it ignored, and behind the word and the
blanks there is the rest, which is not made of blanks alone. -/
inductive HasFirst : List Char → List Char → List Char → Prop where
  | intro {b w g r : List Char} (hb : IsBlanks b) (hw : IsWord w) (hg : IsBlanks g) (hne : g ≠ [])
      (hr : ¬ IsBlanks r) : HasFirst (b ++ w ++ g ++ r) w r

lemma HasFirst.isWord {s w r : List Char} (h : HasFirst s w r) : IsWord w := by
  cases h with
  | intro _ hw => exact hw

/-- A word goes on to the next blank or to the end. -/
lemma takeWhile_word_append {w g : List Char} (hw : ∀ c ∈ w, isBlank c = false)
    (hg : ∀ c ∈ g.head?, isBlank c = true) :
    (w ++ g).takeWhile (!isBlank ·) = w ∧ (w ++ g).dropWhile (!isBlank ·) = g := by
  have hword : ∀ c ∈ w, (!isBlank c) = true := by
    intro c hc
    rw [hw c hc]
    rfl
  rw [List.takeWhile_append_of_pos hword, List.dropWhile_append_of_pos hword]
  cases g with
  | nil => simp
  | cons c g => simp [hg c rfl]

lemma HasFirst.splitFirst?_eq {s w r : List Char} (h : HasFirst s w r) :
    splitFirst? s = some (w, stripLeft r) := by
  cases h with
  | @intro b w g r hb hw hg hne hr =>
    have hstart : stripLeft (b ++ w ++ g ++ r) = w ++ (g ++ r) := by
      rw [List.append_assoc, List.append_assoc, stripLeft_blanks_append hb]
      apply stripLeft_eq_self
      intro c hc
      rw [List.head?_append_of_ne_nil _ hw.1] at hc
      exact hw.2 c (List.mem_of_mem_head? hc)
    have hblank : ∀ c ∈ (g ++ r).head?, isBlank c = true := by
      intro c hc
      rw [List.head?_append_of_ne_nil _ hne] at hc
      exact hg c (List.mem_of_mem_head? hc)
    obtain ⟨htake, hdrop⟩ := takeWhile_word_append hw.2 hblank
    rw [splitFirst?, hstart, htake, hdrop, stripLeft_blanks_append hg]
    simp [stripLeft_eq_nil_iff, hr]

lemma hasFirst_of_splitFirst? {s w r : List Char} (h : splitFirst? s = some (w, r)) :
    HasFirst s w r := by
  obtain ⟨b, hb, hs⟩ := exists_eq_append_stripLeft s
  have hstart := not_isBlank_head?_stripLeft s
  rw [splitFirst?] at h
  generalize stripLeft s = t at h hs hstart
  obtain ⟨g, hg, hrest⟩ := exists_eq_append_stripLeft (t.dropWhile (!isBlank ·))
  have hlast := not_isBlank_head?_stripLeft (t.dropWhile (!isBlank ·))
  split_ifs at h with hempty
  cases h
  generalize hr : stripLeft (t.dropWhile (!isBlank ·)) = r at hrest hlast hempty
  have hne : r ≠ [] := by simpa using hempty
  have hblanks : ¬ IsBlanks r := by
    rw [← stripLeft_eq_nil_iff, stripLeft_eq_self hlast]
    exact hne
  have hword : IsWord (t.takeWhile (!isBlank ·)) := by
    refine ⟨?_, fun c hc => by simpa using List.mem_takeWhile_imp hc⟩
    cases t with
    | nil => exact absurd hr.symm hne
    | cons a t => simp [hstart a rfl]
  have hgap : g ≠ [] := by
    rintro rfl
    have hhead := List.head?_dropWhile_not (!isBlank ·) t
    obtain ⟨a, r, rfl⟩ := List.exists_cons_of_ne_nil hne
    rw [hrest, List.nil_append, List.head?_cons] at hhead
    simp [hlast a rfl] at hhead
  have htext : s = b ++ t.takeWhile (!isBlank ·) ++ g ++ r := by
    rw [List.append_assoc, ← hrest, List.append_assoc, List.takeWhile_append_dropWhile, hs]
  rw [htext]
  exact .intro hb hword hg hgap hblanks

/-- A text is not split if there is no second word. -/
lemma splitFirst?_eq_none_iff {s : List Char} :
    splitFirst? s = none ↔ ∃ b w g, s = b ++ w ++ g ∧ IsBlanks b ∧
      (∀ c ∈ w, isBlank c = false) ∧ IsBlanks g := by
  constructor
  · intro h
    obtain ⟨b, hb, hs⟩ := exists_eq_append_stripLeft s
    rw [splitFirst?] at h
    split_ifs at h with hempty
    refine ⟨b, (stripLeft s).takeWhile (!isBlank ·), (stripLeft s).dropWhile (!isBlank ·), ?_, hb,
      fun c hc => by simpa using List.mem_takeWhile_imp hc, ?_⟩
    · rw [List.append_assoc, List.takeWhile_append_dropWhile]
      exact hs
    · exact stripLeft_eq_nil_iff.mp (by simpa using hempty)
  · rintro ⟨b, w, g, rfl, hb, hw, hg⟩
    obtain ⟨g', hg', hstart⟩ : ∃ g', IsBlanks g' ∧ stripLeft (b ++ w ++ g) = w ++ g' := by
      rw [List.append_assoc, stripLeft_blanks_append hb]
      cases w with
      | nil => exact ⟨[], isBlanks_nil, stripLeft_eq_nil_iff.mpr hg⟩
      | cons a w => exact ⟨g, hg, stripLeft_eq_self (by simpa using hw a List.mem_cons_self)⟩
    obtain ⟨-, hdrop⟩ := takeWhile_word_append hw fun c hc => hg' c (List.mem_of_mem_head? hc)
    rw [splitFirst?, hstart, hdrop, stripLeft_eq_nil_iff.mpr hg']
    rfl

/-- The first word ends at the first blank. -/
lemma splitFirst?_append {w t : List Char} {b : Char} (hw : ∀ c ∈ w, isBlank c = false)
    (hne : w ≠ []) (hb : isBlank b = true) (ht : ∀ c ∈ t.head?, isBlank c = false)
    (hte : t ≠ []) : splitFirst? (w ++ b :: t) = some (w, t) := by
  have hrest : ¬ IsBlanks t := by
    rw [← stripLeft_eq_nil_iff, stripLeft_eq_self ht]
    exact hte
  have h := (HasFirst.intro isBlanks_nil ⟨hne, hw⟩ (isBlanks_nil.cons hb) (by simp)
    hrest).splitFirst?_eq
  rw [stripLeft_eq_self ht] at h
  simpa using h

end Metrology.Text
