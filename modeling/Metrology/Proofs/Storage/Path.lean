import Metrology.Proofs.Storage.Writing
import Metrology.Proofs.Text.Blank

/-!
# Paths as they are shown

A path is shown without the names that say nothing and with one slash between the others. Nothing
but characters of the path is left of it, and the names that are left lead to the same place. So a
file that is written at a path is read at the path that is shown.
-/

namespace Metrology

/-! ### Texts that are joined again -/

namespace Text

lemma intercalate_sublist {s : List Char} {ps qs : List (List Char)} (h : ps.Sublist qs) :
    (s.intercalate ps).Sublist (s.intercalate qs) := by
  induction h with
  | slnil => exact List.Sublist.refl _
  | @cons ps qs q _ ih =>
    refine ih.trans ?_
    cases qs with
    | nil => exact List.nil_sublist _
    | cons r qs =>
      rw [List.intercalate_cons_cons]
      exact List.sublist_append_right _ _
  | @cons_cons ps qs q h ih =>
    match ps, qs with
    | [], [] => exact List.Sublist.refl _
    | [], r :: qs =>
      rw [List.intercalate_cons_cons, List.intercalate_singleton, List.append_assoc]
      exact List.sublist_append_left _ _
    | p :: ps, [] => cases h
    | p :: ps, r :: qs =>
      rw [List.intercalate_cons_cons, List.intercalate_cons_cons]
      exact ih.append_left _

variable {cut : Char → Bool} {b : Char}

/-- Pieces that are joined where they were cut make the text again. -/
lemma intercalate_pieces (hcut : ∀ c, cut c = true → c = b) (s : List Char) :
    [b].intercalate (pieces cut s) = s := by
  induction s with
  | nil => rfl
  | cons c s ih =>
    obtain ⟨p, ps, hs⟩ := List.exists_cons_of_ne_nil (pieces_ne_nil s : pieces cut s ≠ [])
    cases hc : cut c with
    | true =>
      rw [pieces, if_pos hc, hs, List.intercalate_cons_cons, ← hs, ih, hcut c hc]
      rfl
    | false =>
      have hpieces : pieces cut (c :: s) = (c :: p) :: ps := by simp [pieces, hc, hs]
      rw [hs] at ih
      rw [hpieces]
      cases ps with
      | nil => simpa using ih
      | cons q ps =>
        rw [List.intercalate_cons_cons] at ih ⊢
        simpa using ih

/-- Some of the pieces of a text make a part of it. -/
lemma intercalate_sublist_of_pieces (hcut : ∀ c, cut c = true → c = b) {s : List Char}
    {ps : List (List Char)} (h : ps.Sublist (fullPieces cut s)) :
    ([b].intercalate ps).Sublist s := by
  have hjoined := intercalate_sublist (s := [b]) (h.trans List.filter_sublist)
  rwa [intercalate_pieces hcut] at hjoined

end Text

namespace Path

lemma fullPieces_slash (s : List Char) :
    Text.fullPieces (· == '/') ('/' :: s) = Text.fullPieces (· == '/') s := by
  rw [← List.nil_append ('/' :: s), Text.fullPieces_append [] s (by decide)]
  rfl

/-- A path begins with the slashes at its top, and the names are behind them. -/
lemma exists_toList_eq (path : String) :
    ∃ rest, path.toList = (top path).toList ++ rest ∧
      Text.fullPieces (· == '/') rest = Text.fullPieces (· == '/') path.toList := by
  unfold top
  split
  · next t h => exact ⟨'/' :: '/' :: t, h, by simp only [h, fullPieces_slash]⟩
  · next t _ h => exact ⟨t, h, by simp only [h, fullPieces_slash]⟩
  · next t _ _ h => exact ⟨t, h, by simp only [h, fullPieces_slash]⟩
  · exact ⟨path.toList, rfl, rfl⟩

lemma top_cases (path : String) : top path = "" ∨ top path = "/" ∨ top path = "//" := by
  unfold top
  split <;> simp

lemma isAbsolute_iff (path : String) : isAbsolute path = true ↔ path.toList.head? = some '/' := by
  unfold isAbsolute top
  split
  · next h => simp [h]
  · next h => simp [h]
  · next h => simp [h]
  · next h =>
    refine iff_of_false (by simp) ?_
    intro hhead
    obtain ⟨t, ht⟩ := List.head?_eq_some_iff.mp hhead
    exact h t ht

/-! ### Names -/

lemma toCreate_eq {path : String} (h : path.endsWith "/" = false) : toCreate path = steps path := by
  rw [toCreate, h]
  rfl

section Names

variable (path : String)

lemma names_sublist : ((names path).map String.toList).Sublist
    (Text.fullPieces (· == '/') path.toList) := by
  have hsteps : (steps path).map String.toList = Text.fullPieces (· == '/') path.toList := by
    simp [steps, Function.comp_def]
  rw [← hsteps]
  exact List.filter_sublist.map _

lemma not_slash_of_mem_names : ∀ p ∈ (names path).map String.toList,
    p ≠ [] ∧ ∀ c ∈ p, (c == '/') = false := fun _ hp =>
  Text.ne_nil_and_not_cut_of_mem_fullPieces ((names_sublist path).mem hp)

end Names

/-! ### The path that is shown -/

lemma isEmpty_shown (path : String) : (shown path).isEmpty = false := by
  rw [shown]
  split
  · rfl
  · next h => exact Bool.not_eq_true _ ▸ h

section Shown

variable {path : String} (h : names path ≠ [])
include h

lemma exists_names_eq_cons : ∃ p ps, (names path).map String.toList = p :: ps ∧ p ≠ [] := by
  obtain ⟨p, ps, hp⟩ := List.exists_cons_of_ne_nil h
  exact ⟨p.toList, ps.map String.toList, by rw [hp]; rfl,
    (not_slash_of_mem_names path p.toList (by simp [hp])).1⟩

lemma toList_shown : (shown path).toList =
    (top path).toList ++ ['/'].intercalate ((names path).map String.toList) := by
  obtain ⟨p, ps, hnames, hne⟩ := exists_names_eq_cons h
  have hlist : (top path ++ String.intercalate "/" (names path)).toList =
      (top path).toList ++ ['/'].intercalate ((names path).map String.toList) := by
    rw [String.toList_append, String.toList_intercalate]
    rfl
  have hfull : (top path ++ String.intercalate "/" (names path)).isEmpty = false := by
    rw [← Bool.not_eq_true, String.isEmpty_iff]
    intro hempty
    rw [hempty, hnames] at hlist
    exact Text.intercalate_ne_nil hne ps (List.append_eq_nil_iff.mp hlist.symm).2
  rw [shown, if_neg (by simp [hfull]), hlist]

lemma shown_sublist : (shown path).toList.Sublist path.toList := by
  obtain ⟨rest, hrest, hpieces⟩ := exists_toList_eq path
  have hnames := names_sublist path
  rw [← hpieces] at hnames
  rw [toList_shown h, hrest]
  exact (Text.intercalate_sublist_of_pieces (by simp) hnames).append_left _

lemma steps_shown : steps (shown path) = names path := by
  have hpieces : Text.fullPieces (· == '/') (shown path).toList =
      (names path).map String.toList := by
    rw [toList_shown h]
    have hjoined := Text.fullPieces_intercalate (b := '/') (by decide) (not_slash_of_mem_names path)
    rcases top_cases path with htop | htop | htop <;> rw [htop]
    · exact hjoined
    · exact (fullPieces_slash _).trans hjoined
    · exact (fullPieces_slash _).trans ((fullPieces_slash _).trans hjoined)
  rw [steps, hpieces]
  simp [Function.comp_def]

lemma endsWith_shown : (shown path).endsWith "/" = false := by
  obtain ⟨p, ps, hnames, hne⟩ := exists_names_eq_cons h
  rw [String.endsWith_eq_endsWith_toSlice, String.Slice.endsWith_string_eq_false_iff]
  intro hslash
  have hlast : '/' ∈ (shown path).toList.getLast? := by
    obtain ⟨t, ht⟩ := hslash
    have hlist : t ++ ['/'] = (shown path).toList := by simpa using ht
    simp [← hlist]
  rw [toList_shown h, List.getLast?_append_of_ne_nil _ (hnames ▸ Text.intercalate_ne_nil hne ps)]
    at hlast
  exact absurd ((Text.not_cut_of_mem_ends (not_slash_of_mem_names path) '/').2 _ hlast) (by decide)

lemma isAbsolute_shown : isAbsolute (shown path) = isAbsolute path := by
  rw [Bool.eq_iff_iff, isAbsolute_iff, toList_shown h]
  rcases top_cases path with htop | htop | htop <;> rw [isAbsolute, htop]
  · refine iff_of_false ?_ (by decide)
    intro hhead
    exact absurd ((Text.not_cut_of_mem_ends (not_slash_of_mem_names path) '/').1 _ hhead)
      (by decide)
  · exact iff_of_true rfl (by decide)
  · exact iff_of_true rfl (by decide)

end Shown

end Path

/-! ### Where it leads -/

namespace Storage

variable {s : Storage} {path : String} {place : List String}

/-- The size of a part of a text. -/
lemma utf8ByteSize_le_of_sublist {t u : String} (h : t.toList.Sublist u.toList) :
    t.utf8ByteSize ≤ u.utf8ByteSize := by
  have hsize : ∀ {l m : List Char}, l.Sublist m → l.utf8Encode.size ≤ m.utf8Encode.size := by
    intro l m hlm
    induction hlm with
    | slnil => exact Nat.le_refl _
    | @cons l m c _ ih =>
      rw [List.utf8Encode_cons (c := c), ByteArray.size_append]
      omega
    | @cons_cons l m c _ ih =>
      rw [List.utf8Encode_cons (c := c), ByteArray.size_append,
        List.utf8Encode_cons (c := c) (l := m), ByteArray.size_append]
      omega
  have hle := hsize h
  rwa [String.utf8Encode_toList, String.utf8Encode_toList] at hle

lemma checkPath_eq_ok {c : PUnit} : checkPath path = .ok c ↔
    '\x00' ∉ path.toList ∧ path.isEmpty = false ∧ path.utf8ByteSize ≤ pathLimit := by
  unfold checkPath
  by_cases hnul : '\x00' ∈ path.toList
  · simp [hnul]
  · cases hempty : path.isEmpty with
    | true => simp [hnul]
    | false =>
      by_cases hlong : pathLimit < path.utf8ByteSize
      · simp [hnul, hlong]
      · rw [if_neg (by simpa using hnul), if_neg (by simp), if_neg hlong]
        exact iff_of_true rfl ⟨hnul, rfl, Nat.le_of_not_lt hlong⟩

/-- A name `.` leads nowhere else, so that it can be left out. -/
lemma follow_filter {names target : List String} (h : s.follow path place names = .ok target)
    (path' : String) : s.follow path' place (names.filter (· != ".")) = .ok target := by
  induction names generalizing place with
  | nil => exact h
  | cons name names ih =>
    obtain ⟨hd, hshort, h⟩ := follow_cons_eq_ok.mp h
    by_cases hdot : name = "."
    · subst hdot
      exact ih h
    · rw [List.filter_cons_of_pos (by simpa using hdot)]
      exact follow_cons_eq_ok.mpr ⟨hd, hshort, ih h⟩

/-- The path that is shown leads to the same file. -/
lemma IsWritable.shown (h : s.IsWritable path place) : s.IsWritable (Path.shown path) place := by
  obtain ⟨_, hcheck, hfollow⟩ := bind_eq_ok.mp h.locate
  rw [Path.toCreate_eq h.endsWith_eq] at hfollow
  obtain ⟨hnul, -, hlong⟩ := checkPath_eq_ok.mp hcheck
  have hfiltered : s.follow (Path.shown path) (if Path.isAbsolute path then ["/"] else [])
      (Path.names path) = .ok place := follow_filter hfollow (Path.shown path)
  have hnames : Path.names path ≠ [] := by
    intro hnil
    rw [hnil] at hfiltered
    have hplace : (if Path.isAbsolute path then ["/"] else []) = place := Except.ok.inj hfiltered
    have hd := h.notDirectory
    rw [← hplace] at hd
    split at hd <;> cases hd
  have hsublist := Path.shown_sublist hnames
  refine ⟨bind_eq_ok.mpr ⟨⟨⟩, checkPath_eq_ok.mpr ⟨?_, ?_, ?_⟩, ?_⟩, h.notDirectory⟩
  · exact fun hmem => hnul (hsublist.mem hmem)
  · exact Path.isEmpty_shown path
  · exact Nat.le_trans (utf8ByteSize_le_of_sublist hsublist) hlong
  · rw [Path.toCreate_eq (Path.endsWith_shown hnames), Path.steps_shown hnames,
      Path.isAbsolute_shown hnames]
    exact hfiltered

end Storage

end Metrology
