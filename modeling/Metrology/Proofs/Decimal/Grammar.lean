import Metrology.Proofs.Decimal.Reading

/-!
# The grammar of number literals

A literal is a name of a value that is not a finite number, or a number: digits with an optional
point and an optional exponent. The digits may be of any script, and a low line may stand between
two of them. What is read as a literal is one by this grammar, and every such literal is read.
-/

namespace Metrology.Decimal

/-! ### Digits -/

/-- The text consists of digits of any script, with at most one low line between each two of them.
They stand for the one number, and there are as many of them as the other says. -/
inductive HasDigits : List Char → ℕ → ℕ → Prop where
  | nil : HasDigits [] 0 0
  | digit {s : List Char} {v k : ℕ} {c : Char} {d : ℕ} (h : HasDigits s v k)
      (hc : digit? c = some d) : HasDigits (s ++ [c]) (10 * v + d) (k + 1)
  | line {s : List Char} {v k : ℕ} {c : Char} {d : ℕ} (h : HasDigits s v k) (hk : k ≠ 0)
      (hc : digit? c = some d) : HasDigits (s ++ ['_', c]) (10 * v + d) (k + 1)

lemma digit?_line : digit? '_' = none := by decide

/-- Digits are taken from the front of any text. -/
lemma HasDigits.takeDigits_append {ds : List Char} {v k : ℕ} (h : HasDigits ds v k)
    (r : List Char) : takeDigits 0 0 (ds ++ r) = takeDigits v k r := by
  induction h generalizing r with
  | nil => rfl
  | @digit s v k c d _ hc ih =>
    have hline : ∀ b t, c = '_' → r = b :: t → False := by
      rintro b t rfl -
      rw [digit?_line] at hc
      cases hc
    rw [List.append_assoc, ih, List.singleton_append, takeDigits, hc]
    exact hline
  | @line s v k c d _ hk hc ih =>
    rw [List.append_assoc, ih, List.cons_append, List.singleton_append, takeDigits, hc]
    simp [hk]

/-- What is taken behind digits goes on with them. -/
lemma HasDigits.exists_of_takeDigits {p s : List Char} {v k : ℕ} (hp : HasDigits p v k) :
    ∃ ds, s = ds ++ (takeDigits v k s).2.2 ∧
      HasDigits (p ++ ds) (takeDigits v k s).1 (takeDigits v k s).2.1 := by
  fun_induction takeDigits v k s generalizing p with
  | case1 => exact ⟨[], rfl, by simpa using hp⟩
  | case2 => exact ⟨[], rfl, by simpa using hp⟩
  | case3 v k c r d hd hk ih =>
    obtain ⟨ds, hs, hds⟩ := ih (hp.line hk hd)
    refine ⟨'_' :: c :: ds, ?_, by simpa using hds⟩
    rw [List.cons_append, List.cons_append, ← hs]
  | case4 => exact ⟨[], rfl, by simpa using hp⟩
  | case5 v k c r hne d hd ih =>
    obtain ⟨ds, hs, hds⟩ := ih (hp.digit hd)
    exact ⟨c :: ds, by rw [List.cons_append, ← hs], by simpa using hds⟩
  | case6 => exact ⟨[], rfl, by simpa using hp⟩

/-- Digits are taken from the front of a text. -/
lemma exists_hasDigits (s : List Char) :
    ∃ ds, s = ds ++ (takeDigits 0 0 s).2.2 ∧
      HasDigits ds (takeDigits 0 0 s).1 (takeDigits 0 0 s).2.1 :=
  HasDigits.nil.exists_of_takeDigits

/-- Digits begin with a digit. -/
lemma HasDigits.exists_eq_cons {ds : List Char} {v k : ℕ} (h : HasDigits ds v k) (hk : k ≠ 0) :
    ∃ c s, ds = c :: s ∧ (digit? c).isSome = true := by
  induction h with
  | nil => exact absurd rfl hk
  | @digit s v k c d h hc ih =>
    cases h with
    | nil => exact ⟨c, [], rfl, by simp [hc]⟩
    | digit | line =>
      obtain ⟨a, t, ht, ha⟩ := ih (by omega)
      exact ⟨a, t ++ [c], by rw [ht]; rfl, ha⟩
  | @line s v k c d _ hne hc ih =>
    obtain ⟨a, t, rfl, ha⟩ := ih hne
    exact ⟨a, t ++ ['_', c], rfl, ha⟩

/-! ### Signs -/

/-- An optional sign: is it a minus? -/
inductive IsSign : List Char → Bool → Prop where
  | nothing : IsSign [] false
  | plus : IsSign ['+'] false
  | minus : IsSign ['-'] true

lemma exists_eq_append_takeSign (s : List Char) :
    ∃ sign, IsSign sign (takeSign s).1 ∧ s = sign ++ (takeSign s).2 := by
  unfold takeSign
  split
  · exact ⟨_, .minus, rfl⟩
  · exact ⟨_, .plus, rfl⟩
  · exact ⟨_, .nothing, rfl⟩

lemma IsSign.takeSign_append {sign r : List Char} {negative : Bool} (h : IsSign sign negative)
    (hr : ∀ c ∈ r.head?, c ≠ '-' ∧ c ≠ '+') : takeSign (sign ++ r) = (negative, r) := by
  cases h with
  | minus => rfl
  | plus => rfl
  | nothing =>
    rw [List.nil_append, takeSign]
    · rintro s rfl
      exact (hr '-' rfl).1 rfl
    · rintro s rfl
      exact (hr '+' rfl).2 rfl

/-! ### Exponents -/

/-- Nothing, or a mark and digits with an optional sign in front of them. -/
inductive HasExponent : List Char → ℤ → Prop where
  | nothing : HasExponent [] 0
  | marked {mark : Char} {sign ds : List Char} {negative : Bool} {v k : ℕ}
      (hmark : mark = 'e' ∨ mark = 'E') (hsign : IsSign sign negative) (hds : HasDigits ds v k)
      (hk : k ≠ 0) : HasExponent (mark :: (sign ++ ds)) (if negative then -v else v)

lemma digit_ne_sign {c : Char} (h : (digit? c).isSome = true) : c ≠ '-' ∧ c ≠ '+' := by
  constructor <;> rintro rfl <;> revert h <;> decide

lemma hasExponent_of_exponent? {s : List Char} {e : ℤ} (h : exponent? s = some e) :
    HasExponent s e := by
  cases s with
  | nil =>
    cases h
    exact .nothing
  | cons mark s =>
    rw [exponent?] at h
    split_ifs at h with hmark
    obtain ⟨sign, hsign, hs⟩ := exists_eq_append_takeSign s
    obtain ⟨negative, r, hsplit⟩ : ∃ negative r, takeSign s = (negative, r) := ⟨_, _, rfl⟩
    rw [hsplit] at h hsign hs
    obtain ⟨ds, hds, hdigits⟩ := exists_hasDigits r
    dsimp only at h hs
    split at h
    · next v k htake =>
      cases h
      rw [htake, List.append_nil] at hds
      rw [htake] at hdigits
      rw [hs, hds]
      exact .marked hmark hsign hdigits (Nat.succ_ne_zero k)
    · cases h

lemma HasExponent.exponent?_eq {s : List Char} {e : ℤ} (h : HasExponent s e) :
    exponent? s = some e := by
  cases h with
  | nothing => rfl
  | @marked mark sign ds negative v k hmark hsign hds hk =>
    obtain ⟨c, t, rfl, hc⟩ := hds.exists_eq_cons hk
    obtain ⟨k, rfl⟩ := Nat.exists_eq_succ_of_ne_zero hk
    have htake := hds.takeDigits_append []
    rw [List.append_nil] at htake
    have hsplit : takeSign (sign ++ c :: t) = (negative, c :: t) :=
      hsign.takeSign_append (by simpa using digit_ne_sign hc)
    rw [exponent?, if_pos hmark, hsplit]
    simp only [htake, takeDigits]

/-! ### Numbers without a sign -/

/-- Digits, perhaps with a point among them or at one of their ends, and an optional exponent. -/
inductive HasNumber : List Char → ℕ → ℤ → Prop where
  | whole {ds tail : List Char} {v k : ℕ} {e : ℤ} (hds : HasDigits ds v k) (hk : k ≠ 0)
      (ht : HasExponent tail e) : HasNumber (ds ++ tail) v e
  | pointed {ds es tail : List Char} {v w k l : ℕ} {e : ℤ} (hds : HasDigits ds v k)
      (hes : HasDigits es w l) (hk : k + l ≠ 0) (ht : HasExponent tail e) :
      HasNumber (ds ++ '.' :: (es ++ tail)) (v * 10 ^ l + w) (e - l)

lemma HasExponent.stops {s : List Char} {e : ℤ} (h : HasExponent s e) : Stops s := by
  cases h with
  | nothing => simp [Stops]
  | marked hmark =>
    intro c hc
    obtain rfl := Option.mem_some_iff.mp hc
    rcases hmark with rfl | rfl
    · decide
    · decide

lemma exists_hasNumber_of_unsigned? {negative : Bool} {s : List Char} {l : Literal}
    (h : unsigned? negative s = some l) :
    ∃ v e, HasNumber s v e ∧ l = .finite negative v e := by
  obtain ⟨ds, hds, hdigits⟩ := exists_hasDigits s
  obtain ⟨v, k, r, htake⟩ : ∃ v k r, takeDigits 0 0 s = (v, k, r) := ⟨_, _, _, rfl⟩
  rw [unsigned?, htake] at h
  rw [htake] at hds hdigits
  dsimp only at h hds hdigits
  split at h
  · next r' =>
    obtain ⟨es, hes, hdigits'⟩ := exists_hasDigits r'
    dsimp only at h
    split_ifs at h with hk
    obtain ⟨e, he, rfl⟩ := Option.map_eq_some_iff.mp h
    have hnumber := HasNumber.pointed hdigits hdigits' hk (hasExponent_of_exponent? he)
    rw [← hes, ← hds] at hnumber
    exact ⟨_, _, hnumber, rfl⟩
  · dsimp only at h
    split_ifs at h with hk
    obtain ⟨e, he, rfl⟩ := Option.map_eq_some_iff.mp h
    rw [hds]
    exact ⟨_, _, .whole hdigits hk (hasExponent_of_exponent? he), by simp⟩

lemma HasNumber.unsigned?_eq {s : List Char} {v : ℕ} {e : ℤ} (h : HasNumber s v e)
    (negative : Bool) : unsigned? negative s = some (.finite negative v e) := by
  cases h with
  | @whole ds tail v k e hds hk ht =>
    have htake := hds.takeDigits_append tail
    rw [takeDigits_of_stops v k ht.stops] at htake
    rw [unsigned?, htake]
    dsimp only
    split
    · next r =>
      cases ht with
      | marked hmark => simp at hmark
    · simp [hk, ht.exponent?_eq]
  | @pointed ds es tail v w k l e hds hes hk ht =>
    have hpoint : Stops ('.' :: (es ++ tail)) := by
      intro c hc
      obtain rfl : '.' = c := by simpa using hc
      decide
    have htake := hds.takeDigits_append ('.' :: (es ++ tail))
    have htake' := hes.takeDigits_append tail
    rw [takeDigits_of_stops v k hpoint] at htake
    rw [takeDigits_of_stops w l ht.stops] at htake'
    rw [unsigned?, htake]
    simp only [htake', if_neg hk, ht.exponent?_eq, Option.map_some]
    rfl

/-! ### Literals -/

/-- A name of a value that is not a finite number, or a number, with an optional sign. -/
inductive HasLiteral : List Char → Literal → Prop where
  | nan {sign s : List Char} {negative : Bool} (hsign : IsSign sign negative)
      (hs : lower s = "nan".toList) : HasLiteral (sign ++ s) .nan
  | infinite {sign s : List Char} {negative : Bool} (hsign : IsSign sign negative)
      (hs : lower s = "inf".toList ∨ lower s = "infinity".toList) :
      HasLiteral (sign ++ s) (.infinite negative)
  | finite {sign s : List Char} {negative : Bool} {v : ℕ} {e : ℤ} (hsign : IsSign sign negative)
      (hs : HasNumber s v e) : HasLiteral (sign ++ s) (.finite negative v e)

/-- No letter is a digit of any script. -/
lemma digit?_eq_none {c : Char} (h : 58 ≤ c.toNat ∧ c.toNat < 1632) : digit? c = none := by
  have hzeros : ∀ z ∈ zeros, z = 48 ∨ 1632 ≤ z := by decide
  rw [digit?, Option.map_eq_none_iff, List.find?_eq_none]
  intro z hz
  have := hzeros z hz
  simp only [Bool.and_eq_true, decide_eq_true_eq]
  omega

/-- A number begins with a digit or a point. -/
lemma HasNumber.exists_eq_cons {s : List Char} {v : ℕ} {e : ℤ} (h : HasNumber s v e) :
    ∃ c r, s = c :: r ∧ ((digit? c).isSome = true ∨ c = '.') := by
  cases h with
  | @whole ds tail v k e hds hk ht =>
    obtain ⟨c, r, rfl, hc⟩ := hds.exists_eq_cons hk
    exact ⟨c, r ++ tail, rfl, .inl hc⟩
  | @pointed ds es tail v w k l e hds hes hk ht =>
    by_cases hne : k = 0
    · subst hne
      cases hds
      exact ⟨'.', es ++ tail, rfl, .inr rfl⟩
    · obtain ⟨c, r, rfl, hc⟩ := hds.exists_eq_cons hne
      exact ⟨c, r ++ '.' :: (es ++ tail), rfl, .inl hc⟩

lemma toLower_eq_self {c : Char} (hc : (digit? c).isSome = true ∨ c = '.') : c.toLower = c := by
  rcases hc with hc | rfl
  · refine dif_neg ?_
    rintro ⟨hge, hle⟩
    have hge' : 65 ≤ c.toNat := hge
    have hle' : c.toNat ≤ 90 := hle
    rw [digit?_eq_none (by omega)] at hc
    cases hc
  · decide

/-- A text whose letters have no sign in front of them has none either. -/
lemma ne_sign_of_lower {s t : List Char} {a : Char} (h : lower s = a :: t)
    (ha : a ≠ '-' ∧ a ≠ '+') : ∀ c ∈ s.head?, c ≠ '-' ∧ c ≠ '+' := by
  cases s with
  | nil => cases h
  | cons b s =>
    obtain rfl : b.toLower = a := (List.cons.inj h).1
    intro c hc
    obtain rfl : b = c := Option.mem_some_iff.mp hc
    constructor
    · rintro rfl
      exact ha.1 rfl
    · rintro rfl
      exact ha.2 rfl

/-- A number begins with no sign. -/
lemma HasNumber.ne_sign {s : List Char} {v : ℕ} {e : ℤ} (h : HasNumber s v e) :
    ∀ c ∈ s.head?, c ≠ '-' ∧ c ≠ '+' := by
  obtain ⟨a, r, rfl, ha⟩ := h.exists_eq_cons
  intro c hc
  obtain rfl : a = c := Option.mem_some_iff.mp hc
  rcases ha with ha | rfl
  · exact digit_ne_sign ha
  · decide

/-- A number is no name, for a name begins with a letter. -/
lemma HasNumber.lower_ne {s t : List Char} {v : ℕ} {e : ℤ} {a : Char} (h : HasNumber s v e)
    (hdigit : digit? a = none) (hpoint : a ≠ '.') : lower s ≠ a :: t := by
  obtain ⟨c, r, rfl, hc⟩ := h.exists_eq_cons
  intro h
  obtain rfl : c = a := (toLower_eq_self hc).symm.trans (List.cons.inj h).1
  rcases hc with hc | hc
  · rw [hdigit] at hc
    cases hc
  · exact hpoint hc

lemma hasLiteral_of_literal? {s : List Char} {l : Literal} (h : literal? s = some l) :
    HasLiteral s l := by
  obtain ⟨sign, hsign, hs⟩ := exists_eq_append_takeSign s
  obtain ⟨negative, r, hsplit⟩ : ∃ negative r, takeSign s = (negative, r) := ⟨_, _, rfl⟩
  rw [literal?, hsplit] at h
  rw [hsplit] at hsign hs
  dsimp only at h hsign hs
  rw [hs]
  split_ifs at h with hnan hinf
  · cases h
    exact .nan hsign hnan
  · cases h
    exact .infinite hsign hinf
  · obtain ⟨v, e, hnumber, rfl⟩ := exists_hasNumber_of_unsigned? h
    exact .finite hsign hnumber

lemma HasLiteral.literal?_eq {s : List Char} {l : Literal} (h : HasLiteral s l) :
    literal? s = some l := by
  cases h with
  | nan hsign hs =>
    rw [literal?, hsign.takeSign_append (ne_sign_of_lower hs (by decide))]
    exact if_pos hs
  | @infinite sign s negative hsign hs =>
    obtain ⟨hhead, hnan⟩ : (∀ c ∈ s.head?, c ≠ '-' ∧ c ≠ '+') ∧ lower s ≠ "nan".toList := by
      rcases hs with hs | hs
      · exact ⟨ne_sign_of_lower hs (by decide), hs ▸ by decide⟩
      · exact ⟨ne_sign_of_lower hs (by decide), hs ▸ by decide⟩
    rw [literal?, hsign.takeSign_append hhead]
    exact (if_neg hnan).trans (if_pos hs)
  | @finite sign s negative v e hsign hs =>
    have hnan : lower s ≠ "nan".toList := hs.lower_ne (by decide) (by decide)
    have hinf : lower s ≠ "inf".toList := hs.lower_ne (by decide) (by decide)
    have hinfinity : lower s ≠ "infinity".toList := hs.lower_ne (by decide) (by decide)
    rw [literal?, hsign.takeSign_append hs.ne_sign]
    dsimp only
    rw [if_neg hnan, if_neg (not_or.mpr ⟨hinf, hinfinity⟩)]
    exact hs.unsigned?_eq negative

/-- What is read as a literal is one by the grammar, and every literal by the grammar is read. -/
lemma literal?_eq_some_iff {s : List Char} {l : Literal} : literal? s = some l ↔ HasLiteral s l :=
  ⟨hasLiteral_of_literal?, HasLiteral.literal?_eq⟩

end Metrology.Decimal
