import Mathlib.Algebra.Order.Field.Power
import Mathlib.Algebra.Order.Field.Rat
import Mathlib.Tactic.NormNum
import Mathlib.Tactic.Ring
import Metrology.Proofs.Decimal.Layout

/-!
# Numbers in a layout are literals

A positive number is written as digits, perhaps a point among them, and perhaps an exponent. The
grammar of literals reads all of this, and finds the number that was written.
-/

namespace Metrology.Decimal

/-! ### Digits -/

/-- Are these ASCII digits? -/
def AreDigits (ds : List Char) : Prop := ∀ c ∈ ds, c.isDigit = true

variable {ds es r : List Char}

lemma areDigits_toDigits (n : ℕ) : AreDigits (Nat.toDigits 10 n) :=
  fun _ hc => Nat.isDigit_of_mem_toDigits (by decide) (by decide) hc

lemma areDigits_replicate (n : ℕ) : AreDigits (List.replicate n '0') := by
  intro c hc
  rw [List.eq_of_mem_replicate hc]
  rfl

lemma areDigits_zero : AreDigits ['0'] := areDigits_replicate 1

lemma AreDigits.append (h : AreDigits ds) (h' : AreDigits es) : AreDigits (ds ++ es) :=
  List.forall_mem_append.mpr ⟨h, h'⟩

lemma AreDigits.take (h : AreDigits ds) (n : ℕ) : AreDigits (ds.take n) :=
  fun c hc => h c (List.mem_of_mem_take hc)

lemma AreDigits.drop (h : AreDigits ds) (n : ℕ) : AreDigits (ds.drop n) :=
  fun c hc => h c (List.mem_of_mem_drop hc)

lemma toNat_of_isDigit {c : Char} (h : c.isDigit = true) : 48 ≤ c.toNat ∧ c.toNat ≤ 57 := by
  simpa [Char.isDigit, UInt32.le_iff_toNat_le] using h

lemma digit?_of_isDigit {c : Char} (h : c.isDigit = true) :
    digit? c = some (c.toNat - '0'.toNat) := by
  obtain ⟨hge, hle⟩ := toNat_of_isDigit h
  have hfirst : zeros.find? (fun z => z ≤ c.toNat && c.toNat < z + 10) = some 0x30 := by
    rw [zeros, List.find?_cons_of_pos]
    simp only [Bool.and_eq_true, decide_eq_true_eq]
    omega
  rw [digit?]
  simp only [hfirst]
  rfl

/-- Does no further digit follow? -/
def Stops (r : List Char) : Prop := ∀ c ∈ r.head?, digit? c = none ∧ c ≠ '_'

lemma takeDigits_of_stops (value count : ℕ) (h : Stops r) :
    takeDigits value count r = (value, count, r) := by
  cases r with
  | nil => rw [takeDigits]
  | cons c r =>
    obtain ⟨hdigit, hline⟩ := h c rfl
    rw [takeDigits, hdigit]
    intro d s hc
    exact absurd hc hline

/-- Digits in front of anything else are read to their end. -/
lemma takeDigits_append (value count : ℕ) (h : AreDigits ds) (hr : Stops r) :
    takeDigits value count (ds ++ r) =
      (Nat.ofDigitChars 10 ds value, count + ds.length, r) := by
  induction ds generalizing value count with
  | nil => exact takeDigits_of_stops value count hr
  | cons c ds ih =>
    obtain ⟨hc, hds⟩ := List.forall_mem_cons.mp h
    rw [List.cons_append, takeDigits, digit?_of_isDigit hc]
    · simp only [ih _ _ hds, Nat.ofDigitChars_cons, List.length_cons]
      congr 2
      omega
    · rintro d s rfl
      cases hc

/-! ### Exponents -/

lemma ofDigitChars_zeros_append (n : ℕ) (ds : List Char) :
    Nat.ofDigitChars 10 (List.replicate n '0' ++ ds) 0 = Nat.ofDigitChars 10 ds 0 := by
  rw [Nat.ofDigitChars_append, Nat.ofDigitChars_replicate_zero, Nat.mul_zero]

/-- An exponent is read back. -/
lemma exponent?_exponentText (e : ℤ) : exponent? ('e' :: exponentText e) = some e := by
  set ds := List.replicate (2 - (Nat.toDigits 10 e.natAbs).length) '0' ++ Nat.toDigits 10 e.natAbs
    with hds
  have htake : takeDigits 0 0 ds = (e.natAbs, ds.length, []) := by
    have hdigits : AreDigits ds := (areDigits_replicate _).append (areDigits_toDigits _)
    have hstops : Stops [] := by simp [Stops]
    have h := takeDigits_append 0 0 hdigits hstops
    rwa [List.append_nil, Nat.zero_add, hds, ofDigitChars_zeros_append,
      Nat.ofDigitChars_ten_toDigits] at h
  have hlen : ∃ k, ds.length = k + 1 := by
    refine Nat.exists_eq_succ_of_ne_zero ?_
    have := Nat.length_toDigits_pos (b := 10) (n := e.natAbs)
    rw [hds, List.length_append]
    omega
  obtain ⟨k, hk⟩ := hlen
  rw [hk] at htake
  by_cases he : e < 0
  · have htext : exponentText e = '-' :: ds := by
      rw [exponentText, if_pos he, hds]
      rfl
    simp only [htext, exponent?, true_or, if_true, takeSign, htake]
    congr 1
    omega
  · have htext : exponentText e = '+' :: ds := by
      rw [exponentText, if_neg he, hds]
      rfl
    simp only [htext, exponent?, true_or, if_true, takeSign, htake]
    congr 1
    simp
    omega

/-! ### Numbers without a sign -/

variable {whole behind tail : List Char} {e : ℤ}

/-- What may follow the digits of a number: nothing or an exponent. -/
inductive IsTail : List Char → ℤ → Prop where
  | nothing : IsTail [] 0
  | exponent (e : ℤ) : IsTail ('e' :: exponentText e) e

lemma IsTail.stops (h : IsTail tail e) : Stops tail := by
  cases h with
  | nothing => simp [Stops]
  | exponent e =>
    intro c hc
    obtain rfl : 'e' = c := by simpa using hc
    decide

lemma IsTail.exponent?_eq (h : IsTail tail e) : exponent? tail = some e := by
  cases h with
  | nothing => rfl
  | exponent e => exact exponent?_exponentText e

/-- Digits around a point are read together, with the exponent lowered by those behind it. -/
lemma unsigned?_point (negative : Bool) (hw : AreDigits whole) (hb : AreDigits behind)
    (hne : whole ≠ []) (ht : IsTail tail e) :
    unsigned? negative (whole ++ '.' :: (behind ++ tail)) =
      some (.finite negative (Nat.ofDigitChars 10 (whole ++ behind) 0) (e - behind.length)) := by
  have hpoint : Stops ('.' :: (behind ++ tail)) := by
    intro c hc
    obtain rfl : '.' = c := by simpa using hc
    decide
  have hcount : 0 + whole.length + (0 + behind.length) ≠ 0 := by
    have := List.length_pos_iff.mpr hne
    omega
  have hvalue : Nat.ofDigitChars 10 whole 0 * Nat.pow 10 (0 + behind.length) +
      Nat.ofDigitChars 10 behind 0 = Nat.ofDigitChars 10 (whole ++ behind) 0 := by
    have hbehind : ∀ init, Nat.ofDigitChars 10 behind init =
        10 ^ behind.length * init + Nat.ofDigitChars 10 behind 0 :=
      fun _ => Nat.ofDigitChars_eq_ofDigitChars_zero
    rw [Nat.ofDigitChars_append, hbehind (Nat.ofDigitChars 10 whole 0), Nat.zero_add, Nat.mul_comm]
    rfl
  simp only [unsigned?, takeDigits_append 0 0 hw hpoint, takeDigits_append 0 0 hb ht.stops,
    ht.exponent?_eq, if_neg hcount, hvalue, Option.map_some]
  simp

lemma unsigned?_whole (negative : Bool) (hw : AreDigits whole) (hne : whole ≠ [])
    (ht : IsTail tail e) :
    unsigned? negative (whole ++ tail) =
      some (.finite negative (Nat.ofDigitChars 10 whole 0) e) := by
  have hcount : 0 + whole.length ≠ 0 := by
    have := List.length_pos_iff.mpr hne
    omega
  rw [unsigned?, takeDigits_append 0 0 hw ht.stops]
  cases ht with
  | nothing => simp [hne, exponent?]
  | exponent e => simp [hne, exponent?_exponentText]

/-- Whether a point is kept makes no difference to the number. -/
lemma unsigned?_pointed (negative keepsPoint : Bool) (hw : AreDigits whole)
    (hb : AreDigits behind) (hne : whole ≠ []) (ht : IsTail tail e) :
    ∃ d k, unsigned? negative (pointed keepsPoint whole behind ++ tail) =
        some (.finite negative d k) ∧
      (d * 10 ^ k : ℚ) = Nat.ofDigitChars 10 (whole ++ behind) 0 * 10 ^ (e - behind.length) := by
  cases behind with
  | nil =>
    cases keepsPoint with
    | true =>
      have h := unsigned?_point negative hw areDigits_zero hne ht
      rw [Nat.ofDigitChars_append] at h
      refine ⟨Nat.ofDigitChars 10 whole 0 * 10, e - 1, ?_, ?_⟩
      · simpa [pointed, Nat.ofDigitChars_cons, Nat.mul_comm] using h
      · have hten : (10 : ℚ) ^ e = 10 * 10 ^ (e - 1) := by
          rw [zpow_sub_one₀ (by norm_num)]
          ring
        simp [hten]
        ring
    | false =>
      refine ⟨Nat.ofDigitChars 10 whole 0, e, ?_, ?_⟩
      · simpa [pointed] using unsigned?_whole negative hw hne ht
      · simp
  | cons c behind =>
    refine ⟨_, _, ?_, rfl⟩
    have h := unsigned?_point negative hw hb hne ht
    simpa [pointed] using h

/-! ### Positive numbers in a layout -/

/-- The number that a significand stands for. -/
def Significand.value (s : Significand) : ℚ :=
  s.digits * 10 ^ (s.exponent + 1 - digitCount s.digits)

lemma ofDigitChars_digits (s : Significand) :
    Nat.ofDigitChars 10 (Nat.toDigits 10 s.digits) 0 = s.digits := Nat.ofDigitChars_ten_toDigits

/-- Digits with the point behind the first of them, and an exponent. -/
lemma unsigned?_marked (negative : Bool) (s : Significand) :
    ∃ d k, unsigned? negative (pointed false ((Nat.toDigits 10 s.digits).take 1)
          ((Nat.toDigits 10 s.digits).drop 1) ++ 'e' :: exponentText s.exponent) =
        some (.finite negative d k) ∧ (d * 10 ^ k : ℚ) = s.value := by
  have hds := areDigits_toDigits s.digits
  obtain ⟨d, k, hread, hdk⟩ := unsigned?_pointed negative false (hds.take 1) (hds.drop 1)
    (by simp) (.exponent s.exponent)
  refine ⟨d, k, hread, ?_⟩
  rw [hdk, List.take_append_drop, ofDigitChars_digits, List.length_drop, Significand.value,
    digitCount]
  have hpos : 0 < (Nat.toDigits 10 s.digits).length := Nat.length_toDigits_pos
  congr 2
  omega

/-- Digits behind a point and zeros. -/
lemma unsigned?_small (negative keepsPoint : Bool) {s : Significand} (hsmall : s.exponent < 0) :
    ∃ d k, unsigned? negative (pointed keepsPoint ['0']
          (List.replicate (-s.exponent - 1).toNat '0' ++ Nat.toDigits 10 s.digits)) =
        some (.finite negative d k) ∧ (d * 10 ^ k : ℚ) = s.value := by
  obtain ⟨d, k, hread, hdk⟩ := unsigned?_pointed negative keepsPoint areDigits_zero
    ((areDigits_replicate (-s.exponent - 1).toNat).append (areDigits_toDigits s.digits)) (by simp)
    .nothing
  rw [List.append_nil] at hread
  refine ⟨d, k, hread, ?_⟩
  have hzeros :=
    ofDigitChars_zeros_append ((-s.exponent - 1).toNat + 1) (Nat.toDigits 10 s.digits)
  rw [List.replicate_succ] at hzeros
  rw [hdk, ← List.append_assoc, List.singleton_append, hzeros, ofDigitChars_digits,
    List.length_append, List.length_replicate, Significand.value, digitCount]
  congr 2
  omega

/-- Digits on both sides of a point, or in front of it only, with zeros up to it. -/
lemma unsigned?_large (negative keepsPoint : Bool) {s : Significand} {whole : ℕ}
    (hwhole : s.exponent + 1 = whole) (hpos : 0 < whole) :
    ∃ d k, unsigned? negative (pointed keepsPoint
          ((Nat.toDigits 10 s.digits).take whole ++
            List.replicate (whole - (Nat.toDigits 10 s.digits).length) '0')
          ((Nat.toDigits 10 s.digits).drop whole)) =
        some (.finite negative d k) ∧ (d * 10 ^ k : ℚ) = s.value := by
  have hds := areDigits_toDigits s.digits
  have hne : Nat.toDigits 10 s.digits ≠ [] := Nat.toDigits_ne_nil
  obtain ⟨d, k, hread, hdk⟩ := unsigned?_pointed negative keepsPoint
    ((hds.take whole).append (areDigits_replicate (whole - (Nat.toDigits 10 s.digits).length)))
    (hds.drop whole) (by simp [hne, hpos.ne']) .nothing
  rw [List.append_nil] at hread
  refine ⟨d, k, hread, ?_⟩
  rw [hdk, Significand.value, hwhole, digitCount]
  by_cases hshort : (Nat.toDigits 10 s.digits).length ≤ whole
  · rw [List.take_of_length_le hshort, List.drop_of_length_le hshort, List.append_nil,
      Nat.ofDigitChars_append, ofDigitChars_digits, Nat.ofDigitChars_replicate_zero,
      ← Nat.cast_sub hshort, zpow_natCast]
    push_cast
    simp
    ring
  · rw [Nat.sub_eq_zero_of_le (by omega), List.replicate_zero, List.append_nil,
      List.take_append_drop, ofDigitChars_digits, List.length_drop]
    congr 2
    omega

/-- A positive number is read back from any layout. -/
lemma Layout.unsigned?_positive (l : Layout) (negative : Bool) (s : Significand) :
    ∃ d k, unsigned? negative (l.positive s) = some (.finite negative d k) ∧
      (d * 10 ^ k : ℚ) = s.value := by
  rw [positive]
  split_ifs with hmark hsmall
  · exact unsigned?_marked negative s
  · exact unsigned?_small negative l.keepsPoint hsmall
  · exact unsigned?_large negative l.keepsPoint (by omega) (by omega)

/-! ### Signs -/

/-- A text that starts with a digit is no name of a special value. -/
lemma literal?_of_isDigit {c : Char} (hc : c.isDigit = true) (negative : Bool) (r : List Char) :
    literal? ((if negative then ['-'] else []) ++ c :: r) = unsigned? negative (c :: r) := by
  have hsign : takeSign ((if negative then ['-'] else []) ++ c :: r) = (negative, c :: r) := by
    cases negative with
    | true => rfl
    | false =>
      change takeSign (c :: r) = _
      rw [takeSign]
      · rintro s ⟨⟩
        cases hc
      · rintro s ⟨⟩
        cases hc
  have hlower : c.toLower = c := by
    refine dif_neg ?_
    rintro ⟨hupper, -⟩
    have hge : 65 ≤ c.toNat := hupper
    have := (toNat_of_isDigit hc).2
    omega
  have hname : ∀ s : List Char, s.head?.all Char.isDigit = false → lower (c :: r) ≠ s := by
    rintro s hs rfl
    simp [lower, hlower, hc] at hs
  rw [literal?, hsign]
  simp only [hname "nan".toList rfl, hname "inf".toList rfl, hname "infinity".toList rfl, or_self,
    if_false]

lemma exists_pointed_eq_cons (keepsPoint : Bool) (behind : List Char) (hw : AreDigits whole)
    (hne : whole ≠ []) :
    ∃ c r, pointed keepsPoint whole behind = c :: r ∧ c.isDigit = true := by
  obtain ⟨c, w, rfl⟩ := List.exists_cons_of_ne_nil hne
  refine ⟨c, (pointed keepsPoint (c :: w) behind).tail, ?_, hw c List.mem_cons_self⟩
  rw [pointed]
  split_ifs <;> rfl

/-- A number in a layout starts with a digit. -/
lemma Layout.exists_positive_eq_cons (l : Layout) (s : Significand) :
    ∃ c r, l.positive s = c :: r ∧ c.isDigit = true := by
  have hds := areDigits_toDigits s.digits
  have hne : Nat.toDigits 10 s.digits ≠ [] := Nat.toDigits_ne_nil
  rw [positive]
  split_ifs
  · obtain ⟨c, r, hr, hc⟩ := exists_pointed_eq_cons false ((Nat.toDigits 10 s.digits).drop 1)
      (hds.take 1) (by simp)
    exact ⟨c, r ++ 'e' :: exponentText s.exponent, by rw [hr]; rfl, hc⟩
  · exact exists_pointed_eq_cons _ _ areDigits_zero (by simp)
  · exact exists_pointed_eq_cons _ _
      ((hds.take _).append (areDigits_replicate _)) (by simp)

/-- A finite double is written as a literal of the number that its digits stand for. -/
theorem Layout.literal?_write (l : Layout) (digits : ℕ → ℤ → Bool → Significand) (negative : Bool)
    (m : ℕ) (q : ℤ) (narrowBelow : Bool) :
    ∃ d k, literal? (l.write digits (.finite negative m q narrowBelow)) =
        some (.finite negative d k) ∧
      (d * 10 ^ k : ℚ) = if m = 0 then 0 else (digits m q narrowBelow).value := by
  rw [write]
  by_cases hm : m = 0
  · simp only [if_pos hm]
    obtain ⟨c, r, hr, hc⟩ := exists_pointed_eq_cons l.keepsPoint [] areDigits_zero (by simp)
    obtain ⟨d, k, hread, hdk⟩ := unsigned?_pointed negative l.keepsPoint
      areDigits_zero (show AreDigits [] by simp [AreDigits]) (by simp) .nothing
    rw [List.append_nil, hr] at hread
    refine ⟨d, k, ?_, ?_⟩
    · rw [hr, literal?_of_isDigit hc, hread]
    · rw [hdk]
      simp [Nat.ofDigitChars_cons]
  · simp only [if_neg hm]
    obtain ⟨c, r, hr, hc⟩ := l.exists_positive_eq_cons (digits m q narrowBelow)
    obtain ⟨d, k, hread, hdk⟩ := l.unsigned?_positive negative (digits m q narrowBelow)
    rw [hr] at hread
    refine ⟨d, k, ?_, hdk⟩
    rw [hr, literal?_of_isDigit hc, hread]

end Metrology.Decimal
