import GraphImport.Json.Numeral
import GraphImport.Proofs.Result

/-!
# Integers of JSON texts

What the reader makes of a number that is written as an integer: an optional minus sign and digits.
It keeps the value of the integer if the value fits in 64 bits, signed or unsigned. All other
integers, and zero with a minus sign, silently become doubles.

* `Json.IsInteger` — the characters of an integer, and its value.
* `Json.readNumeral_eq_ok` — which characters a number takes.
* `Json.absorb_eq` — which digits are taken into a significand of 64 bits.
* `Json.readNumber_integer` — what the reader makes of an integer.
-/

namespace GraphImport.Json

/-! ## Integers -/

/-- **The characters of an integer**: digits, perhaps behind a minus sign. -/
inductive IsInteger : List Char → Int → Prop where
  /-- Digits. -/
  | natural {digits : List Char} (hne : digits ≠ []) (h : ∀ c ∈ digits, c.isDigit = true) :
    IsInteger digits (Nat.ofDigitChars 10 digits 0)
  /-- Digits behind a minus sign. -/
  | negative {digits : List Char} (hne : digits ≠ []) (h : ∀ c ∈ digits, c.isDigit = true) :
    IsInteger ('-' :: digits) (-(Nat.ofDigitChars 10 digits 0 : Nat))

/-- Zero with a minus sign. -/
def minusZero : List Char := ['-', '0']

/-- Zero with a minus sign is zero. -/
theorem IsInteger.eq_zero {z : Int} (h : IsInteger minusZero z) : z = 0 := by
  cases h with
  | natural _ hdigits => exact absurd (hdigits '-' List.mem_cons_self) (by decide)
  | negative _ _ => rfl

/-! ## The characters of a number -/

/-- The minus sign of a number. -/
def minusText (negative : Bool) : List Char := if negative then ['-'] else []

theorem readMinus_append (text : List Char) : minusText (readMinus text).1 ++ (readMinus text).2 = text := by
  unfold readMinus minusText
  split
  · rfl
  · rfl

theorem spanDigits_append (text : List Char) : (spanDigits text).1 ++ (spanDigits text).2 = text :=
  List.takeWhile_append_dropWhile

theorem isDigit_of_mem_spanDigits {text : List Char} :
    ∀ c ∈ (spanDigits text).1, c.isDigit = true := by
  intro c hc
  exact List.all_eq_true.mp List.all_takeWhile c hc

/-- The digits in front of the point. -/
theorem readWholePart_eq_ok {text whole rest : List Char} (h : readWholePart text = .ok (whole, rest)) :
    text = whole ++ rest ∧ whole ≠ [] ∧ ∀ c ∈ whole, c.isDigit = true := by
  unfold readWholePart at h
  split at h
  · exact nomatch h
  · split at h
    · cases h
      exact ⟨rfl, by simp, by simp⟩
    · rename_i c after
      by_cases hc : c.isDigit = true
      · rw [if_pos hc] at h
        exact nomatch h
      · rw [if_neg hc] at h
        cases h
        exact ⟨rfl, by simp, by simp⟩
  · rename_i c after hzero
    by_cases hc : c.isDigit = true
    · rw [if_pos hc] at h
      have hspan := Except.ok.inj h
      have happend := spanDigits_append (c :: after)
      have hdigits : ∀ d ∈ (spanDigits (c :: after)).1, d.isDigit = true :=
        isDigit_of_mem_spanDigits
      have hne : (spanDigits (c :: after)).1 ≠ [] := by simp [spanDigits, hc]
      rw [hspan] at happend hdigits hne
      exact ⟨happend.symm, hne, hdigits⟩
    · rw [if_neg hc] at h
      exact nomatch h

/-- Digits that do not start with a zero have a value. -/
theorem ofDigitChars_pos {c : Char} {digits : List Char} (hdigit : c.isDigit = true) (hne : c ≠ '0') :
    0 < Nat.ofDigitChars 10 (c :: digits) 0 := by
  have hvalue : 0 < c.toNat - '0'.toNat := by
    unfold Char.isDigit at hdigit
    rw [Bool.and_eq_true, decide_eq_true_iff, decide_eq_true_iff] at hdigit
    have hlower : 48 ≤ c.toNat := UInt32.le_iff_toNat_le.mp hdigit.1
    have hzero : c.toNat ≠ 48 := fun h => hne (Char.toNat_inj.mp h)
    change 0 < c.toNat - 48
    omega
  have hpow : 0 < 10 ^ digits.length := Nat.pow_pos (by decide)
  rw [Nat.ofDigitChars_cons, Nat.ofDigitChars_eq_ofDigitChars_zero]
  have hle := Nat.le_mul_of_pos_left (10 * 0 + (c.toNat - '0'.toNat)) hpow
  omega

/-- Zero is written with one digit. -/
theorem readWholePart_eq_zero {text whole rest : List Char}
    (h : readWholePart text = .ok (whole, rest)) (hzero : Nat.ofDigitChars 10 whole 0 = 0) :
    whole = ['0'] := by
  unfold readWholePart at h
  split at h
  · exact nomatch h
  · split at h
    · cases h
      rfl
    · rename_i c after
      by_cases hc : c.isDigit = true
      · rw [if_pos hc] at h
        exact nomatch h
      · rw [if_neg hc] at h
        cases h
        rfl
  · rename_i c after hfirst
    by_cases hc : c.isDigit = true
    · rw [if_pos hc] at h
      have hspan : (spanDigits (c :: after)).1 = c :: (spanDigits after).1 := by
        simp [spanDigits, hc]
      rw [Except.ok.inj h] at hspan
      have hpos : 0 < Nat.ofDigitChars 10 (c :: (spanDigits after).1) 0 := by
        apply ofDigitChars_pos hc
        rintro rfl
        exact hfirst rfl
      dsimp only at hspan
      rw [← hspan] at hpos
      omega
    · rw [if_neg hc] at h
      exact nomatch h

/-- The characters that make a number something else than an integer. -/
def marksFraction (c : Char) : Prop := c = '.' ∨ c = 'e' ∨ c = 'E'

/-- Digits are taken from the text. -/
theorem readDigits_eq_ok {text digits rest : List Char} (h : readDigits text = .ok (digits, rest)) :
    text = digits ++ rest := by
  unfold readDigits at h
  split at h
  · exact nomatch h
  · rename_i c after
    by_cases hc : c.isDigit = true
    · rw [if_pos hc] at h
      have happend := spanDigits_append (c :: after)
      rw [Except.ok.inj h] at happend
      exact happend.symm
    · rw [if_neg hc] at h
      exact nomatch h

/-- The sign of an exponent is taken from the text. -/
theorem readSign_append (text : List Char) : ∃ sign, text = sign ++ (readSign text).2 := by
  unfold readSign
  split
  · exact ⟨['+'], rfl⟩
  · exact ⟨['-'], rfl⟩
  · exact ⟨[], rfl⟩

/-- The fraction, if there is one, starts with a point. -/
theorem readFraction_eq_ok {text rest : List Char} {fraction : Option (List Char)}
    (h : readFraction text = .ok (fraction, rest)) :
    ∃ written, text = written ++ rest ∧
      (fraction = none ∧ written = [] ∨ ∃ c ∈ written, marksFraction c) := by
  unfold readFraction at h
  split at h
  · rename_i after
    rcases hdigits : readDigits after with fault | ⟨digits, behind⟩
    · rw [hdigits] at h
      exact nomatch h
    · rw [hdigits] at h
      cases h
      rw [readDigits_eq_ok hdigits]
      exact ⟨'.' :: digits, rfl, .inr ⟨'.', List.mem_cons_self, .inl rfl⟩⟩
  · cases h
    exact ⟨[], rfl, .inl ⟨rfl, rfl⟩⟩

/-- The exponent, if there is one, starts with its letter. -/
theorem readExponent_eq_ok {text rest : List Char} {exponent : Option Exponent}
    (h : readExponent text = .ok (exponent, rest)) :
    ∃ written, text = written ++ rest ∧
      (exponent = none ∧ written = [] ∨ ∃ c ∈ written, marksFraction c) := by
  unfold readExponent at h
  split at h
  · cases h
    exact ⟨[], rfl, .inl ⟨rfl, rfl⟩⟩
  · rename_i c after
    by_cases hc : c = 'e' ∨ c = 'E'
    · rw [if_pos hc] at h
      rcases hdigits : readDigits (readSign after).2 with fault | ⟨digits, behind⟩
      · rw [hdigits] at h
        exact nomatch h
      · rw [hdigits] at h
        cases h
        obtain ⟨sign, hsign⟩ := readSign_append after
        rw [readDigits_eq_ok hdigits, ← List.append_assoc] at hsign
        refine ⟨c :: (sign ++ digits), ?_, .inr ⟨c, List.mem_cons_self, .inr hc⟩⟩
        rw [hsign, List.cons_append]
    · rw [if_neg hc] at h
      cases h
      exact ⟨[], rfl, .inl ⟨rfl, rfl⟩⟩

/-- **The characters of a number**: a minus sign, the digits in front of the point, and nothing else
unless a point or the letter of an exponent is among them. -/
theorem readNumeral_eq_ok {text rest : List Char} {numeral : Numeral}
    (h : readNumeral text = .ok (numeral, rest)) :
    numeral.whole ≠ [] ∧ (∀ c ∈ numeral.whole, c.isDigit = true) ∧
      (Nat.ofDigitChars 10 numeral.whole 0 = 0 → numeral.whole = ['0']) ∧
      ∃ written, text = minusText numeral.negative ++ numeral.whole ++ written ++ rest ∧
        (numeral.fraction = none ∧ numeral.exponent = none ∧ written = [] ∨
          ∃ c ∈ written, marksFraction c) := by
  unfold readNumeral at h
  obtain ⟨⟨whole, afterWhole⟩, hwhole, h⟩ := bind_eq_ok.mp h
  obtain ⟨⟨fraction, afterFraction⟩, hfraction, h⟩ := bind_eq_ok.mp h
  obtain ⟨⟨exponent, afterExponent⟩, hexponent, h⟩ := bind_eq_ok.mp h
  cases h
  obtain ⟨htext, hne, hdigits⟩ := readWholePart_eq_ok hwhole
  obtain ⟨fractionText, rfl, hfractionText⟩ := readFraction_eq_ok hfraction
  obtain ⟨exponentText, rfl, hexponentText⟩ := readExponent_eq_ok hexponent
  refine ⟨hne, hdigits, readWholePart_eq_zero hwhole, fractionText ++ exponentText, ?_, ?_⟩
  · have hminus := readMinus_append text
    rw [htext] at hminus
    simpa only [List.append_assoc] using hminus.symm
  · rcases hfractionText with ⟨hnoFraction, rfl⟩ | ⟨c, hc, hmarks⟩
    · rcases hexponentText with ⟨hnoExponent, rfl⟩ | ⟨c, hc, hmarks⟩
      · exact .inl ⟨hnoFraction, hnoExponent, rfl⟩
      · exact .inr ⟨c, List.mem_append_right _ hc, hmarks⟩
    · exact .inr ⟨c, List.mem_append_left _ hc, hmarks⟩

/-- The characters of an integer are a minus sign and digits. -/
theorem IsInteger.eq_append {text : List Char} {z : Int} (h : IsInteger text z) :
    ∃ negative digits, text = minusText negative ++ digits ∧ digits ≠ [] ∧
      (∀ c ∈ digits, c.isDigit = true) ∧
      z = if negative then -(Nat.ofDigitChars 10 digits 0 : Int) else Nat.ofDigitChars 10 digits 0 := by
  cases h with
  | natural hne h => exact ⟨false, text, rfl, hne, h, rfl⟩
  | @negative digits hne h => exact ⟨true, digits, rfl, hne, h, rfl⟩

/-- A sign and digits can be told apart. -/
theorem minusText_append_inj {negative negative' : Bool} {digits digits' : List Char}
    (h : ∀ c ∈ digits, c.isDigit = true) (h' : ∀ c ∈ digits', c.isDigit = true)
    (heq : minusText negative ++ digits = minusText negative' ++ digits') :
    negative = negative' ∧ digits = digits' := by
  have hminus : ∀ {digits : List Char}, (∀ c ∈ digits, c.isDigit = true) → '-' ∉ digits :=
    fun h hmem => absurd (h '-' hmem) (by decide)
  cases negative with
  | false =>
      cases negative' with
      | false => exact ⟨rfl, heq⟩
      | true =>
          change digits = '-' :: digits' at heq
          rw [heq] at h
          exact absurd List.mem_cons_self (hminus h)
  | true =>
      cases negative' with
      | true => exact ⟨rfl, List.tail_eq_of_cons_eq heq⟩
      | false =>
          change '-' :: digits = digits' at heq
          rw [← heq] at h'
          exact absurd List.mem_cons_self (hminus h')

/-- **An integer is read as its sign and its digits.** -/
theorem readNumeral_integer {text rest : List Char} {z : Int} {numeral : Numeral}
    (htext : IsInteger text z) (h : readNumeral (text ++ rest) = .ok (numeral, rest)) :
    numeral.fraction = none ∧ numeral.exponent = none ∧
      z = (if numeral.negative then -(Nat.ofDigitChars 10 numeral.whole 0 : Int)
        else Nat.ofDigitChars 10 numeral.whole 0) ∧
      (text = minusZero ↔ numeral.negative = true ∧ z = 0) := by
  obtain ⟨negative, digits, rfl, hne, hdigits, rfl⟩ := htext.eq_append
  obtain ⟨hwhole, hwholeDigits, hzero, written, hwritten, hrest⟩ := readNumeral_eq_ok h
  have htext := List.append_cancel_right hwritten
  have hplain : ∀ c ∈ written, ¬marksFraction c := by
    intro c hc hmarks
    have hmem : c ∈ minusText negative ++ digits := by
      rw [htext]
      exact List.mem_append_right _ hc
    have hchar : c = '-' ∨ c.isDigit = true := by
      rcases List.mem_append.mp hmem with hsign | hdigit
      · cases negative with
        | false => exact absurd hsign List.not_mem_nil
        | true => exact .inl (List.mem_singleton.mp hsign)
      · exact .inr (hdigits c hdigit)
    rcases hmarks with rfl | rfl | rfl
    all_goals simp at hchar
  rcases hrest with ⟨hfraction, hexponent, rfl⟩ | ⟨c, hc, hmarks⟩
  · rw [List.append_nil] at htext
    obtain ⟨rfl, rfl⟩ := minusText_append_inj hdigits hwholeDigits htext
    refine ⟨hfraction, hexponent, rfl, ?_, ?_⟩
    · intro hminus
      change minusText numeral.negative ++ numeral.whole = minusText true ++ ['0'] at hminus
      have hzeroDigit : ∀ c ∈ ['0'], c.isDigit = true := List.all_eq_true.mp (by decide)
      obtain ⟨hnegative, hdigit⟩ := minusText_append_inj hdigits hzeroDigit hminus
      rw [hnegative, hdigit]
      exact ⟨rfl, rfl⟩
    · rintro ⟨hnegative, hvalue⟩
      rw [if_pos hnegative, Int.neg_eq_zero, Int.natCast_eq_zero] at hvalue
      rw [hnegative, hzero hvalue]
      rfl
  · exact absurd hmarks (hplain c hc)

/-! ## Significands of 64 bits -/

/-- **Digits are taken into a significand** as long as its value stays below 64 bits. -/
theorem absorb_eq (digits : List Char) {significand : Nat} (h : significand < 2 ^ 64) :
    Nat.ofDigitChars 10 digits significand < 2 ^ 64 ∧
        absorb significand digits = (Nat.ofDigitChars 10 digits significand, 0) ∨
      2 ^ 64 ≤ Nat.ofDigitChars 10 digits significand ∧ (absorb significand digits).2 ≠ 0 := by
  induction digits generalizing significand with
  | nil => exact .inl ⟨h, rfl⟩
  | cons digit rest ih =>
      have hnext : 10 * significand + (digit.toNat - '0'.toNat) =
          significand * 10 + digitValue digit := by rw [Nat.mul_comm]; rfl
      rw [Nat.ofDigitChars_cons, hnext, absorb]
      by_cases hfits : significand * 10 + digitValue digit < 2 ^ 64
      · rw [if_pos hfits]
        exact ih hfits
      · rw [if_neg hfits]
        refine .inr ⟨?_, Nat.succ_ne_zero _⟩
        rw [Nat.ofDigitChars_eq_ofDigitChars_zero]
        have hpow : 0 < 10 ^ rest.length := Nat.pow_pos (by decide)
        have hle := Nat.le_mul_of_pos_left (significand * 10 + digitValue digit) hpow
        omega

/-- What the reader makes of the parts of an integer. -/
theorem Numeral.value_integer {numeral : Numeral} {rest : List Char} {number : Number}
    (hfraction : numeral.fraction = none) (hexponent : numeral.exponent = none)
    (h : numeral.value rest = .ok number) :
    Nat.ofDigitChars 10 numeral.whole 0 < 2 ^ 64 ∧
        number = wholeNumber numeral.negative (Nat.ofDigitChars 10 numeral.whole 0) ∨
      2 ^ 64 ≤ Nat.ofDigitChars 10 numeral.whole 0 ∧ ∃ x, number = .double x := by
  unfold Numeral.value at h
  rcases absorb_eq numeral.whole (Nat.two_pow_pos 64) with ⟨hfits, habsorb⟩ | ⟨hlarge, hleft⟩
  · rw [habsorb] at h
    dsimp only at h
    rw [if_pos ⟨rfl, hfraction, hexponent⟩] at h
    exact .inl ⟨hfits, (Except.ok.inj h).symm⟩
  · refine .inr ⟨hlarge, ?_⟩
    generalize absorb 0 numeral.whole = absorbed at h hleft
    obtain ⟨significand, left⟩ := absorbed
    dsimp only at h hleft
    rw [if_neg fun hall => hleft hall.1] at h
    split at h
    · split at h
      · exact ⟨_, (Except.ok.inj h).symm⟩
      · exact nomatch h
    · split at h
      · exact ⟨_, (Except.ok.inj h).symm⟩
      · exact nomatch h

/-- **What the reader makes of an integer**: it keeps an integer of 64 bits, signed or unsigned, and
makes a double of every other integer and of zero with a minus sign. -/
theorem readNumber_integer {text rest : List Char} {z : Int} {number : Number}
    (htext : IsInteger text z) (h : readNumber (text ++ rest) = .ok (number, rest)) :
    (-2 ^ 63 ≤ z ∧ z < 2 ^ 64 ∧ text ≠ minusZero ∧ number = .integer z) ∨
      ((z < -2 ^ 63 ∨ 2 ^ 64 ≤ z ∨ text = minusZero) ∧ ∃ x, number = .double x) := by
  obtain ⟨⟨numeral, behind⟩, hnumeral, h⟩ := bind_eq_ok.mp h
  obtain ⟨found, hvalue, h⟩ := bind_eq_ok.mp h
  cases h
  obtain ⟨hfraction, hexponent, hz, hminusZero⟩ := readNumeral_integer htext hnumeral
  rcases Numeral.value_integer hfraction hexponent hvalue with ⟨hfits, rfl⟩ | ⟨hlarge, hdouble⟩
  · generalize Nat.ofDigitChars 10 numeral.whole 0 = magnitude at hz hfits ⊢
    unfold wholeNumber
    cases hnegative : numeral.negative with
    | false =>
        rw [hnegative, if_neg Bool.false_ne_true] at hz
        have hne : text ≠ minusZero := by
          intro h
          rw [hminusZero, hnegative] at h
          exact nomatch h.1
        refine .inl ⟨by omega, by omega, hne, ?_⟩
        rw [if_neg Bool.false_ne_true, hz]
    | true =>
        rw [hnegative, if_pos rfl] at hz
        rw [if_pos rfl]
        by_cases hdouble : magnitude = 0 ∨ 2 ^ 63 < magnitude
        · rw [if_pos hdouble]
          refine .inr ⟨?_, _, rfl⟩
          rcases hdouble with hzero | hlarge
          · exact .inr (.inr (hminusZero.mpr ⟨hnegative, by omega⟩))
          · exact .inl (by omega)
        · rw [if_neg hdouble, hz]
          refine .inl ⟨by omega, by omega, fun h => ?_, rfl⟩
          obtain ⟨-, hzero⟩ := hminusZero.mp h
          omega
  · refine .inr ⟨?_, hdouble⟩
    generalize Nat.ofDigitChars 10 numeral.whole 0 = magnitude at hz hlarge
    cases hnegative : numeral.negative with
    | false =>
        rw [hnegative, if_neg Bool.false_ne_true] at hz
        exact .inr (.inl (by omega))
    | true =>
        rw [hnegative, if_pos rfl] at hz
        exact .inl (by omega)

end GraphImport.Json
