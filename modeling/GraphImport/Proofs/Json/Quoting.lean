import GraphImport.Json.Quote
import GraphImport.Proofs.Result

/-!
# Reading JSON strings back

A string that was written between quotes is read back, whatever stands behind it. The writer has one
form for every character, and the reader takes every form for the character that it was written for.

* `Json.IsStringText` — how a string is written, with `Json.isStringText_quote`.
* `Json.escapedChar_cases` — how a character is written, and that it is read back.
* `Json.readQuoted_escapedChar` — a written character is read back.
* `Json.readQuoted_quote` — a written string is read back.
-/

namespace GraphImport.Json

/-! ## How strings are written -/

/-- The characters with an escape of one letter, each with its letter. -/
def shortEscapes : List (Char × Char) :=
  [('"', '"'), ('\\', '\\'), ('\x08', 'b'), ('\x0c', 'f'), ('\n', 'n'), ('\r', 'r'), ('\t', 't')]

/-- The hexadecimal digits in lower case. -/
def hexDigits : List Char := "0123456789abcdef".toList

/-- **A character between the quotes**: behind a backslash if it has a short escape or is another
control, and as it is otherwise. -/
inductive IsCharText : Char → String → Prop where
  /-- A backslash and a letter. -/
  | short {c letter : Char} (h : (c, letter) ∈ shortEscapes) :
    IsCharText c (String.ofList ['\\', letter])
  /-- The code of another control. -/
  | control {c high low : Char} (hc : c < ' ') (hshort : c ∉ shortEscapes.map Prod.fst)
    (hhigh : hexDigits[c.toNat / 16]? = some high) (hlow : hexDigits[c.toNat % 16]? = some low) :
    IsCharText c ("\\u00" ++ String.ofList [high, low])
  /-- The character. -/
  | raw {c : Char} (hc : ¬c < ' ') (hshort : c ∉ shortEscapes.map Prod.fst) :
    IsCharText c (String.singleton c)

/-- **A string as JSON text**: its characters one by one between quotes. -/
inductive IsStringText (s : String) : String → Prop where
  /-- The texts of its characters. -/
  | quoted {parts : List String} (h : List.Forall₂ IsCharText s.toList parts) :
    IsStringText s ("\"" ++ String.join parts ++ "\"")

/-- The characters with a short escape. -/
theorem mem_shortEscapes {c : Char} : c ∈ shortEscapes.map Prod.fst ↔
    c = '"' ∨ c = '\\' ∨ c = '\x08' ∨ c = '\x0c' ∨ c = '\n' ∨ c = '\r' ∨ c = '\t' := by
  simp only [shortEscapes, List.map_cons, List.map_nil, List.mem_cons, List.not_mem_nil, or_false]

/-- A digit stands in its place among the digits. -/
theorem getElem?_hexDigits {n : Nat} (h : n < 16) : hexDigits[n]? = some (hexDigit n) := by
  have hall : ∀ n < 16, hexDigits[n]? = some (hexDigit n) := by decide
  exact hall n h

/-- Every character is written in its form. -/
theorem isCharText_escapedChar (c : Char) : IsCharText c (escapedChar c) := by
  by_cases hshort : c ∈ shortEscapes.map Prod.fst
  · obtain ⟨⟨c, letter⟩, hmem, rfl⟩ := List.mem_map.mp hshort
    have hwritten : ∀ pair ∈ shortEscapes, escapedChar pair.1 = String.ofList ['\\', pair.2] := by
      decide
    rw [hwritten _ hmem]
    exact .short hmem
  · have hother := mt mem_shortEscapes.mpr hshort
    simp only [not_or] at hother
    obtain ⟨hquote, hbackslash, hbackspace, hfeed, hnewline, hreturn, htab⟩ := hother
    unfold escapedChar
    rw [if_neg hquote, if_neg hbackslash, if_neg hbackspace, if_neg hfeed, if_neg hnewline,
      if_neg hreturn, if_neg htab]
    by_cases hcontrol : c < ' '
    · have hsmall : c.toNat < 32 := hcontrol
      rw [if_pos hcontrol]
      exact .control hcontrol hshort (getElem?_hexDigits (by omega))
        (getElem?_hexDigits (Nat.mod_lt _ (by decide)))
    · rw [if_neg hcontrol]
      exact .raw hcontrol hshort

/-- **Every string is written in its form.** -/
theorem isStringText_quote (s : String) : IsStringText s (quote s) := by
  refine .quoted (List.forall₂_map_right_iff.mpr (List.forall₂_same.mpr fun c _ => ?_))
  exact isCharText_escapedChar c

/-! ## Characters -/

/-- The digits of a small number have its value. -/
theorem hexValue4?_small {n : Nat} (h : n < 32) :
    hexValue4? '0' '0' (hexDigit (n / 16)) (hexDigit (n % 16)) = some n := by
  have hall : ∀ n < 32, hexValue4? '0' '0' (hexDigit (n / 16)) (hexDigit (n % 16)) = some n := by
    decide
  exact hall n h

/-- A small code unit is no part of a surrogate pair. -/
theorem readUnicodeEscape_small {c : Char} (h : c.toNat < 32) (rest : List Char) :
    readUnicodeEscape ('0' :: '0' :: hexDigit (c.toNat / 16) :: hexDigit (c.toNat % 16) :: rest) =
      .ok (c, rest) := by
  have hdigits : readHex4 ('0' :: '0' :: hexDigit (c.toNat / 16) :: hexDigit (c.toNat % 16) ::
      rest) = .ok (c.toNat, rest) := by
    simp only [readHex4, hexValue4?_small h]
  have hlow : isLowSurrogate c.toNat = false := by
    unfold isLowSurrogate
    rw [decide_eq_false (by omega), Bool.false_and]
  have hhigh : isHighSurrogate c.toNat = false := by
    unfold isHighSurrogate
    rw [decide_eq_false (by omega), Bool.false_and]
  unfold readUnicodeEscape
  rw [hdigits]
  simp only [bind, Except.bind, hlow, hhigh, Bool.false_eq_true, if_false, Char.ofNat_toNat]
  rfl

/-- A short escape is read back. -/
theorem readEscape_short {c letter : Char} (h : (c, letter) ∈ shortEscapes) (rest : List Char) :
    readEscape (letter :: rest) = .ok (c, rest) := by
  simp only [shortEscapes, List.mem_cons, List.not_mem_nil, or_false, Prod.mk.injEq] at h
  rcases h with ⟨rfl, rfl⟩ | ⟨rfl, rfl⟩ | ⟨rfl, rfl⟩ | ⟨rfl, rfl⟩ | ⟨rfl, rfl⟩ | ⟨rfl, rfl⟩ |
    ⟨rfl, rfl⟩
  all_goals rfl

/-- **How a character is written**: behind a backslash, as one that the reader takes for it, or as
it is, if it is no control and neither a quote nor a backslash. -/
theorem escapedChar_cases (c : Char) :
    (∃ escape, (escapedChar c).toList = '\\' :: escape ∧
        ∀ rest, readEscape (escape ++ rest) = .ok (c, rest)) ∨
      (escapedChar c).toList = [c] ∧ c ≠ '"' ∧ c ≠ '\\' ∧ ¬c < ' ' := by
  have hwritten := isCharText_escapedChar c
  generalize escapedChar c = text at hwritten
  cases hwritten with
  | @short letter hmem =>
      exact .inl ⟨[letter], String.toList_ofList, readEscape_short hmem⟩
  | @control high low hcontrol _ hhigh hlow =>
      have hsmall : c.toNat < 32 := hcontrol
      rw [getElem?_hexDigits (by omega)] at hhigh
      rw [getElem?_hexDigits (Nat.mod_lt _ (by decide))] at hlow
      obtain rfl := Option.some.inj hhigh
      obtain rfl := Option.some.inj hlow
      refine .inl ⟨['u', '0', '0', hexDigit (c.toNat / 16), hexDigit (c.toNat % 16)], ?_, ?_⟩
      · simp only [String.toList_append, String.toList_ofList]
        rfl
      · exact readUnicodeEscape_small hsmall
  | raw hcontrol hshort =>
      have hother := mt mem_shortEscapes.mpr hshort
      simp only [not_or] at hother
      exact .inr ⟨String.toList_singleton c, hother.1, hother.2.1, hcontrol⟩

/-- **A written character is read back.** -/
theorem readQuoted_escapedChar (c : Char) (fuel : Nat) (done rest : List Char) :
    readQuoted (fuel + 1) done ((escapedChar c).toList ++ rest) =
      readQuoted fuel (c :: done) rest := by
  rcases escapedChar_cases c with ⟨escape, hwritten, hread⟩ | ⟨hwritten, hquote, hbackslash, hplain⟩
  · rw [hwritten, List.cons_append, readQuoted]
    simp [hread]
  · rw [hwritten, List.cons_append, List.nil_append, readQuoted]
    simp only [if_neg hquote, if_neg hbackslash, if_neg hplain]

/-! ## Strings -/

/-- Written characters are read back one after the other, up to the closing quote. -/
theorem readQuoted_join (cs : List Char) {fuel : Nat} (h : cs.length < fuel)
    (done rest : List Char) :
    readQuoted fuel done ((String.join (cs.map escapedChar)).toList ++ '"' :: rest) =
      .ok (String.ofList (done.reverse ++ cs), rest) := by
  induction cs generalizing fuel done with
  | nil =>
      obtain ⟨fuel, rfl⟩ := Nat.exists_eq_add_of_lt h
      rw [List.append_nil]
      rfl
  | cons c cs ih =>
      obtain ⟨left, rfl⟩ := Nat.exists_eq_add_of_lt h
      have hleft : cs.length < (c :: cs).length + left := by
        rw [List.length_cons]
        omega
      rw [List.map_cons, String.join_cons, String.toList_append, List.append_assoc,
        readQuoted_escapedChar, ih hleft, List.reverse_cons, List.append_assoc,
        List.singleton_append]

/-- **A written string is read back**, whatever stands behind it. -/
theorem readQuoted_quote (s : String) {fuel : Nat} (h : s.length < fuel) (rest : List Char) :
    ∃ behind, (quote s).toList ++ rest = '"' :: behind ∧
      readQuoted fuel [] behind = .ok (s, rest) := by
  refine ⟨(String.join (s.toList.map escapedChar)).toList ++ '"' :: rest, ?_, ?_⟩
  · unfold quote
    simp only [String.toList_append, List.append_assoc]
    rfl
  · have hlength : s.toList.length < fuel := by rwa [String.length_toList]
    rw [readQuoted_join s.toList hlength, List.reverse_nil, List.nil_append, String.ofList_toList]

end GraphImport.Json
