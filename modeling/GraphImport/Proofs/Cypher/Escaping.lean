import GraphImport.Cypher.Literal
import GraphImport.Proofs.Text.Joined

/-!
# Escaped strings

A string is escaped character by character. One without special characters is taken as it is, and
that is what its characters give one by one as well, since exactly the special ones are written in
another way. What is written for a character cannot be taken for anything else: a backslash begins
what stands for a special character, and no special character stands for itself. So escaped strings
can be read back, and no other text can.

* `Cypher.escapedChar_eq_singleton` — which characters are written as they are.
* `Cypher.escape_eq_join` — strings are escaped character by character.
* `Cypher.unescape` — the string that an escaped one stands for, with `Cypher.unescape_eq_some`.
* `escape_characterwise` — escaping is a code of characters.
-/

namespace GraphImport

namespace Cypher

/-! ## Characters -/

/-- A character that is not special is written as it is. -/
theorem escapedChar_of_not_mem {c : Char} (h : c ∉ special) :
    escapedChar c = String.singleton c := by
  simp only [special, List.mem_cons, List.not_mem_nil, or_false, not_or] at h
  obtain ⟨hbackslash, hquote, hdouble, hfeed, hreturn, htab, hnull⟩ := h
  unfold escapedChar
  rw [if_neg hbackslash, if_neg hquote, if_neg hdouble, if_neg hfeed, if_neg hreturn, if_neg htab,
    if_neg hnull]

/-- A special character is written with a backslash and at least one more character. -/
theorem escapedChar_of_mem {c : Char} (h : c ∈ special) :
    ∃ mark rest, (escapedChar c).toList = '\\' :: mark :: rest := by
  simp only [special, List.mem_cons, List.not_mem_nil, or_false] at h
  rcases h with rfl | rfl | rfl | rfl | rfl | rfl | rfl
  all_goals exact ⟨_, _, rfl⟩

/-- **Exactly the characters that are not special are written as they are.** -/
theorem escapedChar_eq_singleton {c : Char} : escapedChar c = String.singleton c ↔ c ∉ special := by
  refine ⟨fun heq hspecial => ?_, escapedChar_of_not_mem⟩
  obtain ⟨mark, rest, hwritten⟩ := escapedChar_of_mem hspecial
  rw [heq, String.toList_singleton] at hwritten
  exact absurd hwritten (by simp)

/-! ## Strings -/

/-- A string is escaped when one of its characters is special. -/
theorem needsEscape_iff {s : String} : needsEscape s = true ↔ ∃ c ∈ s.toList, c ∈ special := by
  unfold needsEscape
  simp only [List.any_eq_true, List.contains_iff_mem]

/-- **A string is escaped character by character**, also when it is taken as it is. -/
theorem escape_eq_join (s : String) : escape s = String.join (s.toList.map escapedChar) := by
  unfold escape
  split
  case isTrue => rfl
  case isFalse hplain =>
    have hchars : ∀ c ∈ s.toList, escapedChar c = String.singleton c := fun c hc =>
      escapedChar_of_not_mem fun hspecial => hplain (needsEscape_iff.mpr ⟨c, hc, hspecial⟩)
    rw [List.map_congr_left hchars, join_singletons]

/-- The characters of an escaped string. -/
theorem toList_escape (s : String) :
    (escape s).toList = s.toList.flatMap fun c => (escapedChar c).toList := by
  rw [escape_eq_join, String.toList_join, List.flatMap_map]

/-- Two strings one behind the other are escaped one behind the other. -/
theorem escape_append (s t : String) : escape (s ++ t) = escape s ++ escape t := by
  rw [escape_eq_join, escape_eq_join, escape_eq_join, String.toList_append, List.map_append,
    String.join_append]

/-! ## Reading back -/

/-- The special character that a mark behind a backslash stands for. The null character has no
mark. -/
def marked? : Char → Option Char
  | '\\' => some '\\'
  | '\x27' => some '\x27'
  | '"' => some '"'
  | 'n' => some '\n'
  | 'r' => some '\r'
  | 't' => some '\t'
  | _ => none

/-- The characters that those of an escaped string stand for. -/
def unescapeChars : List Char → Option (List Char)
  | [] => some []
  | '\\' :: 'u' :: '0' :: '0' :: '0' :: '0' :: rest => (unescapeChars rest).map ('\x00' :: ·)
  | '\\' :: mark :: rest => (marked? mark).bind fun c => (unescapeChars rest).map (c :: ·)
  | c :: rest => if c ∈ special then none else (unescapeChars rest).map (c :: ·)

/-- The string that an escaped one stands for. -/
def unescape (text : String) : Option String := (unescapeChars text.toList).map String.ofList

/-- A mark is written for the character that it stands for. -/
theorem toList_escapedChar_of_marked {mark c : Char} (h : marked? mark = some c) :
    (escapedChar c).toList = ['\\', mark] := by
  unfold marked? at h
  split at h
  case h_7 => exact nomatch h
  all_goals
    cases h
    rfl

/-- What is written for a character is read back, whatever follows. -/
theorem unescapeChars_escapedChar (c : Char) (rest : List Char) :
    unescapeChars ((escapedChar c).toList ++ rest) = (unescapeChars rest).map (c :: ·) := by
  by_cases h : c ∈ special
  · simp only [special, List.mem_cons, List.not_mem_nil, or_false] at h
    rcases h with rfl | rfl | rfl | rfl | rfl | rfl | rfl
    all_goals rfl
  · -- A character that is not special is no backslash, so it begins nothing that is marked.
    have hne : c ≠ '\\' := fun heq => h (heq ▸ List.mem_cons_self)
    rw [escapedChar_of_not_mem h, String.toList_singleton, List.singleton_append, unescapeChars]
    · exact if_neg h
    · intro after hc
      exact absurd hc hne
    · intro mark after hc
      exact absurd hc hne

/-- An escaped string is read back. -/
theorem unescapeChars_flatMap (s : List Char) :
    unescapeChars (s.flatMap fun c => (escapedChar c).toList) = some s := by
  induction s with
  | nil => rfl
  | cons c rest ih => rw [List.flatMap_cons, unescapeChars_escapedChar, ih, Option.map_some]

/-- Nothing but what is written for characters is read. -/
theorem eq_flatMap_of_unescapeChars {text s : List Char} (h : unescapeChars text = some s) :
    text = s.flatMap fun c => (escapedChar c).toList := by
  -- Each clause of the reader takes exactly what is written for one character.
  fun_induction unescapeChars text generalizing s with
  | case1 =>
      cases h
      rfl
  | case2 rest ih =>
      obtain ⟨s, hs, rfl⟩ := Option.map_eq_some_iff.mp h
      rw [List.flatMap_cons, ← ih hs]
      rfl
  | case3 mark rest hnull ih =>
      obtain ⟨c, hmark, hrest⟩ := Option.bind_eq_some_iff.mp h
      obtain ⟨s, hs, rfl⟩ := Option.map_eq_some_iff.mp hrest
      rw [List.flatMap_cons, ← ih hs, toList_escapedChar_of_marked hmark]
      rfl
  | case4 => exact nomatch h
  | case5 c rest hnull hmark hplain ih =>
      obtain ⟨s, hs, rfl⟩ := Option.map_eq_some_iff.mp h
      rw [List.flatMap_cons, ← ih hs, escapedChar_of_not_mem hplain, String.toList_singleton]
      rfl

/-- **Exactly the escaped strings are read back**, each to the string that was escaped. -/
theorem unescape_eq_some {text s : String} : unescape text = some s ↔ text = escape s := by
  unfold unescape
  constructor
  · intro h
    obtain ⟨characters, hread, rfl⟩ := Option.map_eq_some_iff.mp h
    apply String.toList_inj.mp
    rw [toList_escape, String.toList_ofList]
    exact eq_flatMap_of_unescapeChars hread
  · rintro rfl
    rw [toList_escape, unescapeChars_flatMap, Option.map_some, String.ofList_toList]

end Cypher

/-- **Escaping is a code of characters.** A string is escaped exactly if one of its characters is
written in another way; escaped or not, it is written character by character, so that two strings
one behind the other are escaped one behind the other. And one function reads back what was escaped,
and nothing else. -/
theorem escape_characterwise (s t : String) :
    (Cypher.needsEscape s = true ↔ ∃ c ∈ s.toList, Cypher.escapedChar c ≠ String.singleton c) ∧
      Cypher.escape s = String.join (s.toList.map Cypher.escapedChar) ∧
      Cypher.escape (s ++ t) = Cypher.escape s ++ Cypher.escape t ∧
      ∀ text, Cypher.unescape text = some s ↔ text = Cypher.escape s := by
  refine ⟨?_, Cypher.escape_eq_join s, Cypher.escape_append s t, fun _ => Cypher.unescape_eq_some⟩
  simp only [Cypher.needsEscape_iff, ne_eq, Cypher.escapedChar_eq_singleton, Decidable.not_not]

/-- What looks like an escape already is escaped again, and a raw quote is not read. -/
example :
    Cypher.escape "\\u0000\x00" = "\\\\u0000\\u0000" ∧
      Cypher.unescape "\\\\u0000\\u0000" = some "\\u0000\x00" ∧ Cypher.unescape "it's" = none := by
  decide

end GraphImport
