import GraphImport.Json.Skip
import GraphImport.Proofs.Json.IntegerText
import GraphImport.Proofs.Json.Unmerged
import Mathlib.Data.List.DropRight
import Mathlib.Data.List.TakeWhile

/-!
# Passing over values that can be read

A member that nobody asked for is passed over with a stack of open brackets, and not by recursion.
Where a value can be read it can be passed over, and the same text is left behind it. The stack needs
at most two steps for a character.

* `Json.PassesOver` — what a reader reads can be passed over.
* `Json.readScalar_passes` — values that are neither arrays nor objects.
* `Json.readItems_passes`, `Json.readPairs_passes` — arrays and objects, with any reader.
* `Json.readUnmerged_passes` — all values; `Json.skipValue_eq_ok` — one value.
-/

namespace GraphImport.Json

variable {α : Type}

/-! ## Blanks and words -/

theorem length_skipBlank_le (text : List Char) : (skipBlank text).length ≤ text.length :=
  List.length_dropWhile_le isBlank text

theorem skipBlank_skipBlank (text : List Char) : skipBlank (skipBlank text) = skipBlank text :=
  List.dropWhile_idempotent isBlank text

/-- What starts behind blanks is not longer than the text. -/
theorem length_lt_of_skipBlank {text rest : List Char} {c : Char} (h : skipBlank text = c :: rest) :
    rest.length < text.length := by
  have hlength := length_skipBlank_le text
  rw [h, List.length_cons] at hlength
  omega

/-- A word leaves no more than it is given. -/
theorem readWord_length {word text rest : List Char} (h : readWord word text = .ok rest) :
    rest.length ≤ text.length := by
  induction word generalizing text with
  | nil =>
      cases h
      exact Nat.le_refl _
  | cons w word ih =>
      cases text with
      | nil => exact nomatch h
      | cons c text =>
          unfold readWord at h
          split at h
          · exact Nat.le_succ_of_le (ih h)
          · exact nomatch h

/-- A colon stands behind blanks. -/
theorem readColon_length {text rest : List Char} (h : readColon text = .ok rest) :
    rest.length < text.length := by
  unfold readColon at h
  split at h
  · exact nomatch h
  · rename_i c after hskip
    split at h
    · cases h
      exact length_lt_of_skipBlank hskip
    · exact nomatch h

/-! ## Strings -/

/-- Four digits are taken from the text. -/
theorem readHex4_length {text rest : List Char} {n : Nat} (h : readHex4 text = .ok (n, rest)) :
    rest.length < text.length := by
  unfold readHex4 at h
  split at h
  · split at h
    · cases h
      simp only [List.length_cons]
      omega
    · exact nomatch h
  · exact nomatch h

/-- One expected character is taken from the text. -/
theorem readEscapeMark_eq_ok {mark : Char} {text rest : List Char}
    (h : readEscapeMark mark text = .ok rest) : text = mark :: rest := by
  unfold readEscapeMark at h
  split at h
  · exact nomatch h
  · split at h
    · rename_i hc
      cases h
      rw [hc]
    · exact nomatch h

/-- **A code unit is one escape**, and a surrogate pair is two of them. -/
theorem readUnicodeEscape_eq_ok {text rest : List Char} {c : Char}
    (h : readUnicodeEscape text = .ok (c, rest)) :
    ∃ unit behind, readHex4 text = .ok (unit, behind) ∧
      (behind = rest ∨ ∃ low second, behind = '\\' :: 'u' :: low ∧
        readHex4 low = .ok (second, rest)) := by
  obtain ⟨⟨unit, behind⟩, hunit, h⟩ := bind_eq_ok.mp h
  refine ⟨unit, behind, hunit, ?_⟩
  dsimp only at h
  split at h
  · exact nomatch h
  · split at h
    · obtain ⟨marked, hmark, h⟩ := bind_eq_ok.mp h
      obtain ⟨low, hletter, h⟩ := bind_eq_ok.mp h
      obtain ⟨⟨second, after⟩, hsecond, h⟩ := bind_eq_ok.mp h
      dsimp only at h
      split at h
      · obtain ⟨-, rfl⟩ := Prod.mk.inj (Except.ok.inj h)
        rw [readEscapeMark_eq_ok hmark, readEscapeMark_eq_ok hletter]
        exact .inr ⟨low, second, rfl, hsecond⟩
      · exact nomatch h
    · cases h
      exact .inl rfl

/-- One escape of a code unit is passed over. -/
theorem skipQuoted_unit {text rest : List Char} {unit : Nat} (h : readHex4 text = .ok (unit, rest))
    (fuel : Nat) : skipQuoted (fuel + 1) ('\\' :: 'u' :: text) = skipQuoted fuel rest := by
  simp [skipQuoted, skipEscape, h]

/-- **What stands behind a backslash is passed over** where it can be read. -/
theorem skipQuoted_escape {text rest : List Char} {c : Char} (h : readEscape text = .ok (c, rest)) :
    rest.length < text.length ∧ ∀ fuel, text.length < fuel →
      ∃ left, rest.length < left ∧ skipQuoted (fuel + 1) ('\\' :: text) = skipQuoted left rest := by
  unfold readEscape at h
  split at h
  · exact nomatch h
  · rename_i letter text
    split at h
    · rename_i hletter
      subst hletter
      obtain ⟨unit, behind, hunit, hrest⟩ := readUnicodeEscape_eq_ok h
      have hbehind := readHex4_length hunit
      rw [List.length_cons]
      rcases hrest with rfl | ⟨low, second, rfl, hsecond⟩
      · refine ⟨by omega, fun fuel hfuel => ⟨fuel, by omega, skipQuoted_unit hunit fuel⟩⟩
      · have hlow := readHex4_length hsecond
        rw [List.length_cons, List.length_cons] at hbehind
        refine ⟨by omega, fun fuel hfuel => ?_⟩
        obtain ⟨left, rfl⟩ : ∃ left, fuel = left + 1 := ⟨fuel - 1, by omega⟩
        refine ⟨left, by omega, ?_⟩
        rw [skipQuoted_unit hunit, skipQuoted_unit hsecond]
    · rename_i hletter
      split at h
      · rename_i character hshort
        cases h
        rw [List.length_cons]
        refine ⟨Nat.lt_succ_self _, fun fuel hfuel => ⟨fuel, by omega, ?_⟩⟩
        simp [skipQuoted, skipEscape, hletter, hshort]
      · exact nomatch h

/-- **A string is passed over** where it can be read. -/
theorem readQuoted_passes {fuel : Nat} {done text rest : List Char} {s : String}
    (h : readQuoted fuel done text = .ok (s, rest)) :
    rest.length < text.length ∧ ∀ left, text.length < left → skipQuoted left text = .ok rest := by
  induction fuel generalizing done text with
  | zero => exact nomatch h
  | succ fuel ih =>
      unfold readQuoted at h
      split at h
      · exact nomatch h
      · rename_i c text
        rw [List.length_cons]
        split at h
        · rename_i hquote
          cases h
          refine ⟨Nat.lt_succ_self _, fun left hleft => ?_⟩
          obtain ⟨left, rfl⟩ : ∃ before, left = before + 1 := ⟨left - 1, by omega⟩
          rw [skipQuoted, if_pos hquote]
        · rename_i hquote
          split at h
          · rename_i hbackslash
            subst hbackslash
            rcases hescape : readEscape text with fault | ⟨character, after⟩
            · rw [hescape] at h
              exact nomatch h
            · rw [hescape] at h
              obtain ⟨hlength, hskip⟩ := skipQuoted_escape hescape
              obtain ⟨hrest, hpasses⟩ := ih h
              refine ⟨by omega, fun left hleft => ?_⟩
              obtain ⟨left, rfl⟩ : ∃ before, left = before + 1 := ⟨left - 1, by omega⟩
              obtain ⟨before, hbefore, heq⟩ := hskip left (by omega)
              rw [heq, hpasses before hbefore]
          · rename_i hbackslash
            split at h
            · exact nomatch h
            · rename_i hcontrol
              obtain ⟨hrest, hpasses⟩ := ih h
              refine ⟨by omega, fun left hleft => ?_⟩
              obtain ⟨left, rfl⟩ : ∃ before, left = before + 1 := ⟨left - 1, by omega⟩
              rw [skipQuoted, if_neg hquote, if_neg hbackslash, if_neg hcontrol]
              exact hpasses left (by omega)

/-! ## Scalars -/

/-- **A number is passed over** where it can be read. -/
theorem readNumber_passes {text rest : List Char} {n : Number}
    (h : readNumber text = .ok (n, rest)) :
    rest.length < text.length ∧ skipNumber text = .ok rest := by
  obtain ⟨⟨numeral, behind⟩, hnumeral, h⟩ := bind_eq_ok.mp h
  obtain ⟨value, -, h⟩ := bind_eq_ok.mp h
  cases h
  constructor
  · obtain ⟨hne, -, -, written, rfl, -⟩ := readNumeral_eq_ok hnumeral
    have hpos : 0 < numeral.whole.length := List.length_pos_iff.mpr hne
    simp only [List.length_append]
    omega
  · unfold skipNumber
    rw [hnumeral]

/-- **A value that is neither an array nor an object is passed over** where it can be read. -/
theorem readScalar_passes {fuel : Nat} {c : Char} {text rest : List Char} {json : Json}
    (h : readScalar fuel c text = .ok (json, rest)) :
    rest.length ≤ text.length ∧ ∀ left, text.length < left → skipScalar left c text = .ok rest := by
  have hword : ∀ {word : List Char} {found : Json}, (do return (found, ← readWord word text)) =
      (.ok (json, rest) : Except Fault (Json × List Char)) → readWord word text = .ok rest := by
    intro word found hfound
    obtain ⟨after, hafter, hfound⟩ := bind_eq_ok.mp hfound
    cases hfound
    exact hafter
  unfold readScalar at h
  unfold skipScalar
  split_ifs at h ⊢
  · exact ⟨readWord_length (hword h), fun left _ => hword h⟩
  · exact ⟨readWord_length (hword h), fun left _ => hword h⟩
  · exact ⟨readWord_length (hword h), fun left _ => hword h⟩
  · obtain ⟨⟨s, after⟩, hquoted, h⟩ := bind_eq_ok.mp h
    cases h
    obtain ⟨hlength, hpasses⟩ := readQuoted_passes hquoted
    exact ⟨Nat.le_of_lt hlength, hpasses⟩
  · obtain ⟨⟨n, after⟩, hnumber, h⟩ := bind_eq_ok.mp h
    cases h
    obtain ⟨hlength, hpasses⟩ := readNumber_passes hnumber
    exact ⟨Nat.le_of_lt_succ hlength, fun left _ => hpasses⟩

/-! ## Brackets -/

/-- **What the reader reads can be passed over**, inside any open brackets. Two steps are needed for
every character at most. -/
def PassesOver (read : Reader α) : Prop :=
  ∀ text a rest, read text = .ok (a, rest) → rest.length < text.length ∧
    ∀ fuel opened, 2 * text.length < fuel → ∃ left, 2 * rest.length < left ∧
      skipFrom fuel .value opened text = skipFrom left .afterValue opened rest

/-- What is due where the next part of a bracket starts. -/
def dueAt (first : Bool) : Due := if first then .first else .afterValue

/-- Blanks in front of a value do not count. -/
theorem skipFrom_value_blank (fuel : Nat) (opened : List Bracket) (text : List Char) :
    skipFrom fuel .value opened (skipBlank text) = skipFrom fuel .value opened text := by
  cases fuel with
  | zero => rfl
  | succ fuel => rw [skipFrom, skipFrom, skipBlank_skipBlank]

/-- A bracket is closed in one step. -/
theorem skipFrom_closing (bracket : Bracket) {text rest : List Char}
    (h : skipBlank text = bracket.closing :: rest) (first : Bool) (fuel : Nat)
    (outer : List Bracket) :
    skipFrom (fuel + 1) (dueAt first) (bracket :: outer) text =
      skipFrom fuel .afterValue outer rest := by
  cases first with
  | true => simp [dueAt, skipFrom, h]
  | false => simp [dueAt, skipFrom, h]

/-- The next part of a bracket starts in one step, with the value that is its last part. -/
theorem skipFrom_part (bracket : Bracket) {first : Bool} {text rest behind : List Char} {c : Char}
    (h : skipBlank text = c :: rest) (hclosing : c ≠ bracket.closing)
    (hcomma : first = false → c = ',') {fuel : Nat}
    (hkey : skipKey fuel bracket (if first then c :: rest else rest) = .ok behind)
    (outer : List Bracket) :
    skipFrom (fuel + 1) (dueAt first) (bracket :: outer) text =
      skipFrom fuel .value (bracket :: outer) behind := by
  cases first with
  | true => simp_all [dueAt, skipFrom]
  | false => simp_all [dueAt, skipFrom]

/-- Where an array is closed. -/
theorem nextItem_eq_closed {first : Bool} {text rest : List Char}
    (h : nextItem first text = .ok (.closed rest)) : skipBlank text = ']' :: rest := by
  unfold nextItem at h
  split at h
  · exact nomatch h
  · rename_i c after hskip
    split_ifs at h with hclosing
    · cases h
      rw [hskip, hclosing]
    · exact nomatch h
    · split at h
      · exact nomatch h
      · split_ifs at h
        exact nomatch h

/-- Where another item starts. -/
theorem nextItem_eq_more {first : Bool} {text rest : List Char}
    (h : nextItem first text = .ok (.more rest)) :
    ∃ c after, skipBlank text = c :: after ∧ c ≠ ']' ∧ (first = false → c = ',') ∧
      rest = skipBlank (if first then c :: after else after) ∧
      rest.length + (!first).toNat ≤ text.length := by
  have hlength := length_skipBlank_le text
  unfold nextItem at h
  split at h
  · exact nomatch h
  · rename_i c after hskip
    have hblank : skipBlank (c :: after) = c :: after := by rw [← hskip, skipBlank_skipBlank]
    rw [hskip] at hlength
    split_ifs at h with hclosing hfirst hcomma
    · exact nomatch h
    · cases h
      refine ⟨c, after, hskip, hclosing, fun hfalse => ?_, ?_, ?_⟩
      · rw [hfirst] at hfalse
        exact nomatch hfalse
      · rw [if_pos hfirst, hblank]
      · rw [hfirst]
        exact hlength
    · split at h
      · exact nomatch h
      · rename_i d behind hafter
        split_ifs at h
        cases h
        have hrest := length_skipBlank_le after
        rw [hafter] at hrest
        refine ⟨c, after, hskip, hclosing, fun _ => hcomma, ?_, ?_⟩
        · rw [if_neg hfirst, hafter]
        · rw [Bool.not_eq_true] at hfirst
          rw [hfirst, Bool.not_false, Bool.toNat_true]
          simp only [List.length_cons] at hlength hrest ⊢
          omega

/-- Where an object is closed. -/
theorem nextMember_eq_closed {first : Bool} {text rest : List Char}
    (h : nextMember first text = .ok (.closed rest)) : skipBlank text = '\x7d' :: rest := by
  unfold nextMember at h
  split at h
  · exact nomatch h
  · rename_i c after hskip
    split_ifs at h with hclosing
    · cases h
      rw [hskip, hclosing]
    · exact nomatch h
    · split at h
      · exact nomatch h
      · split_ifs at h
        exact nomatch h

/-- Where another member starts. -/
theorem nextMember_eq_more {first : Bool} {text rest : List Char}
    (h : nextMember first text = .ok (.more rest)) :
    ∃ c after, skipBlank text = c :: after ∧ c ≠ '\x7d' ∧ (first = false → c = ',') ∧
      skipBlank (if first then c :: after else after) = '"' :: rest ∧
      rest.length + 1 + (!first).toNat ≤ text.length := by
  have hlength := length_skipBlank_le text
  unfold nextMember at h
  split at h
  · exact nomatch h
  · rename_i c after hskip
    have hblank : skipBlank (c :: after) = c :: after := by rw [← hskip, skipBlank_skipBlank]
    rw [hskip, List.length_cons] at hlength
    split_ifs at h with hclosing hfirst hquote hcomma
    · exact nomatch h
    · cases h
      refine ⟨c, _, hskip, hclosing, fun hfalse => ?_, ?_, ?_⟩
      · rw [hfirst] at hfalse
        exact nomatch hfalse
      · rw [if_pos hfirst, hblank, hquote]
      · rw [hfirst]
        exact hlength
    · split at h
      · exact nomatch h
      · rename_i d behind hafter
        split_ifs at h with hquote
        cases h
        have hrest := length_skipBlank_le after
        rw [hafter, List.length_cons] at hrest
        refine ⟨c, after, hskip, hclosing, fun _ => hcomma, ?_, ?_⟩
        · rw [if_neg hfirst, hafter, hquote]
        · rw [Bool.not_eq_true] at hfirst
          rw [hfirst, Bool.not_false, Bool.toNat_true]
          omega

/-! ## Arrays and objects -/

/-- **Items are passed over**, up to the closing bracket. -/
theorem readItems_passes {read : Reader α} (h : PassesOver read) {fuel : Nat} {first : Bool}
    {items : List α} {text rest : List Char}
    (hread : readItems read fuel first [] text = .ok (items, rest)) :
    rest.length < text.length ∧ ∀ left outer, 2 * text.length + first.toNat < left →
      ∃ after, 2 * rest.length < after ∧
        skipFrom left (dueAt first) (.array :: outer) text = skipFrom after .afterValue outer rest := by
  induction items generalizing fuel first text with
  | nil =>
      obtain ⟨fuel, rfl, hitems⟩ := readItems_eq_ok hread
      cases hitems with
      | closed hnext =>
          have hskip := nextItem_eq_closed hnext
          have hlength := length_lt_of_skipBlank hskip
          refine ⟨hlength, fun left outer hleft => ?_⟩
          obtain ⟨left, rfl⟩ : ∃ before, left = before + 1 := ⟨left - 1, by omega⟩
          exact ⟨left, by omega, skipFrom_closing .array hskip first left outer⟩
  | cons item items ih =>
      obtain ⟨fuel, rfl, hitems⟩ := readItems_eq_ok hread
      cases hitems with
      | more hnext hitem hmore =>
          obtain ⟨c, after, hskip, hclosing, hcomma, rfl, hstart⟩ := nextItem_eq_more hnext
          obtain ⟨hafter, hpasses⟩ := h _ _ _ hitem
          obtain ⟨hrest, hpassesRest⟩ := ih hmore
          refine ⟨by omega, fun left outer hleft => ?_⟩
          obtain ⟨left, rfl⟩ : ∃ before, left = before + 1 := ⟨left - 1, by omega⟩
          have hfirst : first.toNat + (!first).toNat = 1 := by cases first <;> rfl
          obtain ⟨middle, hmiddle, hvalue⟩ := hpasses left (.array :: outer) (by omega)
          obtain ⟨last, hlast, hfollowing⟩ := hpassesRest middle outer (by simpa using hmiddle)
          refine ⟨last, hlast, ?_⟩
          rw [skipFrom_part .array hskip hclosing hcomma rfl, ← skipFrom_value_blank,
            hvalue]
          exact hfollowing

/-- **Members are passed over**, up to the closing brace. -/
theorem readPairs_passes {read : Reader α} (h : PassesOver read) {fuel : Nat} {first : Bool}
    {pairs : List (String × α)} {text rest : List Char}
    (hread : readPairs read fuel first text = .ok (pairs, rest)) :
    rest.length < text.length ∧ ∀ left outer, 2 * text.length + first.toNat < left →
      ∃ after, 2 * rest.length < after ∧
        skipFrom left (dueAt first) (.object :: outer) text =
          skipFrom after .afterValue outer rest := by
  induction pairs generalizing fuel first text with
  | nil =>
      obtain ⟨fuel, rfl, hpairs⟩ := readPairs_eq_ok hread
      cases hpairs with
      | closed hnext =>
          have hskip := nextMember_eq_closed hnext
          have hlength := length_lt_of_skipBlank hskip
          refine ⟨hlength, fun left outer hleft => ?_⟩
          obtain ⟨left, rfl⟩ : ∃ before, left = before + 1 := ⟨left - 1, by omega⟩
          exact ⟨left, by omega, skipFrom_closing .object hskip first left outer⟩
  | cons pair pairs ih =>
      obtain ⟨fuel, rfl, hpairs⟩ := readPairs_eq_ok hread
      cases hpairs with
      | @more start named valued _ key value _ hnext hkey hcolon hvalue hmore =>
          obtain ⟨c, after, hskip, hclosing, hcomma, hquote, hstart⟩ := nextMember_eq_more hnext
          obtain ⟨hnamed, hpassesKey⟩ := readQuoted_passes hkey
          have hvalued := readColon_length hcolon
          obtain ⟨hafter, hpasses⟩ := h _ _ _ hvalue
          obtain ⟨hrest, hpassesRest⟩ := ih hmore
          refine ⟨by omega, fun left outer hleft => ?_⟩
          obtain ⟨left, rfl⟩ : ∃ before, left = before + 1 := ⟨left - 1, by omega⟩
          have hskipKey : skipKey left .object (if first then c :: after else after) =
              .ok valued := by
            unfold skipKey
            rw [hquote]
            simp only [if_pos, hpassesKey left (by omega), hcolon]
          obtain ⟨middle, hmiddle, hskipValue⟩ := hpasses left (.object :: outer) (by omega)
          obtain ⟨last, hlast, hfollowing⟩ := hpassesRest middle outer (by simpa using hmiddle)
          refine ⟨last, hlast, ?_⟩
          rw [skipFrom_part .object hskip hclosing hcomma hskipKey, hskipValue]
          exact hfollowing

/-! ## Values -/

/-- **Whatever is read is passed over.** -/
theorem readUnmerged_passes (fuel levels : Nat) : PassesOver (readUnmerged fuel levels) := by
  induction levels using Nat.strongRecOn with
  | ind levels ih =>
      intro text json rest hread
      obtain ⟨c, after, hskip, hvalue⟩ := readUnmerged_eq_ok hread
      have hlength := length_lt_of_skipBlank hskip
      rcases hvalue with ⟨hbracket, below, items, rfl, -, hitems⟩ |
        ⟨hbrace, below, pairs, rfl, -, hpairs⟩ | ⟨hbracket, hbrace, hscalar⟩
      · obtain ⟨hrest, hpasses⟩ := readItems_passes (ih below (Nat.lt_succ_self below)) hitems
        refine ⟨by omega, fun fuel opened hfuel => ?_⟩
        obtain ⟨left, rfl⟩ : ∃ left, fuel = left + 1 := ⟨fuel - 1, by omega⟩
        rw [skipFrom, hskip]
        simp only [if_pos hbracket]
        exact hpasses left opened (by rw [Bool.toNat_true]; omega)
      · obtain ⟨hrest, hpasses⟩ := readPairs_passes (ih below (Nat.lt_succ_self below)) hpairs
        refine ⟨by omega, fun fuel opened hfuel => ?_⟩
        obtain ⟨left, rfl⟩ : ∃ left, fuel = left + 1 := ⟨fuel - 1, by omega⟩
        rw [skipFrom, hskip, hbrace]
        exact hpasses left opened (by rw [Bool.toNat_true]; omega)
      · obtain ⟨hrest, hpasses⟩ := readScalar_passes hscalar
        refine ⟨by omega, fun fuel opened hfuel => ?_⟩
        obtain ⟨left, rfl⟩ : ∃ left, fuel = left + 1 := ⟨fuel - 1, by omega⟩
        refine ⟨left, by omega, ?_⟩
        rw [skipFrom, hskip]
        simp only [if_neg hbracket, if_neg hbrace, hpasses left (by omega)]

/-- **One value is passed over** where it can be read. -/
theorem skipValue_eq_ok {fuel levels : Nat} {text rest : List Char} {json : Json}
    (hread : readUnmerged fuel levels text = .ok (json, rest)) (hfuel : text.length < fuel) :
    skipValue fuel text = .ok rest := by
  obtain ⟨-, hpasses⟩ := readUnmerged_passes fuel levels text json rest hread
  obtain ⟨left, hleft, hskip⟩ := hpasses (2 * fuel) [] (by omega)
  obtain ⟨left, rfl⟩ : ∃ before, left = before + 1 := ⟨left - 1, by omega⟩
  unfold skipValue
  rw [hskip, skipFrom]
  exact nofun

end GraphImport.Json
