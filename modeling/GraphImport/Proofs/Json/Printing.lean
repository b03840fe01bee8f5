import GraphImport.Proofs.Json.Framing
import GraphImport.Proofs.Json.IntegerText
import GraphImport.Proofs.Json.Mirror
import GraphImport.Proofs.Text.Reading

/-!
# Reading printed JSON back

A value that was printed is read back, on one line as well as on several. That holds of all values
but doubles, as long as they are what the reader can give: their integers fit in 64 bits, no key of
an object stands twice, and they are not nested deeper than the reader follows.

* `Json.readNumber_toString` — a written integer is read back.
* `Json.Spells` — the text is read as the value, whatever stands behind it.
* `Json.Spells.array`, `Json.Spells.object` — framed parts spell arrays and objects.
* `Json.IsPlain` — the values that are read back.
* `Json.parse_compact`, `Json.parse_pretty` — what either printer writes is read back.
-/

namespace GraphImport.Json

/-! ## Integers -/

/-- A written natural number starts with a digit. -/
theorem toString_eq_cons (n : Nat) :
    ∃ c cs, (toString n).toList = c :: cs ∧ c.isDigit = true := by
  have hdigits := isDigits_toString n
  unfold IsDigits at hdigits
  cases htext : (toString n).toList with
  | nil => exact absurd (String.toList_eq_nil_iff.mp htext) (toString_ne_empty n)
  | cons c cs =>
      rw [htext] at hdigits
      exact ⟨c, cs, rfl, hdigits c List.mem_cons_self⟩

/-- The first character of a number starts nothing else. -/
theorem ne_of_startsNumber {c d : Char} (hc : startsNumber c = true) (hd : startsNumber d = false) :
    c ≠ d := by
  rintro rfl
  exact Bool.false_ne_true (hd.symm.trans hc)

/-- The first character of a number is no blank. -/
theorem isBlank_of_startsNumber {c : Char} (h : startsNumber c = true) : isBlank c = false := by
  have hspace : c ≠ ' ' := ne_of_startsNumber h rfl
  have htab : c ≠ '\t' := ne_of_startsNumber h rfl
  have hline : c ≠ '\n' := ne_of_startsNumber h rfl
  have hreturn : c ≠ '\r' := ne_of_startsNumber h rfl
  simp [isBlank, hspace, htab, hline, hreturn]

/-- Only zero is written with a zero in front. -/
theorem toDigits_head {n : Nat} (h : 0 < n) :
    ∃ c cs, Nat.toDigits 10 n = c :: cs ∧ c ≠ '0' := by
  induction n using Nat.strongRecOn with
  | ind n ih =>
      rcases Nat.lt_or_ge n 10 with hlt | hge
      · have hdigit : ∀ n < 10, 0 < n → Nat.digitChar n ≠ '0' := by decide
        exact ⟨_, [], Nat.toDigits_of_lt_base hlt, hdigit n hlt h⟩
      · obtain ⟨c, cs, hdigits, hc⟩ := ih (n / 10) (by omega) (by omega)
        refine ⟨c, cs ++ [Nat.digitChar (n % 10)], ?_, hc⟩
        rw [Nat.toDigits_of_base_le (by decide) hge, hdigits, List.cons_append]

/-- What a number may end in front of is no digit and no part of a fraction or exponent. -/
theorem Ends.not_number {rest : List Char} (h : Ends rest) :
    ∀ c ∈ rest.head?, c.isDigit = false ∧ ¬marksFraction c := by
  intro c hc
  have hends := h c hc
  simp only [isBlank, Bool.or_eq_true, beq_iff_eq, or_assoc] at hends
  rcases hends with rfl | rfl | rfl | rfl | rfl | rfl | rfl
  all_goals exact ⟨rfl, by simp [marksFraction]⟩

/-- Digits are taken up to their end. -/
theorem spanDigits_digits {digits rest : List Char} (h : ∀ c ∈ digits, c.isDigit = true)
    (hrest : ∀ c ∈ rest.head?, c.isDigit = false) : spanDigits (digits ++ rest) = (digits, rest) := by
  have hstop : rest.takeWhile Char.isDigit = [] ∧ rest.dropWhile Char.isDigit = rest := by
    cases rest with
    | nil => exact ⟨rfl, rfl⟩
    | cons c rest => simp [hrest c rfl]
  unfold spanDigits
  rw [List.takeWhile_append_of_pos h, List.dropWhile_append_of_pos h, hstop.1, hstop.2,
    List.append_nil]

/-- The digits of a written number are read up to their end. -/
theorem readWholePart_toString (n : Nat) {rest : List Char} (h : Ends rest) :
    readWholePart ((toString n).toList ++ rest) = .ok ((toString n).toList, rest) := by
  have hdigits := isDigits_toString n
  rcases Nat.eq_zero_or_pos n with rfl | hpos
  · change readWholePart ('0' :: rest) = .ok (['0'], rest)
    unfold readWholePart
    cases rest with
    | nil => rfl
    | cons c rest => simp [(h.not_number c rfl).1]
  · obtain ⟨c, cs, hcs, hzero⟩ := toDigits_head hpos
    have htext : (toString n).toList = c :: cs := by
      rw [Nat.toString_eq_ofList_toDigits, String.toList_ofList, hcs]
    have hc : c.isDigit = true := hdigits c (htext ▸ List.mem_cons_self)
    have hspan := spanDigits_digits hdigits fun d hd => (h.not_number d hd).1
    rw [htext, List.cons_append] at hspan ⊢
    unfold readWholePart
    split
    · rename_i hempty
      exact nomatch hempty
    · rename_i hfirst
      exact absurd (List.cons.inj hfirst).1 hzero
    · rename_i hfirst
      obtain ⟨rfl, rfl⟩ := List.cons.inj hfirst
      rw [if_pos hc, hspan]

/-- A written natural number is split into its sign and its digits. -/
theorem readNumeral_toString (negative : Bool) (n : Nat) {rest : List Char} (h : Ends rest) :
    readNumeral (minusText negative ++ ((toString n).toList ++ rest)) =
      .ok (⟨negative, (toString n).toList, none, none⟩, rest) := by
  have hminus : readMinus (minusText negative ++ ((toString n).toList ++ rest)) =
      (negative, (toString n).toList ++ rest) := by
    cases negative with
    | true => rfl
    | false =>
        obtain ⟨c, cs, htext, hc⟩ := toString_eq_cons n
        change readMinus ((toString n).toList ++ rest) = (false, (toString n).toList ++ rest)
        rw [htext, List.cons_append]
        unfold readMinus
        split
        · rename_i heq
          rw [(List.cons.inj heq).1] at hc
          exact absurd hc (by decide)
        · rfl
  have hfraction : readFraction rest = .ok (none, rest) := by
    unfold readFraction
    split
    · exact absurd (.inl rfl) (h.not_number '.' rfl).2
    · rfl
  have hexponent : readExponent rest = .ok (none, rest) := by
    unfold readExponent
    cases rest with
    | nil => rfl
    | cons c rest => exact if_neg fun hc => (h.not_number c rfl).2 (.inr hc)
  unfold readNumeral
  rw [hminus]
  simp only [readWholePart_toString n h, hfraction, hexponent, bind, Except.bind]
  rfl

/-- A written natural number of 64 bits is read with its sign. -/
theorem readNumber_natural (negative : Bool) {n : Nat} (hn : n < 2 ^ 64) {rest : List Char}
    (h : Ends rest) :
    readNumber (minusText negative ++ ((toString n).toList ++ rest)) =
      .ok (wholeNumber negative n, rest) := by
  have habsorb : absorb 0 (toString n).toList = (n, 0) := by
    have hvalue := ofDigitChars_toString n
    rcases absorb_eq (toString n).toList (Nat.two_pow_pos 64) with ⟨-, habsorb⟩ | ⟨hlarge, -⟩
    · rwa [hvalue] at habsorb
    · rw [hvalue] at hlarge
      omega
  have hvalue : Numeral.value ⟨negative, (toString n).toList, none, none⟩ rest =
      .ok (wholeNumber negative n) := by
    unfold Numeral.value
    simp only [habsorb]
    exact if_pos ⟨trivial, trivial, trivial⟩
  unfold readNumber
  rw [readNumeral_toString negative n h]
  simp only [bind, Except.bind, hvalue]
  rfl

/-- **A written integer of 64 bits is read back**, signed or unsigned. -/
theorem readNumber_toString {n : Int} (hlow : -2 ^ 63 ≤ n) (hhigh : n < 2 ^ 64)
    {rest : List Char} (h : Ends rest) :
    readNumber ((toString n).toList ++ rest) = .ok (.integer n, rest) := by
  cases n with
  | ofNat m =>
      have hfits : m < 2 ^ 64 := by
        rw [Int.ofNat_eq_natCast] at hhigh
        omega
      exact readNumber_natural false hfits h
  | negSucc m =>
      rw [Int.negSucc_eq] at hlow
      have hwhole : wholeNumber true (m + 1) = .integer (Int.negSucc m) := by
        unfold wholeNumber
        rw [if_pos rfl, if_neg (by omega), Int.negSucc_eq]
        rfl
      have htext : toString (Int.negSucc m) = "-" ++ toString (m + 1) := rfl
      have hfits : m + 1 < 2 ^ 64 := by omega
      have hread := readNumber_natural true hfits h
      rw [hwhole] at hread
      rw [htext, String.toList_append, List.append_assoc]
      exact hread

/-! ## Texts of values -/

/-- **The text spells the value**: it starts as a part has to, and the reader takes the value off it,
whatever stands behind it, if the value is not deeper than the levels that are left. -/
structure Spells (levels : Nat) (value : Json) (text : String) : Prop where
  /-- The text starts as a part has to. -/
  starts : Starts text
  /-- The value is read back. -/
  reads : ∀ fuel, text.length < fuel → ReadsBack (readValue fuel levels) text value

namespace Spells

variable {levels : Nat}

/-- The reader passes over blanks in front of a value. -/
theorem readsBack_blanks {value : Json} {text space : String} (h : Spells levels value text)
    (hspace : OnlyBlanks space) {fuel : Nat} (hfuel : text.length < fuel) :
    ReadsBack (readValue fuel levels) (space ++ text) value := by
  intro rest hrest
  have hskip : readValue fuel levels ((space ++ text).toList ++ rest) =
      readValue fuel levels (text.toList ++ rest) := by
    rw [String.toList_append, List.append_assoc]
    unfold readValue
    rw [skipBlank_append hspace]
  rw [hskip]
  exact h.reads fuel hfuel rest hrest

/-- A text that starts neither with a blank nor with a bracket is read as a scalar. -/
theorem scalar {value : Json} {text : String} (c : Char) (cs : List Char)
    (htext : text.toList = c :: cs)
    (hc : isBlank c = false ∧ c ≠ ']' ∧ c ≠ '[' ∧ c ≠ '\x7b')
    (h : ∀ fuel rest, text.length < fuel → Ends rest →
      readScalar fuel c (cs ++ rest) = .ok (value, rest)) : Spells levels value text where
  starts := ⟨c, cs, htext, hc.1, hc.2.1⟩
  reads fuel hfuel rest hrest := by
    rw [htext, List.cons_append]
    unfold readValue
    rw [skipBlank_cons hc.1]
    simp only [if_neg hc.2.2.1, if_neg hc.2.2.2, h fuel rest hfuel hrest]

/-- The value `null`. -/
theorem null : Spells levels .null "null" :=
  scalar 'n' ['u', 'l', 'l'] rfl (by decide) fun _ _ _ _ => rfl

/-- A truth value. -/
theorem bool (b : Bool) : Spells levels (.bool b) (if b then "true" else "false") := by
  cases b with
  | true => exact scalar 't' ['r', 'u', 'e'] rfl (by decide) fun _ _ _ _ => rfl
  | false => exact scalar 'f' ['a', 'l', 's', 'e'] rfl (by decide) fun _ _ _ _ => rfl

/-- An integer of 64 bits. -/
theorem integer {n : Int} (hlow : -2 ^ 63 ≤ n) (hhigh : n < 2 ^ 64) :
    Spells levels (.number (.integer n)) (toString n) := by
  have hfirst : ∃ c cs, (toString n).toList = c :: cs ∧ startsNumber c = true := by
    cases n with
    | ofNat m =>
        obtain ⟨c, cs, htext, hc⟩ := toString_eq_cons m
        exact ⟨c, cs, htext, by simp [startsNumber, hc]⟩
    | negSucc m =>
        have htext : toString (Int.negSucc m) = "-" ++ toString (m + 1) := rfl
        rw [htext, String.toList_append]
        exact ⟨'-', (toString (m + 1)).toList, rfl, rfl⟩
  obtain ⟨c, cs, htext, hc⟩ := hfirst
  have hother : ∀ d, startsNumber d = false → c ≠ d := fun d => ne_of_startsNumber hc
  refine scalar _ _ htext
    ⟨isBlank_of_startsNumber hc, hother ']' rfl, hother '[' rfl, hother '\x7b' rfl⟩
    fun fuel rest _ hrest => ?_
  have hread := readNumber_toString hlow hhigh hrest
  rw [htext, List.cons_append] at hread
  unfold readScalar
  simp only [if_neg (hother 'n' rfl), if_neg (hother 't' rfl), if_neg (hother 'f' rfl),
    if_neg (hother '"' rfl), if_pos hc, hread]
  rfl

/-- A string. -/
theorem string (s : String) : Spells levels (.string s) (quote s) := by
  have htext : (quote s).toList =
      '"' :: ((String.join (s.toList.map escapedChar)).toList ++ ['"']) := by
    unfold quote
    simp
  refine scalar _ _ htext (by decide) fun fuel rest hfuel _ => ?_
  have hlength := length_le_quote s
  obtain ⟨behind, hbehind, hread⟩ := readQuoted_quote s (by omega : s.length < fuel) rest
  rw [htext, List.cons_append] at hbehind
  rw [← (List.cons.inj hbehind).2] at hread
  unfold readScalar
  simp only [hread]
  rfl

/-- **Framed texts of items** are a text of the array. -/
theorem array {items : List Json} {text : Json → String} {gap last : String}
    (hgap : OnlyBlanks gap) (hlast : OnlyBlanks last)
    (h : ∀ item ∈ items, Spells levels item (text item)) :
    Spells (levels + 1) (.array items) (framed "[" "]" gap last (items.map text)) where
  starts := starts_framed rfl (by decide) "]" gap last _
  reads fuel hfuel rest _ := by
    obtain ⟨behind, htext, hread⟩ := readItems_framed hgap hlast
      (fun item hitem => ⟨(h item hitem).starts, (h item hitem).reads fuel⟩) hfuel rest
    rw [htext]
    unfold readValue
    rw [skipBlank_cons rfl]
    simp only [if_pos, hread]
    rfl

/-- **Framed members** are a text of the object, if no key stands twice. -/
theorem object {members : Entries Json} {text : Json → String} {gap last space : String}
    (hgap : OnlyBlanks gap) (hlast : OnlyBlanks last) (hspace : OnlyBlanks space)
    (hkeys : members.keys.Nodup) (h : ∀ member ∈ members, Spells levels member.2 (text member.2)) :
    Spells (levels + 1) (.object members)
      (framed "\x7b" "\x7d" gap last (members.map (memberText space text))) where
  starts := starts_framed rfl (by decide) "\x7d" gap last _
  reads fuel hfuel rest _ := by
    have hmembers : ∀ member ∈ members,
        ReadsBack (readValue fuel levels) (space ++ text member.2) member.2 := by
      intro member hmember
      have hpart := length_le_framed "\x7b" "\x7d" gap last
        (List.mem_map_of_mem (f := memberText space text) hmember)
      have hvalue := length_le_memberText space text member
      exact (h member hmember).readsBack_blanks hspace (by omega)
    obtain ⟨behind, htext, hread⟩ := readMembers_framed hgap hlast hmembers hkeys hfuel rest
    rw [htext]
    unfold readValue
    rw [skipBlank_cons rfl]
    simp only [if_pos, hread]
    rfl

end Spells

/-! ## Both printers -/

/-- **The value is read back when it was printed**: it holds no doubles, its integers fit in 64 bits,
no key of an object stands twice, and there are at most so many levels of arrays and objects. -/
inductive IsPlain : (levels : Nat) → Json → Prop where
  /-- The value `null`. -/
  | null {levels : Nat} : IsPlain levels .null
  /-- A truth value. -/
  | bool {levels : Nat} (b : Bool) : IsPlain levels (.bool b)
  /-- An integer of 64 bits, signed or unsigned. -/
  | integer {levels : Nat} {n : Int} (hlow : -2 ^ 63 ≤ n) (hhigh : n < 2 ^ 64) :
    IsPlain levels (.number (.integer n))
  /-- A string. -/
  | string {levels : Nat} (s : String) : IsPlain levels (.string s)
  /-- An array. -/
  | array {levels : Nat} {items : List Json} (h : ∀ item ∈ items, IsPlain levels item) :
    IsPlain (levels + 1) (.array items)
  /-- An object. -/
  | object {levels : Nat} {members : Entries Json} (hkeys : members.keys.Nodup)
    (h : ∀ member ∈ members, IsPlain levels member.2) : IsPlain (levels + 1) (.object members)

/-- Items on one line are framed without blanks. -/
theorem compact_array (items : List Json) :
    compact (.array items) = framed "[" "]" "" "" (items.map compact) := by
  have hitems : ∀ items, compactItems items = items.map compact := by
    intro items
    induction items with
    | nil => rfl
    | cons item items ih => rw [compactItems, ih, List.map_cons]
  rw [compact, hitems]
  cases items with
  | nil => rfl
  | cons item items => simp [framed]

/-- Members on one line are framed without blanks. -/
theorem compact_object (members : Entries Json) :
    compact (.object members) =
      framed "\x7b" "\x7d" "" "" (members.map (memberText "" compact)) := by
  have hmembers : ∀ members : Entries Json,
      compactMembers members = members.map (memberText "" compact) := by
    intro members
    induction members with
    | nil => rfl
    | cons member members ih =>
        rw [compactMembers, ih, List.map_cons]
        simp [memberText]
  rw [compact, hmembers]
  cases members with
  | nil => rfl
  | cons member members => simp [framed]

/-- Items on several lines are framed with line breaks. -/
theorem prettyAt_array (level : Nat) (items : List Json) :
    prettyAt level (.array items) =
      framed "[" "]" (lineBreak (level + 1)) (lineBreak level)
        (items.map (prettyAt (level + 1))) := by
  have hitems : ∀ items, prettyItems (level + 1) items = items.map (prettyAt (level + 1)) := by
    intro items
    induction items with
    | nil => rfl
    | cons item items ih => rw [prettyItems, ih, List.map_cons]
  rw [prettyAt, hitems]
  rfl

/-- Members on several lines are framed with line breaks. -/
theorem prettyAt_object (level : Nat) (members : Entries Json) :
    prettyAt level (.object members) =
      framed "\x7b" "\x7d" (lineBreak (level + 1)) (lineBreak level)
        (members.map (memberText " " (prettyAt (level + 1)))) := by
  have hcolon : ": " = ":" ++ " " := rfl
  have hmembers : ∀ members : Entries Json,
      prettyMembers (level + 1) members = members.map (memberText " " (prettyAt (level + 1))) := by
    intro members
    induction members with
    | nil => rfl
    | cons member members ih =>
        rw [prettyMembers, ih, List.map_cons, memberText, hcolon]
        simp only [String.append_assoc]
  rw [prettyAt, hmembers]
  rfl

/-- A blank is blank. -/
theorem onlyBlanks_space : OnlyBlanks " " := by
  intro c hc
  rw [List.mem_singleton.mp hc]
  rfl

/-- **A value on one line is a text of the value.** -/
theorem spells_compact {levels : Nat} {value : Json} (h : IsPlain levels value) :
    Spells levels value value.compact := by
  induction h with
  | null => exact .null
  | bool b => exact .bool b
  | integer hlow hhigh => exact .integer hlow hhigh
  | string s => exact .string s
  | array _ ih =>
      rw [compact_array]
      exact .array onlyBlanks_empty onlyBlanks_empty ih
  | object hkeys _ ih =>
      rw [compact_object]
      exact .object onlyBlanks_empty onlyBlanks_empty onlyBlanks_empty hkeys ih

/-- **A value on several lines is a text of the value**, at every level of indentation. -/
theorem spells_prettyAt {levels : Nat} {value : Json} (h : IsPlain levels value) (level : Nat) :
    Spells levels value (prettyAt level value) := by
  induction h generalizing level with
  | null => exact .null
  | bool b => exact .bool b
  | integer hlow hhigh => exact .integer hlow hhigh
  | string s => exact .string s
  | array _ ih =>
      rw [prettyAt_array]
      exact .array (onlyBlanks_lineBreak _) (onlyBlanks_lineBreak _)
        fun item hitem => ih item hitem (level + 1)
  | object hkeys _ ih =>
      rw [prettyAt_object]
      exact .object (onlyBlanks_lineBreak _) (onlyBlanks_lineBreak _) onlyBlanks_space hkeys
        fun member hmember => ih member hmember (level + 1)

/-! ## Whole texts -/

/-- A reader that takes a value off its text reads the whole text. -/
theorem readAll_of_readsBack {α : Type} {read : (fuel levels : Nat) → Reader α} {text : String}
    {value : α} (h : ∀ fuel, text.length < fuel → ReadsBack (read fuel maxLevels) text value) :
    readAll read text = .ok value := by
  refine readAll_eq_ok.mpr ⟨[], ?_, rfl⟩
  have hfuel : text.length < fuelFor text.toList := by
    unfold fuelFor
    rw [String.length_toList]
    exact Nat.lt_succ_self _
  have hread := h _ hfuel [] nofun
  rwa [List.append_nil] at hread

/-- A text of a value is read as the value. -/
theorem Spells.parse {value : Json} {text : String} (h : Spells maxLevels value text) :
    parse text = .ok value := readAll_of_readsBack h.reads

/-- **What is printed on one line is read back.** -/
theorem parse_compact {value : Json} (h : IsPlain maxLevels value) :
    parse value.compact = .ok value := (spells_compact h).parse

/-- **What is printed on several lines is read back.** -/
theorem parse_pretty {value : Json} (h : IsPlain maxLevels value) :
    parse value.pretty = .ok value := (spells_prettyAt h 0).parse

end GraphImport.Json
