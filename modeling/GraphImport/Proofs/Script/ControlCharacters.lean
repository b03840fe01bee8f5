import GraphImport.Proofs.Cypher.Characters
import GraphImport.Proofs.Script.Modes

/-!
# Control characters in literals

Escaping takes four control characters out of a string: the line feed, the carriage return, the tab
and the null character. The other ones stay as they are. So the literal of a value has exactly the
control characters of its strings that are not among these four, however deep the strings are;
nothing else that is written in a literal brings one in.

* `IsControl` — control characters.
* `Consists.not_mem` — texts without control characters, among them numbers.
* `Cypher.mem_quote_escaped`, `Cypher.mem_literal_escaped` — strings, and all values.
* `control_mem_literal` — which control characters a literal has.
-/

namespace GraphImport

/-- The character is a control character: it comes before the blank. -/
def IsControl (c : Char) : Prop := c < ' '

instance : DecidablePred IsControl := fun c => inferInstanceAs (Decidable (c < ' '))

variable {c : Char}

/-- A text that consists of other characters has no control character. -/
theorem Consists.not_mem {s : String} (hs : Consists (¬IsControl ·) s) (hc : IsControl c) :
    c ∉ s.toList :=
  fun hmem => hs c hmem hc

/-- Numbers are written without control characters. -/
theorem IsNumberChar.not_control {d : Char} (hd : IsNumberChar d) : ¬IsControl d := by
  rcases hd with hd | rfl | rfl
  · intro hc
    have hlt : d.val < ' '.val := hc
    simp only [Char.isDigit, Bool.and_eq_true, decide_eq_true_eq] at hd
    exact absurd (UInt32.lt_of_le_of_lt hd.1 hlt) (by decide)
  · decide
  · decide

/-! ## Strings -/

namespace Cypher

/-- Four control characters are special. -/
theorem isSpecial_control (hc : IsControl c) : IsSpecial c ↔ c ∈ ['\n', '\r', '\t', '\x00'] := by
  have hne : ∀ d : Char, ¬IsControl d → c ≠ d := fun d hd heq => hd (heq ▸ hc)
  unfold IsSpecial
  rw [List.mem_cons, List.mem_cons, List.mem_cons, or_iff_right (hne '\\' (by decide)),
    or_iff_right (hne '\x27' (by decide)), or_iff_right (hne '"' (by decide))]

/-- What is written for a special character has no control characters. -/
theorem consists_escapedChar {d : Char} (hd : IsSpecial d) :
    Consists (¬IsControl ·) (escapedChar d) := by
  simp only [IsSpecial, List.mem_cons, List.not_mem_nil, or_false] at hd
  rcases hd with rfl | rfl | rfl | rfl | rfl | rfl | rfl <;> decide

/-- A control character is written for itself only, and only if it is not special. -/
theorem mem_escapedChar (hc : IsControl c) (d : Char) :
    c ∈ (escapedChar d).toList ↔ c = d ∧ ¬IsSpecial d := by
  by_cases hd : IsSpecial d
  · exact iff_of_false ((consists_escapedChar hd).not_mem hc) fun h => h.2 hd
  · rw [← (lengthened_escapedChar d).same hd, String.toList_singleton, List.mem_singleton,
      and_iff_left hd]

/-- **An escaped string** has the control characters of the string, apart from the special ones. -/
theorem mem_quote_escaped (hc : IsControl c) (s : String) :
    c ∈ (quote .escaped s).toList ↔ c ∈ s.toList ∧ ¬IsSpecial c := by
  have hescape : c ∈ (escape s).toList ↔ c ∈ s.toList ∧ ¬IsSpecial c := by
    rw [escape_eq_join]
    simp only [mem_join, List.mem_map, exists_exists_and_eq_and]
    constructor
    · rintro ⟨d, hd, hmem⟩
      obtain ⟨rfl, hnot⟩ := (mem_escapedChar hc d).mp hmem
      exact ⟨hd, hnot⟩
    · exact fun ⟨hmem, hnot⟩ => ⟨c, hmem, (mem_escapedChar hc c).mpr ⟨rfl, hnot⟩⟩
  have hquote : c ∉ "'".toList := Consists.not_mem (by decide) hc
  unfold quote quoteEscaped quotePlain
  rw [String.toList_append, String.toList_append, List.mem_append, List.mem_append, hescape,
    or_iff_left hquote, or_iff_right hquote]

/-! ## Values -/

/-- A list is written with the control characters of its items. -/
theorem mem_literal_list (hc : IsControl c) (items : List Value) :
    c ∈ (literal .escaped (.list items)).toList ↔
      ∃ item ∈ items, c ∈ (literal .escaped item).toList := by
  have hopen : c ∉ "[".toList := Consists.not_mem (by decide) hc
  have hclose : c ∉ "]".toList := Consists.not_mem (by decide) hc
  have hcomma : c ∉ ", ".toList := Consists.not_mem (by decide) hc
  rw [literal_list, String.toList_append, String.toList_append, List.mem_append, List.mem_append,
    or_iff_left hclose, or_iff_right hopen, mem_intercalate hcomma]
  simp only [List.mem_map, exists_exists_and_eq_and]

/-- **A literal** has the control characters of the strings in the value, apart from the special
ones. -/
theorem mem_literal_escaped (hc : IsControl c) (v : Value) :
    c ∈ (literal .escaped v).toList ↔ (∃ s, v.HasString s ∧ c ∈ s.toList) ∧ ¬IsSpecial c := by
  induction v using Value.induct with
  | leaf v hv =>
      -- Leaves other than strings hold no string, and no control character stands in their text.
      have hplain (hnone : ∀ s, ¬v.HasString s)
          (htext : Consists (¬IsControl ·) (literal .escaped v)) :
          c ∈ (literal .escaped v).toList ↔
            (∃ s, v.HasString s ∧ c ∈ s.toList) ∧ ¬IsSpecial c :=
        iff_of_false (htext.not_mem hc) fun h => h.1.elim fun s hs => hnone s hs.1
      cases v with
      | null => exact hplain nofun (by decide)
      | bool b => exact hplain nofun (by cases b <;> decide)
      | int n => exact hplain nofun ((consists_int n).imp fun _ => IsNumberChar.not_control)
      | double x =>
          refine hplain nofun ((consists_doubleText x).imp ?_)
          rintro d (hd | rfl)
          · exact hd.not_control
          · decide
      | string s => rw [Value.exists_string_iff, literal, mem_quote_escaped hc]
      | list items => exact absurd hv Bool.noConfusion
  | list items ih =>
      rw [Value.exists_list_iff, mem_literal_list hc]
      constructor
      · rintro ⟨item, hitem, hmem⟩
        obtain ⟨hstring, hnot⟩ := (ih item hitem).mp hmem
        exact ⟨⟨item, hitem, hstring⟩, hnot⟩
      · rintro ⟨⟨item, hitem, hstring⟩, hnot⟩
        exact ⟨item, hitem, (ih item hitem).mpr ⟨hstring, hnot⟩⟩

end Cypher

/-- **Which control characters a literal has**: those of the strings in the value, apart from the
line feed, the carriage return, the tab and the null character. -/
theorem control_mem_literal (hc : IsControl c) (v : Value) :
    c ∈ (Cypher.literal .escaped v).toList ↔
      (∃ s, v.HasString s ∧ c ∈ s.toList) ∧ c ∉ ['\n', '\r', '\t', '\x00'] := by
  rw [Cypher.mem_literal_escaped hc, Cypher.isSpecial_control hc]

/-- A list of strings keeps an escape character, and its line feeds are escaped. -/
theorem control_mem_literal_list :
    IsControl '\x1b' ∧ IsControl '\n' ∧
      '\x1b' ∈ (Cypher.literal .escaped (.list [.int 1, .string "\n\x1b"])).toList ∧
      '\n' ∉ (Cypher.literal .escaped (.list [.int 1, .string "\n\x1b"])).toList := by
  have hescape : IsControl '\x1b' := by decide
  have hfeed : IsControl '\n' := by decide
  have hstring : Value.HasString (.list [.int 1, .string "\n\x1b"]) "\n\x1b" :=
    .item (List.mem_cons_of_mem _ List.mem_cons_self) (.string _)
  refine ⟨hescape, hfeed, ?_, fun hmem => ?_⟩
  · exact (control_mem_literal hescape _).mpr ⟨⟨_, hstring, by decide⟩, by decide⟩
  · exact ((control_mem_literal hfeed _).mp hmem).2 (by decide)

/-- Escaping leaves a control character in a literal. -/
theorem control_not_escaped :
    Cypher.literal .escaped (.string "\x01") = "'\x01'" ∧ IsControl '\x01' ∧
      ¬∀ (v : Value) (c : Char), c ∈ (Cypher.literal .escaped v).toList → ¬IsControl c := by
  have hliteral : Cypher.literal .escaped (.string "\x01") = "'\x01'" := by decide
  have hcontrol : IsControl '\x01' := by decide
  refine ⟨hliteral, hcontrol, fun h => h (.string "\x01") '\x01' ?_ hcontrol⟩
  rw [hliteral]
  decide

end GraphImport
