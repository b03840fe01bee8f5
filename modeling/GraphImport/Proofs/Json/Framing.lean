import GraphImport.Json.Printer
import GraphImport.Json.Reader
import GraphImport.Proofs.Json.Quoting
import GraphImport.Proofs.Property.Related
import GraphImport.Proofs.Text.Joined

/-!
# Reading framed parts

The printers put the parts of an array or object between brackets, with commas between them; they
differ in blanks only, and the reader passes over blanks. So what is shown of any blanks holds of
every printer, and it holds of every reader that reads the parts.

* `Json.framed`, `Json.memberText` — parts between brackets, and the members of an object as parts.
* `Json.ReadsBack` — a reader takes a value off its text, whatever stands behind it.
* `Json.readItems_framed`, `Json.readMembers_framed` — framed parts are read one after the other.
-/

namespace GraphImport.Json

/-! ## Blanks -/

/-- There are only blanks in the text. -/
def OnlyBlanks (s : String) : Prop := ∀ c ∈ s.toList, isBlank c = true

/-- Nothing is blank. -/
theorem onlyBlanks_empty : OnlyBlanks "" := nofun

/-- A line break and an indentation are blank. -/
theorem onlyBlanks_lineBreak (level : Nat) : OnlyBlanks (lineBreak level) := by
  intro c hc
  simp only [lineBreak, String.toList_append, List.mem_append, String.toList_ofList,
    List.mem_replicate] at hc
  rcases hc with hc | ⟨-, rfl⟩
  · rw [List.mem_singleton.mp hc]
    rfl
  · rfl

/-- Blanks are passed over. -/
theorem skipBlank_append {s : String} (h : OnlyBlanks s) (rest : List Char) :
    skipBlank (s.toList ++ rest) = skipBlank rest :=
  List.dropWhile_append_of_pos h

/-- What is no blank is not passed over. -/
theorem skipBlank_cons {c : Char} (h : isBlank c = false) (rest : List Char) :
    skipBlank (c :: rest) = c :: rest := by
  unfold skipBlank
  rw [List.dropWhile_cons_of_neg (by simp [h])]

/-- Blanks are passed over up to something that is no blank. -/
theorem skipBlank_append_cons {s : String} (h : OnlyBlanks s) {c : Char} (hc : isBlank c = false)
    (rest : List Char) : skipBlank (s.toList ++ c :: rest) = c :: rest := by
  rw [skipBlank_append h, skipBlank_cons hc]

/-- A value may end here: nothing follows, or a blank, a comma or a closing bracket. -/
def Ends (rest : List Char) : Prop :=
  ∀ c ∈ rest.head?, isBlank c = true ∨ c = ',' ∨ c = ']' ∨ c = '\x7d'

/-- A value may end in front of blanks and whatever it may end in front of. -/
theorem Ends.behindBlanks {s : String} (h : OnlyBlanks s) {rest : List Char} (hrest : Ends rest) :
    Ends (s.toList ++ rest) := by
  intro c hc
  cases hs : s.toList with
  | nil =>
      rw [hs] at hc
      exact hrest c hc
  | cons d ds =>
      rw [hs, List.cons_append, List.head?_cons, Option.mem_some_iff] at hc
      refine .inl (h c ?_)
      rw [hs, ← hc]
      exact List.mem_cons_self

/-- A value may end in front of a comma or a closing bracket. -/
theorem ends_cons {c : Char} (h : c = ',' ∨ c = ']' ∨ c = '\x7d') (rest : List Char) :
    Ends (c :: rest) := by
  intro d hd
  rw [List.head?_cons, Option.mem_some_iff] at hd
  exact .inr (hd ▸ h)

/-! ## Framed parts -/

/-- Parts between brackets: `gap` stands in front of every part and `last` behind the last one. -/
def framed (opening closing gap last : String) (parts : List String) : String :=
  if parts.isEmpty then opening ++ closing
  else opening ++ gap ++ String.intercalate ("," ++ gap) parts ++ last ++ closing

/-- Parts behind the first one, each behind a comma. -/
def further (gap : String) (parts : List String) : String :=
  String.join (parts.map fun part => "," ++ gap ++ part)

/-- The first part stands behind the opening bracket, and every further part behind a comma. -/
theorem framed_cons (opening closing gap last part : String) (parts : List String) :
    framed opening closing gap last (part :: parts) =
      opening ++ (gap ++ (part ++ (further gap parts ++ (last ++ closing)))) := by
  unfold framed further
  rw [List.isEmpty_cons, if_neg Bool.false_ne_true, intercalate_cons]
  simp only [String.append_assoc]

/-- A further part stands behind a comma, and the others behind it. -/
theorem further_cons_append (gap part : String) (parts : List String) (rest : List Char) :
    (further gap (part :: parts)).toList ++ rest =
      ',' :: (gap.toList ++ (part.toList ++ ((further gap parts).toList ++ rest))) := by
  unfold further
  rw [List.map_cons, String.join_cons]
  simp only [String.toList_append, List.append_assoc]
  rfl

/-- A further part adds its comma and its own length. -/
theorem length_further_cons (gap part : String) (parts : List String) :
    (further gap (part :: parts)).length =
      1 + gap.length + part.length + (further gap parts).length := by
  have hcomma : ",".length = 1 := rfl
  unfold further
  rw [List.map_cons, String.join_cons]
  simp only [String.length_append, hcomma]

/-- There are not more further parts than characters. -/
theorem count_le_length_further (gap : String) (parts : List String) :
    parts.length ≤ (further gap parts).length := by
  apply count_le_length_join
  intro part hempty
  have hcomma : ",".length = 1 := rfl
  have hlength := congrArg String.length hempty
  simp only [String.length_append, String.length_empty] at hlength
  omega

/-- A part may end in front of further parts and the closing bracket. -/
theorem ends_further (gap : String) {last : String} (hlast : OnlyBlanks last) {closing : Char}
    (hclosing : closing = ']' ∨ closing = '\x7d') (parts : List String) (rest : List Char) :
    Ends ((further gap parts).toList ++ (last.toList ++ closing :: rest)) := by
  cases parts with
  | nil => exact (ends_cons (.inr hclosing) rest).behindBlanks hlast
  | cons part parts =>
      rw [further_cons_append]
      exact ends_cons (.inl rfl) _

/-- A part is not longer than the whole. -/
theorem length_le_framed (opening closing gap last : String) {part : String} {parts : List String}
    (h : part ∈ parts) : part.length ≤ (framed opening closing gap last parts).length := by
  have hne : ¬parts.isEmpty = true := by
    rw [List.isEmpty_iff]
    exact List.ne_nil_of_mem h
  have hpart : part.length ≤ (String.intercalate ("," ++ gap) parts).length :=
    length_le_intercalate h
  unfold framed
  rw [if_neg hne]
  simp only [String.length_append]
  omega

/-- There are fewer parts than characters. -/
theorem count_lt_length_framed (gap last : String) (parts : List String) :
    parts.length < (framed "[" "]" gap last parts).length := by
  cases parts with
  | nil =>
      have hempty : framed "[" "]" gap last [] = "[]" := rfl
      rw [hempty]
      exact Nat.zero_lt_two
  | cons part parts =>
      have hbracket : "[".length = 1 ∧ "]".length = 1 := ⟨rfl, rfl⟩
      have hcount := count_le_length_further gap parts
      rw [framed_cons, List.length_cons]
      simp only [String.length_append]
      omega

/-- The first part starts with a character that is neither a blank nor a closing bracket. -/
def Starts (text : String) : Prop :=
  ∃ c cs, text.toList = c :: cs ∧ isBlank c = false ∧ c ≠ ']'

/-- Framed parts start with the opening bracket. -/
theorem starts_framed {opening : String} {c : Char} (hopening : opening.toList = [c])
    (hc : isBlank c = false ∧ c ≠ ']') (closing gap last : String) (parts : List String) :
    Starts (framed opening closing gap last parts) := by
  have happend : ∀ rest, Starts (opening ++ rest) := by
    intro rest
    refine ⟨c, rest.toList, ?_, hc⟩
    rw [String.toList_append, hopening, List.singleton_append]
  unfold framed
  split_ifs
  · exact happend closing
  · simp only [String.append_assoc]
    exact happend _

/-- The reader takes the value off the text, whatever stands behind it. -/
def ReadsBack {α : Type} (read : Reader α) (text : String) (value : α) : Prop :=
  ∀ rest, Ends rest → read (text.toList ++ rest) = .ok (value, rest)

section Items

variable {α : Type} {read : Reader α} {text : α → String} {gap last : String}

/-- Blanks are passed over in front of a part. -/
theorem skipBlank_starts (hgap : OnlyBlanks gap) {s : String} (h : Starts s) (rest : List Char) :
    ∃ c cs, skipBlank (gap.toList ++ (s.toList ++ rest)) = c :: cs ∧
      s.toList ++ rest = c :: cs ∧ c ≠ ']' := by
  obtain ⟨c, cs, hs, hblank, hclosing⟩ := h
  refine ⟨c, cs ++ rest, ?_, ?_, hclosing⟩
  · rw [hs, List.cons_append, skipBlank_append_cons hgap hblank]
  · rw [hs, List.cons_append]

/-- The first item starts behind blanks. -/
theorem nextItem_first (hgap : OnlyBlanks gap) {s : String} (h : Starts s) (rest : List Char) :
    nextItem true (gap.toList ++ (s.toList ++ rest)) = .ok (.more (s.toList ++ rest)) := by
  obtain ⟨c, cs, hskip, hs, hclosing⟩ := skipBlank_starts hgap h rest
  rw [hs] at hskip ⊢
  simp [nextItem, hskip, hclosing]

/-- Another item starts behind a comma and blanks. -/
theorem nextItem_comma (hgap : OnlyBlanks gap) {s : String} (h : Starts s) (rest : List Char) :
    nextItem false (',' :: (gap.toList ++ (s.toList ++ rest))) = .ok (.more (s.toList ++ rest)) := by
  obtain ⟨c, cs, hskip, hs, hclosing⟩ := skipBlank_starts hgap h rest
  rw [hs] at hskip ⊢
  have hcomma : skipBlank (',' :: (gap.toList ++ c :: cs)) = ',' :: (gap.toList ++ c :: cs) :=
    skipBlank_cons rfl _
  simp [nextItem, hcomma, hskip, hclosing]

/-- An array ends behind blanks. -/
theorem nextItem_closing (hlast : OnlyBlanks last) (first : Bool) (rest : List Char) :
    nextItem first (last.toList ++ ']' :: rest) = .ok (.closed rest) := by
  have hskip : skipBlank (last.toList ++ ']' :: rest) = ']' :: rest :=
    skipBlank_append_cons hlast rfl rest
  simp [nextItem, hskip]

/-- **Further items are read**, each behind a comma, up to the closing bracket. -/
theorem readItems_further (hgap : OnlyBlanks gap) (hlast : OnlyBlanks last) {items : List α}
    (h : ∀ item ∈ items, Starts (text item) ∧ ReadsBack read (text item) item)
    {fuel : Nat} (hfuel : items.length < fuel) (done : List α) (rest : List Char) :
    readItems read fuel false done
        ((further gap (items.map text)).toList ++ (last.toList ++ ']' :: rest)) =
      .ok (done.reverse ++ items, rest) := by
  induction items generalizing fuel done with
  | nil =>
      obtain ⟨fuel, rfl⟩ := Nat.exists_eq_add_of_lt hfuel
      change readItems read _ false done (last.toList ++ ']' :: rest) = _
      rw [readItems, nextItem_closing hlast, List.append_nil]
  | cons item items ih =>
      obtain ⟨left, rfl⟩ := Nat.exists_eq_add_of_lt hfuel
      have hleft : items.length < (item :: items).length + left := by
        rw [List.length_cons]
        omega
      obtain ⟨hstarts, hread⟩ := h item List.mem_cons_self
      have hrest := ih (fun other hother => h other (List.mem_cons_of_mem _ hother)) hleft
        (item :: done)
      rw [List.map_cons, further_cons_append, readItems, nextItem_comma hgap hstarts]
      simp only [hread _ (ends_further gap hlast (.inl rfl) _ rest), hrest]
      simp

/-- **Framed items are read**, behind the opening bracket, if the fuel is enough for all of it. -/
theorem readItems_framed (hgap : OnlyBlanks gap) (hlast : OnlyBlanks last) {items : List α}
    {fuel : Nat} (h : ∀ item ∈ items, Starts (text item) ∧
      ((text item).length < fuel → ReadsBack read (text item) item))
    (hfuel : (framed "[" "]" gap last (items.map text)).length < fuel) (rest : List Char) :
    ∃ behind, (framed "[" "]" gap last (items.map text)).toList ++ rest = '[' :: behind ∧
      readItems read fuel true [] behind = .ok (items, rest) := by
  have hcount := count_lt_length_framed gap last (items.map text)
  rw [List.length_map] at hcount
  have hitems : ∀ item ∈ items, Starts (text item) ∧ ReadsBack read (text item) item := by
    intro item hitem
    have hpart := length_le_framed "[" "]" gap last (List.mem_map_of_mem (f := text) hitem)
    exact ⟨(h item hitem).1, (h item hitem).2 (by omega)⟩
  obtain ⟨left, rfl⟩ := Nat.exists_eq_add_of_lt (Nat.lt_trans hcount hfuel)
  cases items with
  | nil =>
      refine ⟨']' :: rest, by simp [framed], ?_⟩
      rw [readItems]
      have hclosing := nextItem_closing onlyBlanks_empty true rest
      simp only [String.toList_empty, List.nil_append] at hclosing
      rw [hclosing]
      rfl
  | cons item items =>
      obtain ⟨hstarts, hread⟩ := hitems item List.mem_cons_self
      have hleft : items.length < (item :: items).length + left := by
        rw [List.length_cons]
        omega
      have hrest := readItems_further hgap hlast
        (fun other hother => hitems other (List.mem_cons_of_mem _ hother)) hleft [item] rest
      refine ⟨gap.toList ++ ((text item).toList ++
        ((further gap (items.map text)).toList ++ (last.toList ++ ']' :: rest))), ?_, ?_⟩
      · rw [List.map_cons, framed_cons]
        simp only [String.toList_append, List.append_assoc]
        rfl
      · rw [readItems, nextItem_first hgap hstarts]
        simp only [hread _ (ends_further gap hlast (.inl rfl) _ rest), hrest]
        simp

end Items

/-! ## Framed members -/

/-- A member as it is written: its key, a colon and its value, perhaps behind a blank. -/
def memberText {α : Type} (space : String) (text : α → String) (member : String × α) : String :=
  quote member.1 ++ ":" ++ (space ++ text member.2)

/-- A value is not longer than its member. -/
theorem length_le_memberText {α : Type} (space : String) (text : α → String)
    (member : String × α) : (text member.2).length ≤ (memberText space text member).length := by
  unfold memberText
  simp only [String.length_append]
  omega

section Members

variable {α : Type} {read : Reader α} {text : α → String} {gap last space : String}

/-- The first member starts behind blanks. -/
theorem nextMember_first (hgap : OnlyBlanks gap) (rest : List Char) :
    nextMember true (gap.toList ++ '"' :: rest) = .ok (.more rest) := by
  have hskip : skipBlank (gap.toList ++ '"' :: rest) = '"' :: rest :=
    skipBlank_append_cons hgap rfl rest
  simp [nextMember, hskip]

/-- Another member starts behind a comma and blanks. -/
theorem nextMember_comma (hgap : OnlyBlanks gap) (rest : List Char) :
    nextMember false (',' :: (gap.toList ++ '"' :: rest)) = .ok (.more rest) := by
  have hcomma : skipBlank (',' :: (gap.toList ++ '"' :: rest)) = ',' :: (gap.toList ++ '"' :: rest) :=
    skipBlank_cons rfl _
  have hskip : skipBlank (gap.toList ++ '"' :: rest) = '"' :: rest :=
    skipBlank_append_cons hgap rfl rest
  simp [nextMember, hcomma, hskip]

/-- An object ends behind blanks. -/
theorem nextMember_closing (hlast : OnlyBlanks last) (first : Bool) (rest : List Char) :
    nextMember first (last.toList ++ '\x7d' :: rest) = .ok (.closed rest) := by
  have hskip : skipBlank (last.toList ++ '\x7d' :: rest) = '\x7d' :: rest :=
    skipBlank_append_cons hlast rfl rest
  simp [nextMember, hskip]

/-- A written string is not shorter than the string. -/
theorem length_le_quote (s : String) : s.length ≤ (quote s).length := by
  have hne : ∀ c, escapedChar c ≠ "" := by
    intro c hempty
    rcases escapedChar_cases c with ⟨escape, hwritten, -⟩ | ⟨hwritten, -⟩
    all_goals
      rw [hempty] at hwritten
      exact nomatch hwritten
  have hjoin := count_le_length_join hne s.toList
  rw [String.length_toList] at hjoin
  unfold quote
  rw [String.length_append, String.length_append]
  omega

/-- A written string starts with a quote. -/
theorem starts_quote (s : String) : Starts (quote s) := by
  obtain ⟨behind, htext, -⟩ := readQuoted_quote s (Nat.lt_succ_self _) []
  rw [List.append_nil] at htext
  exact ⟨'"', behind, htext, rfl, by decide⟩

/-- **The key of a member is read**, and the colon behind it. -/
theorem readQuoted_memberText {member : String × α} {fuel : Nat}
    (hfuel : (memberText space text member).length < fuel) (rest : List Char) :
    ∃ behind named, (memberText space text member).toList ++ rest = '"' :: behind ∧
      readQuoted fuel [] behind = .ok (member.1, named) ∧
      readColon named = .ok ((space ++ text member.2).toList ++ rest) := by
  have hlength : member.1.length < fuel := by
    have hquote := length_le_quote member.1
    unfold memberText at hfuel
    rw [String.length_append, String.length_append] at hfuel
    omega
  obtain ⟨behind, htext, hkey⟩ :=
    readQuoted_quote member.1 hlength (':' :: ((space ++ text member.2).toList ++ rest))
  refine ⟨behind, _, ?_, hkey, ?_⟩
  · unfold memberText
    rw [← htext]
    simp
  · unfold readColon
    rw [skipBlank_cons rfl]
    simp

/-- **A member is read**: its key behind the opening quote, the colon and the value; then the reader
goes on behind it. -/
theorem readMembers_member {member : String × α}
    (h : ReadsBack read (space ++ text member.2) member.2) {fuel : Nat}
    (hfuel : (memberText space text member).length < fuel) {first : Bool} {start rest : List Char}
    (hstart : ∀ behind, nextMember first (start ++ '"' :: behind) = .ok (.more behind))
    (hends : Ends rest) (done : Entries α) :
    readMembers read (fuel + 1) first done
        (start ++ ((memberText space text member).toList ++ rest)) =
      readMembers read fuel false (done.insert member.1 member.2) rest := by
  obtain ⟨behind, named, hmember, hkey, hcolon⟩ := readQuoted_memberText hfuel rest
  rw [hmember, readMembers, hstart]
  simp only [hkey, hcolon, h rest hends]

/-- **Further members are read**, each behind a comma, up to the closing brace. -/
theorem readMembers_further (hgap : OnlyBlanks gap) (hlast : OnlyBlanks last) {members : Entries α}
    (h : ∀ member ∈ members, ReadsBack read (space ++ text member.2) member.2) {fuel : Nat}
    (hfuel : (further gap (members.map (memberText space text))).length < fuel) {done : Entries α}
    (hkeys : (Entries.keys (done ++ members)).Nodup) (rest : List Char) :
    readMembers read fuel false done
        ((further gap (members.map (memberText space text))).toList ++
          (last.toList ++ '\x7d' :: rest)) = .ok (done ++ members, rest) := by
  induction members generalizing fuel done with
  | nil =>
      obtain ⟨left, rfl⟩ := Nat.exists_eq_add_of_lt hfuel
      change readMembers read _ false done (last.toList ++ '\x7d' :: rest) = _
      rw [readMembers, nextMember_closing hlast, List.append_nil]
  | cons member members ih =>
      rw [List.map_cons, length_further_cons] at hfuel
      obtain ⟨left, rfl⟩ : ∃ left, fuel = left + 1 := ⟨fuel - 1, by omega⟩
      have hleft : (further gap (members.map (memberText space text))).length < left := by omega
      have hnew : member.1 ∉ done.keys := by
        intro hmem
        rw [Entries.keys, List.map_append] at hkeys
        exact (List.nodup_append.mp hkeys).2.2 _ hmem member.1 List.mem_cons_self rfl
      have hinsert : done.insert member.1 member.2 = done ++ [member] :=
        Entries.insert_of_not_mem hnew
      have hrest : (Entries.keys (done ++ [member] ++ members)).Nodup := by
        rwa [List.append_assoc, List.singleton_append]
      have hread := ih (fun other hother => h other (List.mem_cons_of_mem _ hother)) hleft hrest
      have hends := ends_further gap hlast (.inr rfl) (members.map (memberText space text)) rest
      rw [List.map_cons, further_cons_append, ← List.cons_append,
        readMembers_member (h member List.mem_cons_self) (by omega) (nextMember_comma hgap) hends,
        hinsert, hread, List.append_assoc, List.singleton_append]

/-- **Framed members are read**, behind the opening brace. -/
theorem readMembers_framed (hgap : OnlyBlanks gap) (hlast : OnlyBlanks last) {members : Entries α}
    (h : ∀ member ∈ members, ReadsBack read (space ++ text member.2) member.2)
    (hkeys : members.keys.Nodup) {fuel : Nat}
    (hfuel : (framed "\x7b" "\x7d" gap last (members.map (memberText space text))).length < fuel)
    (rest : List Char) :
    ∃ behind, (framed "\x7b" "\x7d" gap last (members.map (memberText space text))).toList ++ rest
        = '\x7b' :: behind ∧ readMembers read fuel true [] behind = .ok (members, rest) := by
  cases members with
  | nil =>
      refine ⟨'\x7d' :: rest, by simp [framed], ?_⟩
      obtain ⟨left, rfl⟩ := Nat.exists_eq_add_of_lt hfuel
      have hclosing := nextMember_closing onlyBlanks_empty true rest
      simp only [String.toList_empty, List.nil_append] at hclosing
      rw [readMembers, hclosing]
  | cons member members =>
      have hopening : "\x7b".length = 1 := rfl
      rw [List.map_cons, framed_cons] at hfuel ⊢
      simp only [String.length_append] at hfuel
      obtain ⟨left, rfl⟩ : ∃ left, fuel = left + 1 := ⟨fuel - 1, by omega⟩
      have hleft : (further gap (members.map (memberText space text))).length < left := by omega
      have hone : (Entries.keys ([member] ++ members)).Nodup := hkeys
      have hread := readMembers_further hgap hlast
        (fun other hother => h other (List.mem_cons_of_mem _ hother)) hleft hone rest
      have hends := ends_further gap hlast (.inr rfl) (members.map (memberText space text)) rest
      refine ⟨gap.toList ++ ((memberText space text member).toList ++
        ((further gap (members.map (memberText space text))).toList ++
          (last.toList ++ '\x7d' :: rest))), ?_, ?_⟩
      · simp only [String.toList_append, List.append_assoc]
        rfl
      · rw [readMembers_member (h member List.mem_cons_self) (by omega) (nextMember_first hgap) hends]
        exact hread

end Members

end GraphImport.Json
