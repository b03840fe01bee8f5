import GraphImport.Proofs.Json.Printing

/-!
# Decoders of printed texts

A decoder recovers a value from a text when it takes just that value off the text, whatever stands
behind it. Texts of parts make a text of the whole: of an array, and of an object whose members fill
the fields of a record one after the other.

* `Json.Decoder.Recovers` — a decoder takes a value off its text.
* `Json.Decoder.Recovers.text`, `flag`, `natural`, `choice`, `none`, `some` — single values.
* `Json.Decoder.Recovers.list` — arrays.
* `Json.Record.Fills`, `Json.Record.Fills.recovers` — records.
* `Json.Decoder.Recovers.decode` — whole texts.
-/

namespace GraphImport.Json

variable {α β σ : Type}

namespace Decoder

variable {decoder : Decoder α} {levels : Nat}

/-- **The decoder recovers the value from the text**: the text starts as a part has to, and the
decoder takes the value off it, whatever stands behind it. -/
structure Recovers (decoder : Decoder α) (levels : Nat) (text : String) (value : α) : Prop where
  /-- The text starts as a part has to. -/
  starts : Starts text
  /-- The value is read back. -/
  reads : ∀ fuel, text.length < fuel → ReadsBack (decoder fuel levels) text value

namespace Recovers

/-! ## Single values -/

/-- A string. -/
theorem text (s : String) : Decoder.text.Recovers levels (quote s) s where
  starts := starts_quote s
  reads fuel hfuel rest _ := by
    have hlength := length_le_quote s
    obtain ⟨behind, htext, hread⟩ := readQuoted_quote s (by omega : s.length < fuel) rest
    rw [htext]
    unfold Decoder.text
    rw [skipBlank_cons rfl]
    simp only [if_pos, hread]

/-- A truth value. -/
theorem flag (b : Bool) : Decoder.flag.Recovers levels (compact (.bool b)) b := by
  cases b with
  | true => exact ⟨⟨'t', ['r', 'u', 'e'], rfl, by decide⟩, fun _ _ _ _ => rfl⟩
  | false => exact ⟨⟨'f', ['a', 'l', 's', 'e'], rfl, by decide⟩, fun _ _ _ _ => rfl⟩

/-- A natural number of 64 bits. -/
theorem natural (expected : String) {n : Nat} (h : n < 2 ^ 64) :
    (Decoder.natural expected).Recovers levels (compact (.number (.integer n))) n := by
  obtain ⟨c, cs, htext, hc⟩ := toString_eq_cons n
  have hstarts : startsNumber c = true := by simp [startsNumber, hc]
  have hblank := isBlank_of_startsNumber hstarts
  refine ⟨⟨c, cs, htext, hblank, ne_of_startsNumber hstarts rfl⟩, fun fuel _ rest hrest => ?_⟩
  have hlow : -2 ^ 63 ≤ (n : Int) := by omega
  have hread : readNumber ((compact (.number (.integer n))).toList ++ rest) =
      .ok (.integer n, rest) := readNumber_toString hlow (by exact_mod_cast h) hrest
  change Decoder.natural expected fuel levels ((toString n).toList ++ rest) = _
  change readNumber ((toString n).toList ++ rest) = _ at hread
  rw [htext, List.cons_append] at hread ⊢
  unfold Decoder.natural
  rw [skipBlank_cons hblank]
  simp [hstarts, hread]

/-- A value that is known by its name. -/
theorem choice {variants : Entries α} {name : String} {value : α}
    (h : variants.find? name = some value) :
    (Decoder.choice variants).Recovers levels (quote name) value where
  starts := starts_quote name
  reads fuel hfuel rest _ := by
    have hlength := length_le_quote name
    obtain ⟨behind, htext, hread⟩ := readQuoted_quote name (by omega : name.length < fuel) rest
    rw [htext]
    unfold Decoder.choice
    rw [skipBlank_cons rfl]
    simp only [if_pos, hread, bind, Except.bind, variant, h]
    rfl

/-- No value. -/
theorem none : (optional decoder).Recovers levels (compact .null) none :=
  ⟨⟨'n', ['u', 'l', 'l'], rfl, by decide⟩, fun _ _ _ _ => rfl⟩

/-- A value that may be absent, if its text cannot be taken for `null`. -/
theorem some {text : String} {value : α} (h : decoder.Recovers levels text value)
    (hnull : text.toList.head? ≠ some 'n') :
    (optional decoder).Recovers levels text (some value) := by
  obtain ⟨c, cs, htext, hblank, hclosing⟩ := h.starts
  refine ⟨h.starts, fun fuel hfuel rest hrest => ?_⟩
  have hread := h.reads fuel hfuel rest hrest
  have hc : c ≠ 'n' := by
    rintro rfl
    exact hnull (htext ▸ rfl)
  rw [htext, List.cons_append] at hread ⊢
  unfold optional
  rw [skipBlank_cons hblank]
  simp only [if_neg hc, hread]
  rfl

/-! ## Arrays -/

/-- **Framed texts of values** are a text of their list. -/
theorem list {text : α → String} {items : List α} {gap last : String} (hgap : OnlyBlanks gap)
    (hlast : OnlyBlanks last) (h : ∀ item ∈ items, decoder.Recovers levels (text item) item) :
    (Decoder.list decoder).Recovers (levels + 1) (framed "[" "]" gap last (items.map text))
      items where
  starts := starts_framed rfl (by decide) "]" gap last _
  reads fuel hfuel rest _ := by
    obtain ⟨behind, htext, hread⟩ := readItems_framed hgap hlast
      (fun item hitem => ⟨(h item hitem).starts, (h item hitem).reads fuel⟩) hfuel rest
    rw [htext]
    unfold Decoder.list
    rw [skipBlank_cons rfl]
    exact hread

/-! ## Whole texts -/

/-- A text of a value is decoded to the value. -/
theorem decode {text : String} {value : α} (h : decoder.Recovers maxLevels text value) :
    Json.decode decoder text = .ok value := readAll_of_readsBack h.reads

end Recovers

end Decoder

/-! ## Records -/

namespace Record

variable {record : Record σ α} {levels : Nat} {text : β → String} {gap last : String}

/-- **The members fill the record**: each of them names a field that has not been read before, and
the field reads its text. -/
inductive Fills (record : Record σ α) (levels : Nat) (text : β → String) :
    σ → Entries β → σ → Prop where
  /-- Nothing is left. -/
  | nil (state : σ) : Fills record levels text state [] state
  /-- The field of a member is read. -/
  | cons {state next final : σ} {field : Field σ} {member : String × β} {members : Entries β}
    (hfind : record.fields.find? (fun field => field.name == member.1) = some field)
    (hset : field.isSet state = false)
    (hread : ∀ fuel, (text member.2).length < fuel →
      ReadsBack (field.read state fuel levels) (text member.2) next)
    (h : Fills record levels text next members final) :
    Fills record levels text state (member :: members) final

/-- A member fills the field of a decoder that recovers its value. -/
theorem Fills.ofDecoder {γ : Type} {state final : σ} {name : String} {defaulted : Bool}
    {get : σ → Option γ} {set : σ → γ → σ} {decoder : Decoder γ} {written : β} {value : γ}
    {members : Entries β} (hvalue : decoder.Recovers levels (text written) value)
    (hfind : record.fields.find? (fun field => field.name == name) =
      some (.ofDecoder name defaulted get set decoder))
    (hget : get state = none) (h : record.Fills levels text (set state value) members final) :
    record.Fills levels text state ((name, written) :: members) final := by
  refine .cons hfind (Option.isSome_eq_false_iff.mpr (Option.isNone_iff_eq_none.mpr hget)) ?_ h
  intro fuel hfuel rest hrest
  simp only [Field.ofDecoder, hvalue.reads fuel hfuel rest hrest]

/-- The field of a member is read behind its key, and the reader goes on behind it. -/
theorem readObject_member {state next : σ} {field : Field σ} {member : String × β} {fuel : Nat}
    (hfind : record.fields.find? (fun field => field.name == member.1) = some field)
    (hset : field.isSet state = false)
    (hread : ReadsBack (field.read state fuel levels) (text member.2) next)
    (hfuel : (memberText "" text member).length < fuel) {first : Bool} {start rest : List Char}
    (hstart : ∀ behind, nextMember first (start ++ '"' :: behind) = .ok (.more behind))
    (hends : Ends rest) (rounds : Nat) :
    record.readObject fuel levels (rounds + 1) first state
        (start ++ ((memberText "" text member).toList ++ rest)) =
      record.readObject fuel levels rounds false next rest := by
  obtain ⟨behind, named, hmember, hkey, hcolon⟩ := readQuoted_memberText hfuel rest
  rw [String.empty_append] at hcolon
  rw [hmember, readObject, hstart]
  simp only [hkey, readMember, hfind, hset, hcolon, bind, Except.bind, hread rest hends]
  rfl

/-- **Further members fill the record**, each behind a comma, up to the closing brace. -/
theorem Fills.readObject_further {state final : σ} {members : Entries β}
    (h : record.Fills levels text state members final) {value : α}
    (hfinish : record.finish final = .ok value) (hgap : OnlyBlanks gap) (hlast : OnlyBlanks last)
    {fuel rounds : Nat} (hfuel : (further gap (members.map (memberText "" text))).length < fuel)
    (hrounds : members.length < rounds) (rest : List Char) :
    record.readObject fuel levels rounds false state
        ((further gap (members.map (memberText "" text))).toList ++
          (last.toList ++ '\x7d' :: rest)) = .ok (value, rest) := by
  induction h generalizing rounds with
  | nil state =>
      obtain ⟨left, rfl⟩ := Nat.exists_eq_add_of_lt hrounds
      change record.readObject fuel levels _ false state (last.toList ++ '\x7d' :: rest) = _
      rw [readObject, nextMember_closing hlast]
      simp only [complete, hfinish]
  | @cons state next final field member members hfind hset hread hmore ih =>
      obtain ⟨left, rfl⟩ : ∃ left, rounds = left + 1 := ⟨rounds - 1, by omega⟩
      rw [List.map_cons, length_further_cons] at hfuel
      have hvalue := length_le_memberText "" text member
      have hends := ends_further gap hlast (.inr rfl) (members.map (memberText "" text)) rest
      rw [List.map_cons, further_cons_append, ← List.cons_append,
        readObject_member hfind hset (hread fuel (by omega)) (by omega) (nextMember_comma hgap)
          hends]
      exact ih hfinish (by omega) (Nat.lt_of_succ_lt_succ hrounds)

/-- **Framed members fill the record**, behind the opening brace. -/
theorem Fills.readObject_framed {state final : σ} {members : Entries β}
    (h : record.Fills levels text state members final) {value : α}
    (hfinish : record.finish final = .ok value) (hgap : OnlyBlanks gap) (hlast : OnlyBlanks last)
    {fuel : Nat}
    (hfuel : (framed "\x7b" "\x7d" gap last (members.map (memberText "" text))).length < fuel)
    (rest : List Char) :
    ∃ behind, (framed "\x7b" "\x7d" gap last (members.map (memberText "" text))).toList ++ rest =
        '\x7b' :: behind ∧
      record.readObject fuel levels fuel true state behind = .ok (value, rest) := by
  obtain ⟨left, hleft⟩ : ∃ left, fuel = left + 1 := ⟨fuel - 1, by omega⟩
  cases h with
  | nil =>
      refine ⟨'\x7d' :: rest, by simp [framed], ?_⟩
      have hclosing := nextMember_closing onlyBlanks_empty true rest
      simp only [String.toList_empty, List.nil_append] at hclosing
      rw [hleft, readObject, hclosing]
      simp only [complete, hfinish]
  | @cons _ next _ field member members hfind hset hread hmore =>
      have hopening : "\x7b".length = 1 := rfl
      have hcount := count_le_length_further gap (members.map (memberText "" text))
      have hvalue := length_le_memberText "" text member
      have hends := ends_further gap hlast (.inr rfl) (members.map (memberText "" text)) rest
      rw [List.length_map] at hcount
      rw [List.map_cons, framed_cons] at hfuel ⊢
      simp only [String.length_append] at hfuel
      have hrest : record.readObject fuel levels left false next _ = .ok (value, rest) :=
        hmore.readObject_further hfinish hgap hlast (by omega) (by omega) rest
      have hfirst := readObject_member hfind hset (hread fuel (by omega)) (by omega)
        (nextMember_first hgap) hends left
      rw [← hleft, hrest] at hfirst
      refine ⟨_, ?_, hfirst⟩
      simp only [String.toList_append, List.append_assoc]
      rfl

/-- **Members that fill a record** are a text of it, once they are framed. -/
theorem Fills.recovers {members : Entries β} {final : σ}
    (h : record.Fills levels text record.start members final) {value : α}
    (hfinish : record.finish final = .ok value) (hgap : OnlyBlanks gap) (hlast : OnlyBlanks last) :
    record.decoder.Recovers (levels + 1)
      (framed "\x7b" "\x7d" gap last (members.map (memberText "" text))) value where
  starts := starts_framed rfl (by decide) "\x7d" gap last _
  reads fuel hfuel rest _ := by
    obtain ⟨behind, htext, hread⟩ := h.readObject_framed hfinish hgap hlast hfuel rest
    rw [htext]
    unfold decoder
    rw [skipBlank_cons rfl]
    exact hread

end Record

end GraphImport.Json
