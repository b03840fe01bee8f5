import GraphImport.Proofs.Json.IntegerText
import GraphImport.Proofs.Json.Mirror

/-!
# JSON values as they are written

The value of a number no longer tells how the number is written. A written value keeps the
characters of its numbers, and is otherwise a JSON value; it is read from the same texts, by a reader
that mirrors the one for JSON values.

* `Json.Written`, `Json.Written.decoder` — written values and their reader.
* `Json.IsWritten` — a JSON value is what a written value stands for.
* `Json.Written.mirrors` — whatever is read as a JSON value is read as a written value.
-/

namespace GraphImport.Json

/-- A JSON value that keeps the characters of its numbers. -/
inductive Written where
  /-- The value `null`. -/
  | null
  /-- A truth value. -/
  | bool (b : Bool)
  /-- The characters of a number. -/
  | number (text : List Char)
  /-- A string. -/
  | string (s : String)
  /-- An array. -/
  | array (items : List Written)
  /-- An object. -/
  | object (members : List (String × Written))

namespace Written

/-! ## Reading -/

/-- The characters of a number. -/
def readNumber : Reader (List Char) := fun text =>
  match readNumeral text with
  | .error fault => .error fault
  | .ok (_, rest) => .ok (text.take (text.length - rest.length), rest)

/-- A value that is neither an array nor an object; `c` is its first character. -/
def readScalar (fuel : Nat) (c : Char) (rest : List Char) : Except Fault (Written × List Char) :=
  if c = 'n' then do return (.null, ← readWord "ull".toList rest)
  else if c = 't' then do return (.bool true, ← readWord "rue".toList rest)
  else if c = 'f' then do return (.bool false, ← readWord "alse".toList rest)
  else if c = '"' then do
    let (s, rest) ← readQuoted fuel [] rest
    return (.string s, rest)
  else if startsNumber c then do
    let (text, rest) ← readNumber (c :: rest)
    return (.number text, rest)
  else .error (.here .expectedValue (c :: rest))

/-- A written value, with at most `levels` arrays and objects inside each other. -/
def decoder (fuel : Nat) : (levels : Nat) → Reader Written
  | levels, text =>
    match skipBlank text with
    | [] => .error (.atEnd .endOfValue)
    | c :: rest =>
      if c = '[' then
        match levels with
        | 0 => .error (.here .tooDeep (c :: rest))
        | levels + 1 => do
          let (items, rest) ← readItems (decoder fuel levels) fuel true [] rest
          return (.array items, rest)
      else if c = '\x7b' then
        match levels with
        | 0 => .error (.here .tooDeep (c :: rest))
        | levels + 1 => do
          let (members, rest) ← readMembers (decoder fuel levels) fuel true [] rest
          return (.object members, rest)
      else readScalar fuel c rest

end Written

/-! ## What written values stand for -/

/-- **The JSON value is what the written value stands for**: numbers are read, and all else is the
same. -/
inductive IsWritten : Json → Written → Prop where
  /-- The value `null`. -/
  | null : IsWritten .null .null
  /-- A truth value. -/
  | bool (b : Bool) : IsWritten (.bool b) (.bool b)
  /-- A number, whatever stands behind it. -/
  | number {n : Number} {text : List Char} (rest : List Char)
    (h : readNumber (text ++ rest) = .ok (n, rest)) : IsWritten (.number n) (.number text)
  /-- A string. -/
  | string (s : String) : IsWritten (.string s) (.string s)
  /-- An array. -/
  | array {items : List Json} {items' : List Written} (h : List.Forall₂ IsWritten items items') :
    IsWritten (.array items) (.array items')
  /-- An object; no key stands twice. -/
  | object {members : Entries Json} {members' : Entries Written} (hnodup : members.keys.Nodup)
    (hkeys : members.keys = members'.keys)
    (hvalues : List.Forall₂ IsWritten (members.map Prod.snd) (members'.map Prod.snd)) :
    IsWritten (.object members) (.object members')

/-- The members of objects that stand for each other. -/
theorem isWritten_object {members : Entries Json} {members' : Entries Written} :
    IsWritten (.object members) (.object members') ↔ RelatedMembers IsWritten members members' := by
  constructor
  · intro h
    cases h with
    | object hnodup hkeys hvalues => exact ⟨hnodup, Entries.Related.iff_keys_values.mpr ⟨hkeys, hvalues⟩⟩
  · rintro ⟨hnodup, hrelated⟩
    obtain ⟨hkeys, hvalues⟩ := Entries.Related.iff_keys_values.mp hrelated
    exact .object hnodup hkeys hvalues

namespace Written

/-- The characters of a number are read where the number is read. -/
theorem readNumber_mirrors :
    Mirrors (fun n text => IsWritten (.number n) (.number text)) Json.readNumber readNumber := by
  intro text n rest hread
  have hnumber := hread
  obtain ⟨⟨numeral, behind⟩, hnumeral, hread⟩ := bind_eq_ok.mp hread
  obtain ⟨value, hvalue, hread⟩ := bind_eq_ok.mp hread
  cases hread
  obtain ⟨-, -, -, written, htext, -⟩ := readNumeral_eq_ok hnumeral
  refine ⟨minusText numeral.negative ++ numeral.whole ++ written, ?_, .number rest ?_⟩
  · unfold readNumber
    rw [hnumeral]
    dsimp only
    rw [htext, List.length_append, Nat.add_sub_cancel, List.take_left]
  · rw [← htext]
    exact hnumber

/-- A string is read as it is. -/
theorem readQuoted_mirrors (fuel : Nat) :
    Mirrors (fun s s' => IsWritten (.string s) (.string s')) (readQuoted fuel [])
      (readQuoted fuel []) := fun _ s _ hread => ⟨s, hread, .string s⟩

/-- Scalars are read alike. -/
theorem readScalar_mirrors (fuel : Nat) (c : Char) :
    Mirrors IsWritten (Json.readScalar fuel c) (readScalar fuel c) := by
  apply Mirrors.ite (fun _ => .word _ .null)
  intro _
  apply Mirrors.ite (fun _ => .word _ (.bool true))
  intro _
  apply Mirrors.ite (fun _ => .word _ (.bool false))
  intro _
  apply Mirrors.ite (fun _ => (readQuoted_mirrors fuel).map fun _ _ h => h)
  intro _
  apply Mirrors.ite (fun _ => (readNumber_mirrors.cons c).map fun _ _ h => h)
  intro _
  exact .fails

/-- **Whatever is read as a JSON value is read as a written value** that stands for it. -/
theorem mirrors : Decoder.Mirrors IsWritten Decoder.any decoder := by
  intro fuel levels
  change Mirrors IsWritten (readValue fuel levels) (decoder fuel levels)
  induction levels with
  | zero =>
      intro text json rest hread
      unfold readValue at hread
      unfold decoder
      refine Mirrors.behindBlank (fun c => ?_) text json rest hread
      apply Mirrors.ite (fun _ => .fails)
      intro _
      apply Mirrors.ite (fun _ => .fails)
      intro _
      exact readScalar_mirrors fuel c
  | succ levels ih =>
      intro text json rest hread
      unfold readValue at hread
      unfold decoder
      refine Mirrors.behindBlank (fun c => ?_) text json rest hread
      apply Mirrors.ite
      · intro _
        exact (readItems_mirrors ih fuel true .nil).map fun _ _ h => .array h
      · intro _
        apply Mirrors.ite
        · intro _
          exact (readMembers_mirrors ih fuel true .nil).map fun _ _ h => isWritten_object.mpr h
        · intro _
          exact readScalar_mirrors fuel c

end Written

end GraphImport.Json
