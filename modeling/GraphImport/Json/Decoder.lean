import GraphImport.Json.Skip

/-!
# Typed reading

Decoders read a value of a known type straight from the text, so that a value of another type is
reported where it stands. A record is read from an object or from an array of its fields in order;
members of other names are passed over.

* `Json.Decoder` — a reader that is told the fuel and the levels that are left.
* `Json.Decoder.text`, `flag`, `natural`, `absent`, `optional`, `list`, `members`, `choice` —
  decoders by type.
* `Json.Record`, `Json.Record.decoder` — records.
* `Json.decode` — a whole text.
-/

namespace GraphImport.Json

/-- Reads a value of a known type, given the fuel and the levels of nesting that are left. -/
abbrev Decoder (α : Type) := (fuel levels : Nat) → Reader α

namespace Decoder

/-! ## Values of another type -/

/-- The fault of a value that is not of the expected type. A scalar is read first, and may be at
fault itself; of an array or object only the bracket is looked at. -/
def mismatch (fuel : Nat) (expected : String) (c : Char) (rest : List Char) : Fault :=
  if c = '[' then .behind (.wrongType .sequence expected) (c :: rest)
  else if c = '\x7b' then .behind (.wrongType .map expected) (c :: rest)
  else
    match readScalar fuel c rest with
    | .error fault => fault
    | .ok (value, rest) => .behind (.wrongType (found value) expected) rest

/-! ## Scalars -/

/-- Any JSON value. -/
def any : Decoder Json := readValue

/-- A string. -/
def text : Decoder String := fun fuel _ text =>
  match skipBlank text with
  | [] => .error (.atEnd .endOfValue)
  | c :: rest =>
    if c = '"' then readQuoted fuel [] rest else .error (mismatch fuel "a string" c rest)

/-- A truth value. -/
def flag : Decoder Bool := fun fuel _ text =>
  match skipBlank text with
  | [] => .error (.atEnd .endOfValue)
  | c :: rest =>
    if c = 't' then do return (true, ← readWord "rue".toList rest)
    else if c = 'f' then do return (false, ← readWord "alse".toList rest)
    else .error (mismatch fuel "a boolean" c rest)

/-- A natural number of 64 bits; `expected` names its type. -/
def natural (expected : String) : Decoder Nat := fun fuel _ text =>
  match skipBlank text with
  | [] => .error (.atEnd .endOfValue)
  | c :: rest =>
    if startsNumber c then
      match readNumber (c :: rest) with
      | .error fault => .error fault
      | .ok (.integer n, rest) =>
        if 0 ≤ n then .ok (n.toNat, rest)
        else .error (.behind (.wrongValue (.integer n) expected) rest)
      | .ok (.double x, rest) => .error (.behind (.wrongType (.double x) expected) rest)
    else .error (mismatch fuel expected c rest)

/-- The value `null`, and no other. -/
def absent : Decoder Unit := fun fuel _ text =>
  match skipBlank text with
  | [] => .error (.atEnd .endOfValue)
  | c :: rest =>
    if c = 'n' then do return ((), ← readWord "ull".toList rest)
    else .error (mismatch fuel "unit" c rest)

/-! ## Compound values -/

/-- The value `null`, or what the decoder reads. -/
def optional {α : Type} (decoder : Decoder α) : Decoder (Option α) := fun fuel levels text =>
  match skipBlank text with
  | [] => .error (.atEnd .endOfValue)
  | c :: rest =>
    if c = 'n' then do return (none, ← readWord "ull".toList rest)
    else do
      let (value, rest) ← decoder fuel levels (c :: rest)
      return (some value, rest)

/-- What stands inside the next bracket, with one level less; there may be no level left. -/
def inside {α : Type} (levels : Nat) (c : Char) (rest : List Char)
    (read : (levels : Nat) → Except Fault α) : Except Fault α :=
  match levels with
  | 0 => .error (.here .tooDeep (c :: rest))
  | levels + 1 => read levels

/-- An array of values of one type. -/
def list {α : Type} (decoder : Decoder α) : Decoder (List α) := fun fuel levels text =>
  match skipBlank text with
  | [] => .error (.atEnd .endOfValue)
  | c :: rest =>
    if c = '[' then
      inside levels c rest fun levels => readItems (decoder fuel levels) fuel true [] rest
    else .error (mismatch fuel "a sequence" c rest)

/-- An object with members of one type. -/
def members {α : Type} (decoder : Decoder α) : Decoder (Entries α) := fun fuel levels text =>
  match skipBlank text with
  | [] => .error (.atEnd .endOfValue)
  | c :: rest =>
    if c = '\x7b' then
      inside levels c rest fun levels => readMembers (decoder fuel levels) fuel true [] rest
    else .error (mismatch fuel "a map" c rest)

/-- The value of a name; the text behind the name is needed for the fault. -/
def variant {α : Type} (variants : Entries α) (name : String) (rest : List Char) :
    Except Fault α :=
  match variants.find? name with
  | some value => .ok value
  | none => .error (.behind (.unknownVariant name variants.keys) rest)

/-- One of several values, each known by a name. The name stands alone, or as the only key of an
object whose value is `null`. -/
def choice {α : Type} (variants : Entries α) : Decoder α := fun fuel levels text =>
  match skipBlank text with
  | [] => .error (.atEnd .endOfValue)
  | c :: rest =>
    if c = '"' then do
      let (name, rest) ← readQuoted fuel [] rest
      return (← variant variants name rest, rest)
    else if c = '\x7b' then
      inside levels c rest fun levels => do
        match ← nextMember true rest with
        | .closed _ => .error (.here .expectedValue (skipBlank rest))
        | .more rest =>
          let (name, rest) ← readQuoted fuel [] rest
          let value ← variant variants name rest
          let rest ← readColon rest
          let ((), rest) ← absent fuel levels rest
          match skipBlank rest with
          | [] => .error (.atEnd .endOfObject)
          | d :: after =>
            if d = '\x7d' then return (value, after)
            else .error (.behind .expectedValue (d :: after))
    else .error (.here .expectedValue (c :: rest))

end Decoder

/-! ## Records -/

/-- One field of a record of which `σ` holds what has been read so far. -/
structure Field (σ : Type) where
  /-- The key of the field. -/
  name : String
  /-- An array of the fields may end in front of the field. -/
  defaulted : Bool
  /-- The field has been read. -/
  isSet : σ → Bool
  /-- Reads the field. -/
  read : σ → Decoder σ

/-- A field that a decoder reads; `get` tells what has been read and `set` keeps it. -/
def Field.ofDecoder {σ α : Type} (name : String) (defaulted : Bool) (get : σ → Option α)
    (set : σ → α → σ) (decoder : Decoder α) : Field σ where
  name
  defaulted
  isSet := fun state => (get state).isSome
  read := fun state fuel levels text =>
    match decoder fuel levels text with
    | .error fault => .error fault
    | .ok (value, rest) => .ok (set state value, rest)

/-- A record with fields in order. -/
structure Record (σ α : Type) where
  /-- The name that messages use. -/
  name : String
  /-- The fields, in order. -/
  fields : List (Field σ)
  /-- No field has been read. -/
  start : σ
  /-- The record, or the first field that it lacks. -/
  finish : σ → Except Cause α

namespace Record

variable {σ α : Type}

/-- How a message names the expected record. -/
def expected (record : Record σ α) : String := "struct " ++ record.name

/-- How a message names the expected number of items. -/
def expectedLength (record : Record σ α) : String :=
  let count := record.fields.length
  record.expected ++ " with " ++ toString count ++ (if count = 1 then " element" else " elements")

/-- The record made of what has been read; `rest` is the text behind it. -/
def complete (record : Record σ α) (state : σ) (rest : List Char) :
    Except Fault (α × List Char) :=
  match record.finish state with
  | .ok value => .ok (value, rest)
  | .error cause => .error (.behind cause rest)

/-- The end of an array that holds all fields. -/
def readClosing (text : List Char) : Except Fault (List Char) :=
  match skipBlank text with
  | [] => .error (.atEnd .endOfArray)
  | c :: rest =>
    if c = ']' then .ok rest
    else if c = ',' then
      match skipBlank rest with
      | [] => .error (.atEnd .trailingText)
      | d :: after =>
        if d = ']' then .error (.here .trailingComma (d :: after))
        else .error (.here .trailingText (d :: after))
    else .error (.here .trailingText (c :: rest))

/-- The fields that are left, from an array; `index` of them have been read. -/
def readArray (record : Record σ α) (fuel levels : Nat) : (fields : List (Field σ)) →
    (index : Nat) → (state : σ) → Reader α
  | [], _, state, text =>
    match readClosing text with
    | .error fault => .error fault
    | .ok rest => record.complete state rest
  | field :: fields, index, state, text =>
    match nextItem (index == 0) text with
    | .error fault => .error fault
    | .ok (.closed rest) =>
      match (field :: fields).findIdx? fun f => !f.defaulted with
      | some missing => .error (.behind (.wrongLength (index + missing) record.expectedLength) rest)
      | none => record.complete state rest
    | .ok (.more rest) =>
      match field.read state fuel levels rest with
      | .error fault => .error fault
      | .ok (state, rest) => readArray record fuel levels fields (index + 1) state rest

/-- The fault of a field that comes again: blanks and the end of the object, if it follows, count as
read. -/
def duplicateFault (name : String) (rest : List Char) : Fault :=
  match skipBlank rest with
  | [] => .atEnd (.duplicateField name)
  | c :: after => .behind (.duplicateField name) (if c = '\x7d' then after else c :: after)

/-- The value of a member: of a field, or of a name that is not known. -/
def readMember (record : Record σ α) (fuel levels : Nat) (key : String) (state : σ)
    (text : List Char) : Except Fault (σ × List Char) :=
  match record.fields.find? fun field => field.name == key with
  | none => do
    let rest ← readColon text
    let rest ← skipValue fuel rest
    return (state, rest)
  | some field =>
    if field.isSet state then .error (duplicateFault key text)
    else do
      let rest ← readColon text
      field.read state fuel levels rest

/-- The members of an object. -/
def readObject (record : Record σ α) (fuel levels : Nat) : (rounds : Nat) → (first : Bool) →
    (state : σ) → Reader α
  | 0, _, _, _ => .error (.atEnd .endOfObject)
  | rounds + 1, first, state, text =>
    match nextMember first text with
    | .error fault => .error fault
    | .ok (.closed rest) => record.complete state rest
    | .ok (.more rest) =>
      match readQuoted fuel [] rest with
      | .error fault => .error fault
      | .ok (key, rest) =>
        match record.readMember fuel levels key state rest with
        | .error fault => .error fault
        | .ok (state, rest) => readObject record fuel levels rounds false state rest

/-- Reads a record from an object, or from an array of its fields in order. -/
def decoder (record : Record σ α) : Decoder α := fun fuel levels text =>
  match skipBlank text with
  | [] => .error (.atEnd .endOfValue)
  | c :: rest =>
    if c = '[' then
      Decoder.inside levels c rest fun levels =>
        record.readArray fuel levels record.fields 0 record.start rest
    else if c = '\x7b' then
      Decoder.inside levels c rest fun levels =>
        record.readObject fuel levels fuel true record.start rest
    else .error (Decoder.mismatch fuel record.expected c rest)

/-- A field that has to be there. -/
def required (name : String) : Option α → Except Cause α
  | some value => .ok value
  | none => .error (.missingField name)

end Record

/-- The typed value of a whole text. -/
def decode {α : Type} (decoder : Decoder α) (text : String) : Except ReadError α :=
  readAll decoder text

end GraphImport.Json
