import GraphImport.Json.Numeral
import GraphImport.Json.Quote

/-!
# Reading JSON values

A reader takes the rest of a text and gives a value and what is left, or a fault. Loops run on
`fuel`, which is more than the length of the text, since every round takes at least one character;
nesting runs on the number of levels that are left.

* `Json.nextItem`, `Json.nextMember` — what stands between the items of an array and between the
  members of an object.
* `Json.readItems`, `Json.readMembers` — the items and the members, with any reader for the values.
* `Json.readValue` — a JSON value.
* `Json.parse` — a whole text.
-/

namespace GraphImport.Json

/-! ## Between values -/

/-- Space, tab, line feed and carriage return may stand between the parts of a text. -/
def isBlank (c : Char) : Bool := c == ' ' || c == '\t' || c == '\n' || c == '\r'

/-- The text without blanks at its start. -/
def skipBlank (text : List Char) : List Char := text.dropWhile isBlank

/-- What stands before the next part of an array or object. -/
inductive Next where
  /-- Another part starts here. -/
  | more (text : List Char)
  /-- The closing bracket has been read. -/
  | closed (rest : List Char)

/-- What stands before an item; `first` tells whether it is the first of its array. -/
def nextItem (first : Bool) (text : List Char) : Except Fault Next :=
  match skipBlank text with
  | [] => .error (.atEnd .endOfArray)
  | c :: rest =>
    if c = ']' then .ok (.closed rest)
    else if first then .ok (.more (c :: rest))
    else if c = ',' then
      match skipBlank rest with
      | [] => .error (.atEnd .endOfValue)
      | d :: after =>
        if d = ']' then .error (.here .trailingComma (d :: after)) else .ok (.more (d :: after))
    else .error (.here .expectedArrayEnd (c :: rest))

/-- What stands before a member; its opening quote has been read. -/
def nextMember (first : Bool) (text : List Char) : Except Fault Next :=
  match skipBlank text with
  | [] => .error (.atEnd .endOfObject)
  | c :: rest =>
    if c = '\x7d' then .ok (.closed rest)
    else if first then
      if c = '"' then .ok (.more rest) else .error (.here .keyNotString (c :: rest))
    else if c = ',' then
      match skipBlank rest with
      | [] => .error (.atEnd .endOfValue)
      | d :: after =>
        if d = '"' then .ok (.more after)
        else if d = '\x7d' then .error (.here .trailingComma (d :: after))
        else .error (.here .keyNotString (d :: after))
    else .error (.here .expectedObjectEnd (c :: rest))

/-- The colon behind a key. -/
def readColon (text : List Char) : Except Fault (List Char) :=
  match skipBlank text with
  | [] => .error (.atEnd .endOfObject)
  | c :: rest => if c = ':' then .ok rest else .error (.here .expectedColon (c :: rest))

/-- The rest of a word. -/
def readWord : (word : List Char) → List Char → Except Fault (List Char)
  | [], text => .ok text
  | _ :: _, [] => .error (.atEnd .endOfValue)
  | w :: word, c :: rest =>
    if c = w then readWord word rest else .error (.here .expectedWord (c :: rest))

/-! ## Arrays and objects -/

/-- A reader gives a value and the text behind it. -/
abbrev Reader (α : Type) := List Char → Except Fault (α × List Char)

/-- The items behind an opening bracket, and the closing one. `done` holds the items read so far,
the last one first. -/
def readItems {α : Type} (read : Reader α) : (fuel : Nat) → (first : Bool) → (done : List α) →
    Reader (List α)
  | 0, _, _, _ => .error (.atEnd .endOfArray)
  | fuel + 1, first, done, text =>
    match nextItem first text with
    | .error fault => .error fault
    | .ok (.closed rest) => .ok (done.reverse, rest)
    | .ok (.more rest) =>
      match read rest with
      | .error fault => .error fault
      | .ok (item, rest) => readItems read fuel false (item :: done) rest

/-- The members behind an opening brace, and the closing one. A key that comes again replaces the
value where it stands. -/
def readMembers {α : Type} (read : Reader α) : (fuel : Nat) → (first : Bool) →
    (done : Entries α) → Reader (Entries α)
  | 0, _, _, _ => .error (.atEnd .endOfObject)
  | fuel + 1, first, done, text =>
    match nextMember first text with
    | .error fault => .error fault
    | .ok (.closed rest) => .ok (done, rest)
    | .ok (.more rest) =>
      match readQuoted fuel [] rest with
      | .error fault => .error fault
      | .ok (key, rest) =>
        match readColon rest with
        | .error fault => .error fault
        | .ok rest =>
          match read rest with
          | .error fault => .error fault
          | .ok (value, rest) => readMembers read fuel false (done.insert key value) rest

/-! ## Values -/

/-- The character may start a number. -/
def startsNumber (c : Char) : Bool := c == '-' || c.isDigit

/-- A value that is neither an array nor an object; `c` is its first character. -/
def readScalar (fuel : Nat) (c : Char) (rest : List Char) : Except Fault (Json × List Char) :=
  if c = 'n' then do return (.null, ← readWord "ull".toList rest)
  else if c = 't' then do return (.bool true, ← readWord "rue".toList rest)
  else if c = 'f' then do return (.bool false, ← readWord "alse".toList rest)
  else if c = '"' then do
    let (s, rest) ← readQuoted fuel [] rest
    return (.string s, rest)
  else if startsNumber c then do
    let (n, rest) ← readNumber (c :: rest)
    return (.number n, rest)
  else .error (.here .expectedValue (c :: rest))

/-- A JSON value, with at most `levels` arrays and objects inside each other. -/
def readValue (fuel : Nat) : (levels : Nat) → Reader Json
  | levels, text =>
    match skipBlank text with
    | [] => .error (.atEnd .endOfValue)
    | c :: rest =>
      if c = '[' then
        match levels with
        | 0 => .error (.here .tooDeep (c :: rest))
        | levels + 1 => do
          let (items, rest) ← readItems (readValue fuel levels) fuel true [] rest
          return (.array items, rest)
      else if c = '\x7b' then
        match levels with
        | 0 => .error (.here .tooDeep (c :: rest))
        | levels + 1 => do
          let (members, rest) ← readMembers (readValue fuel levels) fuel true [] rest
          return (.object members, rest)
      else readScalar fuel c rest

/-! ## Whole texts -/

/-- Arrays and objects may be nested so deep. -/
def maxLevels : Nat := 127

/-- The fuel that reading a text takes at most. -/
def fuelFor (text : List Char) : Nat := text.length + 1

/-- Nothing but blanks may follow. -/
def readEnd (text : List Char) : Except Fault Unit :=
  match skipBlank text with
  | [] => .ok ()
  | c :: rest => .error (.here .trailingText (c :: rest))

/-- A whole text, read with the given reader. -/
def readAll {α : Type} (read : (fuel levels : Nat) → Reader α) (text : String) :
    Except ReadError α :=
  let chars := text.toList
  let result := do
    let (value, rest) ← read (fuelFor chars) maxLevels chars
    readEnd rest
    return value
  match result with
  | .ok value => .ok value
  | .error fault => .error ⟨fault.cause, some (fault.position chars)⟩

/-- The JSON value of a whole text. -/
def parse (text : String) : Except ReadError Json := readAll readValue text

end GraphImport.Json
