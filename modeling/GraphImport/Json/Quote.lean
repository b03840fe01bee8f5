import GraphImport.Json.Fault

/-!
# JSON strings

Strings between double quotes. The writer escapes the quote, the backslash and the controls below
the space, with a short escape where there is one; everything else stands as it is. The reader takes
all escapes of JSON, surrogate pairs included.

* `Json.quote` — a string as JSON text.
* `Json.readQuoted` — the string behind an opening quote.
* `Json.skipQuoted` — passes over a string without looking at its surrogates.
-/

namespace GraphImport.Json

/-! ## Writing -/

/-- A number below 16 as a hexadecimal digit, in lower case. -/
def hexDigit (n : Nat) : Char := Nat.digitChar n

/-- One character as it stands between the quotes. -/
def escapedChar (c : Char) : String :=
  if c = '"' then "\\\""
  else if c = '\\' then "\\\\"
  else if c = '\x08' then "\\b"
  else if c = '\x0c' then "\\f"
  else if c = '\n' then "\\n"
  else if c = '\r' then "\\r"
  else if c = '\t' then "\\t"
  else if c < ' ' then
    "\\u00" ++ String.ofList [hexDigit (c.toNat / 16), hexDigit (c.toNat % 16)]
  else String.singleton c

/-- A string as JSON text. -/
def quote (s : String) : String := "\"" ++ String.join (s.toList.map escapedChar) ++ "\""

/-! ## Escapes -/

/-- The value of a hexadecimal digit of either case. -/
def hexValue? (c : Char) : Option Nat :=
  if '0' ≤ c ∧ c ≤ '9' then some (c.toNat - '0'.toNat)
  else if 'a' ≤ c ∧ c ≤ 'f' then some (c.toNat - 'a'.toNat + 10)
  else if 'A' ≤ c ∧ c ≤ 'F' then some (c.toNat - 'A'.toNat + 10)
  else none

/-- The value of four hexadecimal digits. -/
def hexValue4? (a b c d : Char) : Option Nat := do
  return 4096 * (← hexValue? a) + 256 * (← hexValue? b) + 16 * (← hexValue? c) + (← hexValue? d)

/-- Four digits are due and something else stands there: with fewer than four bytes left the text
ends inside the string. -/
def hexFault (text : List Char) : Fault :=
  if byteCount (text.take 4) < 4 then .atEnd .endOfString else ⟨.invalidEscape, text, 4⟩

/-- Four hexadecimal digits. -/
def readHex4 : List Char → Except Fault (Nat × List Char)
  | a :: b :: c :: d :: rest =>
    match hexValue4? a b c d with
    | some n => .ok (n, rest)
    | none => .error (hexFault (a :: b :: c :: d :: rest))
  | text => .error (hexFault text)

/-- The character that a letter stands for behind a backslash. -/
def shortEscape? (c : Char) : Option Char :=
  if c = '"' then some '"'
  else if c = '\\' then some '\\'
  else if c = '/' then some '/'
  else if c = 'b' then some '\x08'
  else if c = 'f' then some '\x0c'
  else if c = 'n' then some '\n'
  else if c = 'r' then some '\r'
  else if c = 't' then some '\t'
  else none

/-- The code unit is the first half of a surrogate pair. -/
def isHighSurrogate (unit : Nat) : Bool := decide (0xD800 ≤ unit) && decide (unit ≤ 0xDBFF)

/-- The code unit is the second half of a surrogate pair. -/
def isLowSurrogate (unit : Nat) : Bool := decide (0xDC00 ≤ unit) && decide (unit ≤ 0xDFFF)

/-- The character of a surrogate pair. -/
def pairChar (high low : Nat) : Char :=
  Char.ofNat (0x10000 + (high - 0xD800) * 0x400 + (low - 0xDC00))

/-- One expected character inside an escape. -/
def readEscapeMark (mark : Char) : List Char → Except Fault (List Char)
  | [] => .error (.atEnd .endOfString)
  | c :: rest => if c = mark then .ok rest else .error (.here .endOfEscape (c :: rest))

/-- The escape behind `\u`: four digits, or two escapes that are a surrogate pair. -/
def readUnicodeEscape (text : List Char) : Except Fault (Char × List Char) := do
  let (unit, rest) ← readHex4 text
  if isLowSurrogate unit then throw (.behind .loneSurrogate rest)
  else if isHighSurrogate unit then
    let rest ← readEscapeMark '\\' rest
    let rest ← readEscapeMark 'u' rest
    let (second, rest) ← readHex4 rest
    if isLowSurrogate second then return (pairChar unit second, rest)
    else throw (.behind .loneSurrogate rest)
  else return (Char.ofNat unit, rest)

/-- The escape behind a backslash. -/
def readEscape : List Char → Except Fault (Char × List Char)
  | [] => .error (.atEnd .endOfString)
  | c :: rest =>
    if c = 'u' then readUnicodeEscape rest
    else
      match shortEscape? c with
      | some character => .ok (character, rest)
      | none => .error (.here .invalidEscape (c :: rest))

/-! ## Reading -/

/-- The string behind an opening quote. `done` holds the characters read so far, the last one
first; `fuel` bounds the number of characters. -/
def readQuoted : (fuel : Nat) → (done : List Char) → List Char → Except Fault (String × List Char)
  | 0, _, _ => .error (.atEnd .endOfString)
  | fuel + 1, done, text =>
    match text with
    | [] => .error (.atEnd .endOfString)
    | c :: rest =>
      if c = '"' then .ok (String.ofList done.reverse, rest)
      else if c = '\\' then
        match readEscape rest with
        | .error fault => .error fault
        | .ok (character, after) => readQuoted fuel (character :: done) after
      else if c < ' ' then .error (.here .controlCharacter (c :: rest))
      else readQuoted fuel (c :: done) rest

/-- Passes over the escape behind a backslash; surrogates need no partner. -/
def skipEscape : List Char → Except Fault (List Char)
  | [] => .error (.atEnd .endOfString)
  | c :: rest =>
    if c = 'u' then
      match readHex4 rest with
      | .error fault => .error fault
      | .ok (_, after) => .ok after
    else if (shortEscape? c).isSome then .ok rest
    else .error (.here .invalidEscape (c :: rest))

/-- Passes over the string behind an opening quote. -/
def skipQuoted : (fuel : Nat) → List Char → Except Fault (List Char)
  | 0, _ => .error (.atEnd .endOfString)
  | fuel + 1, text =>
    match text with
    | [] => .error (.atEnd .endOfString)
    | c :: rest =>
      if c = '"' then .ok rest
      else if c = '\\' then
        match skipEscape rest with
        | .error fault => .error fault
        | .ok after => skipQuoted fuel after
      else if c < ' ' then .error (.behind .controlCharacter (c :: rest))
      else skipQuoted fuel rest

end GraphImport.Json
