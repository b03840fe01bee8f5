import GraphImport.Json.Reader

/-!
# Passing over JSON values

Members that nobody asked for are checked for their syntax only: nesting has no limit, numbers have
no range and surrogates need no partner. A stack of open brackets stands in for the nesting.

* `Json.skipValue` — passes over one value.
-/

namespace GraphImport.Json

/-- A bracket that is open. -/
inductive Bracket where
  /-- An array. -/
  | array
  /-- An object. -/
  | object
deriving DecidableEq

/-- The character that closes a bracket. -/
def Bracket.closing : Bracket → Char
  | array => ']'
  | object => '\x7d'

/-- The text ends inside the bracket. -/
def Bracket.endCause : Bracket → Cause
  | array => .endOfArray
  | object => .endOfObject

/-- A part is followed neither by a comma nor by the closing character. -/
def Bracket.closeCause : Bracket → Cause
  | array => .expectedArrayEnd
  | object => .expectedObjectEnd

/-- What is due next. -/
inductive Due where
  /-- A value. -/
  | value
  /-- The first part of the innermost bracket, or its end. -/
  | first
  /-- What follows a complete value. -/
  | afterValue
deriving DecidableEq

/-- Passes over a number. -/
def skipNumber (text : List Char) : Except Fault (List Char) :=
  match readNumeral text with
  | .ok (_, rest) => .ok rest
  | .error fault => .error { fault with cause := .invalidNumber }

/-- Passes over a value that is neither an array nor an object; `c` is its first character. -/
def skipScalar (fuel : Nat) (c : Char) (rest : List Char) : Except Fault (List Char) :=
  if c = 'n' then readWord "ull".toList rest
  else if c = 't' then readWord "rue".toList rest
  else if c = 'f' then readWord "alse".toList rest
  else if c = '"' then skipQuoted fuel rest
  else if startsNumber c then skipNumber (c :: rest)
  else .error (.here .expectedValue (c :: rest))

/-- Passes over what stands before a value inside a bracket: for an object, a key and its colon. -/
def skipKey (fuel : Nat) (bracket : Bracket) (text : List Char) : Except Fault (List Char) :=
  match bracket with
  | .array => .ok text
  | .object =>
    match skipBlank text with
    | [] => .error (.atEnd .endOfObject)
    | c :: rest =>
      if c = '"' then
        match skipQuoted fuel rest with
        | .error fault => .error fault
        | .ok rest => readColon rest
      else .error (.here .keyNotString (c :: rest))

/-- Passes over the text up to the end of the outermost value that is open. `opened` holds the open
brackets, the innermost one first. -/
def skipFrom : (fuel : Nat) → Due → (opened : List Bracket) → List Char →
    Except Fault (List Char)
  | 0, _, _, _ => .error (.atEnd .endOfValue)
  | fuel + 1, .value, opened, text =>
    match skipBlank text with
    | [] => .error (.atEnd .endOfValue)
    | c :: rest =>
      if c = '[' then skipFrom fuel .first (.array :: opened) rest
      else if c = '\x7b' then skipFrom fuel .first (.object :: opened) rest
      else
        match skipScalar fuel c rest with
        | .error fault => .error fault
        | .ok rest => skipFrom fuel .afterValue opened rest
  | _ + 1, _, [], text => .ok text
  | fuel + 1, due, bracket :: outer, text =>
    match skipBlank text with
    | [] => .error (.atEnd bracket.endCause)
    | c :: rest =>
      if c = bracket.closing then skipFrom fuel .afterValue outer rest
      else if due = .afterValue ∧ c ≠ ',' then .error (.here bracket.closeCause (c :: rest))
      else
        match skipKey fuel bracket (if due = .afterValue then rest else c :: rest) with
        | .error fault => .error fault
        | .ok rest => skipFrom fuel .value (bracket :: outer) rest

/-- Passes over one value. Between two characters there are at most two steps. -/
def skipValue (fuel : Nat) (text : List Char) : Except Fault (List Char) :=
  skipFrom (2 * fuel) .value [] text

end GraphImport.Json
