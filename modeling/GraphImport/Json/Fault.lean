import GraphImport.Decimal.Notation
import GraphImport.Json.Basic
import GraphImport.Text.Quoted

/-!
# Faults of JSON text

What can be wrong with a JSON text, and where. While a text is read a fault remembers the text that
was still to come; its line and column are worked out once, from the whole text.

* `Json.Cause` — what is wrong, with `Json.Cause.message`.
* `Json.Fault` — a cause and the rest of the text.
* `Json.locate` — line and column of a byte index.
* `Json.ReadError` — a cause with a position, or without one when no text was read.
-/

namespace GraphImport.Json

/-! ## Causes -/

/-- What stands where something else was expected. -/
inductive Found where
  /-- The value `null`. -/
  | null
  /-- A truth value. -/
  | bool (b : Bool)
  /-- An integer. -/
  | integer (n : Int)
  /-- A double. -/
  | double (x : Binary64)
  /-- A string. -/
  | string (s : String)
  /-- An array. -/
  | sequence
  /-- An object. -/
  | map
deriving DecidableEq

/-- How a message names what it found. -/
def Found.text : Found → String
  | null => "null"
  | bool b => "boolean `" ++ (if b then "true" else "false") ++ "`"
  | integer n => "integer `" ++ toString n ++ "`"
  | double x => "floating point `" ++ x.diagnosticText ++ "`"
  | string s => "string " ++ Text.quoted s
  | sequence => "sequence"
  | map => "map"

/-- What a message calls a value. -/
def found : Json → Found
  | null => .null
  | bool b => .bool b
  | number (.integer n) => .integer n
  | number (.double x) => .double x
  | string s => .string s
  | array _ => .sequence
  | object _ => .map

/-- What can be wrong with a JSON text, or with a value of the wrong shape. -/
inductive Cause where
  /-- The text ends where a value is due. -/
  | endOfValue
  /-- The text ends inside an array. -/
  | endOfArray
  /-- The text ends inside an object. -/
  | endOfObject
  /-- The text ends inside a string. -/
  | endOfString
  /-- No value starts here. -/
  | expectedValue
  /-- A key is not followed by a colon. -/
  | expectedColon
  /-- An item is followed neither by a comma nor by the end of the array. -/
  | expectedArrayEnd
  /-- A member is followed neither by a comma nor by the end of the object. -/
  | expectedObjectEnd
  /-- A word starts like `true`, `false` or `null` and goes on differently. -/
  | expectedWord
  /-- A key is not a string. -/
  | keyNotString
  /-- A comma is followed by a closing bracket. -/
  | trailingComma
  /-- Something follows where the text should end. -/
  | trailingText
  /-- Arrays and objects are nested too deep. -/
  | tooDeep
  /-- A number is not written as one. -/
  | invalidNumber
  /-- A number is too large for a double. -/
  | numberOutOfRange
  /-- A backslash is followed by no known escape. -/
  | invalidEscape
  /-- A string holds a control character that is not escaped. -/
  | controlCharacter
  /-- The first half of a surrogate pair is followed by no other escape. -/
  | endOfEscape
  /-- A surrogate has no partner. -/
  | loneSurrogate
  /-- A value has the wrong type. -/
  | wrongType (found : Found) (expected : String)
  /-- A value of the right type is out of bounds. -/
  | wrongValue (found : Found) (expected : String)
  /-- An array has the wrong number of items. -/
  | wrongLength (length : Nat) (expected : String)
  /-- A record lacks a field. -/
  | missingField (name : String)
  /-- A record has a field twice. -/
  | duplicateField (name : String)
  /-- A string is none of the allowed ones. -/
  | unknownVariant (found : String) (expected : List String)
deriving DecidableEq

/-- A name between backquotes. -/
def backquoted (name : String) : String := "`" ++ name ++ "`"

/-- The allowed variants, as a message lists them. -/
def variantList : List String → String
  | [] => "there are no variants"
  | [a] => "expected " ++ backquoted a
  | [a, b] => "expected " ++ backquoted a ++ " or " ++ backquoted b
  | names => "expected one of " ++ String.intercalate ", " (names.map backquoted)

/-- The wording of a cause. -/
def Cause.message : Cause → String
  | endOfValue => "EOF while parsing a value"
  | endOfArray => "EOF while parsing a list"
  | endOfObject => "EOF while parsing an object"
  | endOfString => "EOF while parsing a string"
  | expectedValue => "expected value"
  | expectedColon => "expected `:`"
  | expectedArrayEnd => "expected `,` or `]`"
  | expectedObjectEnd => "expected `,` or `\x7d`"
  | expectedWord => "expected ident"
  | keyNotString => "key must be a string"
  | trailingComma => "trailing comma"
  | trailingText => "trailing characters"
  | tooDeep => "recursion limit exceeded"
  | invalidNumber => "invalid number"
  | numberOutOfRange => "number out of range"
  | invalidEscape => "invalid escape"
  | controlCharacter => "control character (\\u0000-\\u001F) found while parsing a string"
  | endOfEscape => "unexpected end of hex escape"
  | loneSurrogate => "lone leading surrogate in hex escape"
  | wrongType found expected => "invalid type: " ++ found.text ++ ", expected " ++ expected
  | wrongValue found expected => "invalid value: " ++ found.text ++ ", expected " ++ expected
  | wrongLength length expected =>
    "invalid length " ++ toString length ++ ", expected " ++ expected
  | missingField name => "missing field " ++ backquoted name
  | duplicateField name => "duplicate field " ++ backquoted name
  | unknownVariant found expected =>
    "unknown variant " ++ backquoted found ++ ", " ++ variantList expected

/-! ## Faults and positions -/

/-- A cause, the text that was still to come, and how many bytes of that text belong to the
position all the same. -/
structure Fault where
  /-- What is wrong. -/
  cause : Cause
  /-- The text that was still to come. -/
  rest : List Char
  /-- How many bytes of the rest are counted as read. -/
  ahead : Nat
deriving DecidableEq

/-- A fault of the character that comes next; its first byte is counted. -/
def Fault.here (cause : Cause) (rest : List Char) : Fault := ⟨cause, rest, 1⟩

/-- A fault of what has just been read. -/
def Fault.behind (cause : Cause) (rest : List Char) : Fault := ⟨cause, rest, 0⟩

/-- A fault of the end of the text. -/
def Fault.atEnd (cause : Cause) : Fault := ⟨cause, [], 0⟩

/-- A place in a text: lines count from one, columns are bytes since the start of the line. -/
structure Position where
  /-- The line, from one. -/
  line : Nat
  /-- The bytes of the line in front of the place. -/
  column : Nat
deriving DecidableEq

/-- The start of a text. -/
def Position.start : Position := ⟨1, 0⟩

/-- The place after so many more bytes of the text, at most after its end. -/
def locate : List Char → (bytes : Nat) → Position → Position
  | [], _, here => here
  | c :: rest, bytes, here =>
    if bytes < c.utf8Size then ⟨here.line, here.column + bytes⟩
    else if c = '\n' then locate rest (bytes - 1) ⟨here.line + 1, 0⟩
    else locate rest (bytes - c.utf8Size) ⟨here.line, here.column + c.utf8Size⟩

/-- Number of bytes of a text in UTF-8. -/
def byteCount (text : List Char) : Nat := text.foldl (fun count c => count + c.utf8Size) 0

/-- The position of a fault in the text in which it was found. -/
def Fault.position (text : List Char) (fault : Fault) : Position :=
  locate text (byteCount text - byteCount fault.rest + fault.ahead) .start

/-- Why JSON could not be read. There is a position only where a text was read. -/
structure ReadError where
  /-- What is wrong. -/
  cause : Cause
  /-- Where. -/
  position : Option Position
deriving DecidableEq

/-- The wording of an error, with its position. -/
def ReadError.message (error : ReadError) : String :=
  error.cause.message ++
    match error.position with
    | none => ""
    | some place => " at line " ++ toString place.line ++ " column " ++ toString place.column

end GraphImport.Json
