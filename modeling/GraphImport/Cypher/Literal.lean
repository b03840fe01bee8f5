import GraphImport.Decimal.Notation
import GraphImport.Property.Properties
import GraphImport.Scope

/-!
# Cypher literals

Property values as the query language writes them. A string stands between single quotes, either as
it is or with its special characters escaped.

* `StringMode` — how strings are written.
* `Cypher.needsEscape`, `Cypher.escape` — which strings are escaped, and how.
* `Cypher.quoteEscaped`, `Cypher.quotePlain` — strings between quotes.
* `Cypher.literal` — a value.
* `Cypher.mapLiteral`, `Cypher.setItems` — properties as a map, and field by field.
* `Cypher.labels` — the labels of a node.
-/

namespace GraphImport

/-- How strings are written. -/
inductive StringMode where
  /-- As they are. -/
  | verbatim
  /-- With special characters escaped. -/
  | escaped
deriving DecidableEq

namespace Cypher

/-! ## Strings -/

/-- One character of an escaped string. -/
def escapedChar (c : Char) : String :=
  if c = '\\' then "\\\\"
  else if c = '\x27' then "\\'"
  else if c = '"' then "\\\""
  else if c = '\n' then "\\n"
  else if c = '\r' then "\\r"
  else if c = '\t' then "\\t"
  else if c = '\x00' then "\\u0000"
  else String.singleton c

/-- The characters that do not stand in an escaped string as they are. -/
def special : List Char := ['\\', '\x27', '"', '\n', '\r', '\t', '\x00']

/-- The string holds a special character. -/
def needsEscape (s : String) : Bool := s.toList.any special.contains

/-- A string with its special characters escaped. A string without them is taken as it is. -/
def escape (s : String) : String :=
  if needsEscape s then String.join (s.toList.map escapedChar) else s

/-- A string between quotes, as it is. -/
def quotePlain (s : String) : String := "'" ++ s ++ "'"

/-- A string between quotes, escaped. -/
def quoteEscaped (s : String) : String := quotePlain (escape s)

/-- A string as a literal. -/
def quote : StringMode → String → String
  | .verbatim => quotePlain
  | .escaped => quoteEscaped

/-! ## Values -/

/-- A double as a literal: all its digits around a point. What is no number is written as a
division that gives it. -/
def doubleText (x : Binary64) : String :=
  if x.isNaN then "0.0/0.0"
  else if x.isInfinite then x.signText ++ "1.0/0.0"
  else x.signText ++ (Decimal.shortest .up x).positional

mutual

/-- A value as a literal. -/
def literal (mode : StringMode) : Value → String
  | .null => "null"
  | .bool b => if b then "true" else "false"
  | .int n => toString n
  | .double x => doubleText x
  | .string s => quote mode s
  | .list items => "[" ++ String.intercalate ", " (literals mode items) ++ "]"

/-- The literals of the items of a list. -/
def literals (mode : StringMode) : List Value → List String
  | [] => []
  | item :: rest => literal mode item :: literals mode rest

end

/-! ## Properties -/

/-- The properties that are not null as a map. -/
def mapLiteral (mode : StringMode) (p : Properties) : String :=
  let fields := p.present.map fun (key, value) => key ++ ": " ++ literal mode value
  if fields.isEmpty then "\x7b\x7d"
  else "\x7b " ++ String.intercalate ", " fields ++ " \x7d"

/-- The properties that are not null, each assigned to a field of a variable. -/
def setItems (mode : StringMode) (v : Variable) (p : Properties) : String :=
  String.intercalate ", " <|
    p.present.map fun (key, value) => v.name ++ "." ++ key ++ " = " ++ literal mode value

/-- The labels of a node, each behind a colon. -/
def labels (names : List String) : String := String.join (names.map fun name => ":" ++ name)

end Cypher

end GraphImport
