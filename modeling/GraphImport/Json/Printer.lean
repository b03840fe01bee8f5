import GraphImport.Json.Quote

/-!
# Writing JSON values

* `Json.compact` — a value on one line without blanks.
* `Json.pretty` — a value with one part per line, indented by two spaces per level.
-/

namespace GraphImport.Json

/-- A number as JSON text. -/
def Number.text : Number → String
  | integer n => toString n
  | double x => x.diagnosticText

/-! ## On one line -/

mutual

/-- A value on one line, without blanks. -/
def compact : Json → String
  | null => "null"
  | bool b => if b then "true" else "false"
  | number n => n.text
  | string s => quote s
  | array items => "[" ++ String.intercalate "," (compactItems items) ++ "]"
  | object members => "\x7b" ++ String.intercalate "," (compactMembers members) ++ "\x7d"

/-- The items of an array. -/
def compactItems : List Json → List String
  | [] => []
  | item :: rest => compact item :: compactItems rest

/-- The members of an object, each with its key. -/
def compactMembers : List (String × Json) → List String
  | [] => []
  | (key, value) :: rest => (quote key ++ ":" ++ compact value) :: compactMembers rest

end

/-! ## On several lines -/

/-- A line break and the indentation of a level. -/
def lineBreak (level : Nat) : String := "\n" ++ String.ofList (List.replicate (2 * level) ' ')

/-- Parts between brackets, one per line; no parts, no lines. -/
def bracketed (opening closing : String) (level : Nat) (parts : List String) : String :=
  if parts.isEmpty then opening ++ closing
  else
    opening ++ lineBreak (level + 1) ++ String.intercalate ("," ++ lineBreak (level + 1)) parts
      ++ lineBreak level ++ closing

mutual

/-- A value on several lines, as it stands at a level of indentation. -/
def prettyAt : (level : Nat) → Json → String
  | _, null => "null"
  | _, bool b => if b then "true" else "false"
  | _, number n => n.text
  | _, string s => quote s
  | level, array items => bracketed "[" "]" level (prettyItems (level + 1) items)
  | level, object members => bracketed "\x7b" "\x7d" level (prettyMembers (level + 1) members)

/-- The items of an array. -/
def prettyItems : (level : Nat) → List Json → List String
  | _, [] => []
  | level, item :: rest => prettyAt level item :: prettyItems level rest

/-- The members of an object, each with its key. -/
def prettyMembers : (level : Nat) → List (String × Json) → List String
  | _, [] => []
  | level, (key, value) :: rest =>
    (quote key ++ ": " ++ prettyAt level value) :: prettyMembers level rest

end

/-- A value on several lines. -/
def pretty (value : Json) : String := prettyAt 0 value

end GraphImport.Json
