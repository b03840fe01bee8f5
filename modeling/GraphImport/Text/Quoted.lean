import GraphImport.Text.Unprintable

/-!
# Quoted text

How a message quotes a piece of text: between double quotes, with short escapes for the quote, the
backslash and the common controls, and the code point in hexadecimal for every other character
that has no glyph of its own.

* `escaped` — one character as it stands between the quotes.
* `quoted` — a whole text.
-/

namespace GraphImport.Text

/-- The hexadecimal digits of a number, in lower case. -/
def hexadecimal (n : Nat) : String := String.ofList (Nat.toDigits 16 n)

/-- One character as it stands in quoted text. -/
def escaped (c : Char) : String :=
  if c = '"' then "\\\""
  else if c = '\\' then "\\\\"
  else if c = '\n' then "\\n"
  else if c = '\r' then "\\r"
  else if c = '\t' then "\\t"
  else if c = '\x00' then "\\0"
  else if isUnprintable c then "\\u\x7b" ++ hexadecimal c.toNat ++ "\x7d"
  else String.singleton c

/-- A text between double quotes. -/
def quoted (s : String) : String := "\"" ++ String.join (s.toList.map escaped) ++ "\""

end GraphImport.Text
