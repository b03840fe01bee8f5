/-!
# Parts of a text

* `parts` — what stands between separators.
* `isAscii` — the characters of 7 bits.
-/

namespace GraphImport.Text

/-- The parts of a text between separators. There is one part more than separators. -/
def parts (separator : Char → Bool) : List Char → List (List Char)
  | [] => [[]]
  | c :: rest =>
    match separator c, parts separator rest with
    | true, parts => [] :: parts
    | false, part :: parts => (c :: part) :: parts
    | false, [] => [[c]]

/-- The code point of the character has 7 bits. -/
def isAscii (c : Char) : Bool := c.toNat < 128

end GraphImport.Text
