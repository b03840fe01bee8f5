/-!
# Ranges of code points

Sets of characters, as properties of characters are listed.

* `Ranges` — ranges of code points.
* `Ranges.contain` — membership of a character.
-/

namespace GraphImport.Text

/-- Ranges of code points, each by its first and last one. -/
abbrev Ranges := List (Nat × Nat)

/-- The code point of the character lies in one of the ranges. -/
def Ranges.contain (ranges : Ranges) (c : Char) : Bool :=
  ranges.any fun range => range.1 ≤ c.toNat && c.toNat ≤ range.2

end GraphImport.Text
