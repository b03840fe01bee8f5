/-!
# Tables of characters

Long tables are kept as text: numbers in hexadecimal digits, blanks between the numbers of an
entry, semicolons between entries.

* `Host.tableOf` — the entries of a table.
-/

namespace GraphImport.Host

/-- The value of a hexadecimal digit. -/
def hexValue? (c : Char) : Option Nat :=
  if c.isDigit then some (c.toNat - '0'.toNat)
  else if 'a' ≤ c ∧ c ≤ 'f' then some (c.toNat - 'a'.toNat + 10)
  else if 'A' ≤ c ∧ c ≤ 'F' then some (c.toNat - 'A'.toNat + 10)
  else none

/-- The number with one more digit behind it, if the digit is one of the base. -/
def appendDigit? (base n : Nat) (c : Char) : Option Nat := do
  let digit ← hexValue? c
  if digit < base then some (n * base + digit) else none

/-- The number that digits of a base stand for. No digits stand for zero. -/
def numeral? (base : Nat) (digits : List Char) : Option Nat := digits.foldlM (appendDigit? base) 0

/-- The numbers of an entry. -/
def entryOf (text : String) : List Nat :=
  (text.splitOn " ").filterMap fun word => numeral? 16 word.toList

/-- The entries in the rows of a table. -/
def tableOf (rows : List String) : List (List Nat) :=
  rows.flatMap fun row => (row.splitOn ";").map entryOf

end GraphImport.Host
