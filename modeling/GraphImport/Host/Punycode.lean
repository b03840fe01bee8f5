import GraphImport.Power
import GraphImport.Text.Parts

/-!
# Punycode

The way in which a label with characters beyond ASCII is written with letters, digits and hyphens.
The ASCII characters stand in front of the last hyphen. Behind it digits tell, one character after
the other and in the order of code points, which character is to be inserted and where. The weights
of the digits adapt to the distances met so far.

* `Host.Punycode.decode?` — the label that a text stands for.
-/

namespace GraphImport.Host.Punycode

/-! ## Digits -/

/-- The value of a digit: letters come before decimal digits. -/
def digitValue? (c : Char) : Option Nat :=
  if 'a' ≤ c ∧ c ≤ 'z' then some (c.toNat - 'a'.toNat)
  else if 'A' ≤ c ∧ c ≤ 'Z' then some (c.toNat - 'A'.toNat)
  else if c.isDigit then some (c.toNat - '0'.toNat + 26)
  else none

/-- Number of digits. -/
def base : Nat := 36

/-- A digit below this value ends a number; `place` counts the places in steps of the base. -/
def threshold (place bias : Nat) : Nat :=
  if place ≤ bias then 1 else if bias + 26 ≤ place then 26 else place - bias

/-- Divides a distance until the thresholds can span it; counts the places. -/
def narrow (distance places : Nat) : Nat × Nat :=
  if 455 < distance then narrow (distance / 35) (places + base) else (distance, places)
termination_by distance
decreasing_by exact Nat.div_lt_self (by omega) (by omega)

/-- The bias for the next number, after a distance has been read for the given number of
characters. The first distance is damped, as it spans the way from ASCII. -/
def adapt (distance characters : Nat) (isFirst : Bool) : Nat :=
  let damped := if isFirst then distance / 700 else distance / 2
  let (distance, places) := narrow (damped + damped / characters) 0
  places + base * distance / (distance + 38)

/-! ## Decoding -/

/-- What has been read. -/
structure Decoding where
  /-- The characters so far. -/
  text : List Char
  /-- The code point of the last insertion. -/
  point : Nat
  /-- Where the last insertion was, and in the middle of a number the number so far on top. -/
  position : Nat
  /-- The bias of the thresholds. -/
  bias : Nat
  /-- The position in front of the number. -/
  origin : Nat
  /-- The weight of the next digit. -/
  weight : Nat
  /-- The place of the next digit. -/
  place : Nat

/-- The code points of insertions are at least 128. -/
def Decoding.start (text : List Char) : Decoding := ⟨text, 128, 0, 72, 0, 1, base⟩

/-- Numbers have 32 bits. -/
def bound : Nat := 2 ^ 32

/-- The character with a code point. -/
def charOf? (n : Nat) : Option Char := if n.isValidChar then some (Char.ofNat n) else none

/-- Inserts a character when a number has been read. -/
def Decoding.insert (d : Decoding) : Option Decoding := do
  let count := d.text.length + 1
  let point := d.point + d.position / count
  let position := d.position % count
  let c ← charOf? point
  let bias := adapt (d.position - d.origin) count (d.origin == 0)
  return ⟨d.text.insertIdx position c, point, position + 1, bias, position + 1, 1, base⟩

/-- Reads a digit. -/
def Decoding.read (d : Decoding) (c : Char) : Option Decoding := do
  let digit ← digitValue? c
  let position := d.position + digit * d.weight
  let limit := threshold d.place d.bias
  if bound ≤ position then none
  else if digit < limit then Decoding.insert { d with position }
  else
    let weight := d.weight * (base - limit)
    if bound ≤ weight then none else some { d with position, weight, place := d.place + base }

/-- The ASCII characters of a label, and the digits behind the last hyphen. There is no hyphen
without characters in front of it. -/
def split (text : List Char) : List Char × List Char :=
  let digits := (text.reverse.takeWhile (· != '-')).reverse
  let plain := text.take (text.length - digits.length - 1)
  if plain.isEmpty then ([], text) else (plain, digits)

/-- The label that a text stands for. -/
def decode? (text : List Char) : Option (List Char) := do
  let (plain, digits) := split text
  let d ← digits.foldlM Decoding.read (.start plain)
  if d.place = base then some d.text else none

end GraphImport.Host.Punycode
