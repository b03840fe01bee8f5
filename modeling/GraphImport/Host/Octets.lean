import GraphImport.Host.Table
import GraphImport.Power
import GraphImport.Text.Parts

/-!
# Addresses of four numbers

An address of 32 bits, as up to four numbers with points between them. A number may be written
with decimal, octal (behind `0`) or hexadecimal digits (behind `0x`), and the last one stands for
all bytes that are left.

* `Host.endsInNumber` — the texts that have to be such addresses.
* `Host.octets?` — the address of a text.
-/

namespace GraphImport.Host

/-- The value of a part. Behind a mark of the base there may be no digits. -/
def partValue? (part : List Char) : Option Nat :=
  match part with
  | [] => none
  | ['0'] => some 0
  | '0' :: 'x' :: digits => numeral? 16 digits
  | '0' :: 'X' :: digits => numeral? 16 digits
  | '0' :: digits => numeral? 8 digits
  | digits => numeral? 10 digits

/-- The parts between points; a point may stand at the end. -/
def octetParts (text : List Char) : List (List Char) :=
  let parts := Text.parts (· == '.') text
  if parts.getLast? = some [] then parts.dropLast else parts

/-- The last part is a number, or at least has only decimal digits. -/
def endsInNumber (text : List Char) : Bool :=
  match (octetParts text).getLast? with
  | none => false
  | some part => (!part.isEmpty && part.all Char.isDigit) || (partValue? part).isSome

/-- The address of four numbers that a text stands for. -/
def octets? (text : List Char) : Option Nat := do
  let numbers ← (octetParts text).mapM partValue?
  let last ← numbers.getLast?
  let front := numbers.dropLast
  if front.length < 4 ∧ front.all (· < 256) ∧ last < 256 ^ (4 - front.length) then
    some (front.foldl (fun n octet => n * 256 + octet) 0 * 256 ^ (4 - front.length) + last)
  else none

end GraphImport.Host
